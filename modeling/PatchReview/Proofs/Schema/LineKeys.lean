import Mathlib.Data.List.Basic
import Mathlib.Data.List.TakeWhile
import PatchReview.Proofs.Number.Numerals
import PatchReview.Schema.WholeText

/-! Whole numbers as keys. A key spells a number by its digits, which zeros and a sign may go before. It is read
as the number exactly when the number has no more digits than the limit.
-/

namespace PatchReview

open PatchReview.Json (isAsciiDigit digitValues ne_of_digit)

-----------------------------------------------------------------------------------------
-- Digits
-----------------------------------------------------------------------------------------

namespace Numeral

/-- The number that digits spell. -/
def value (digits : List Char) : Nat := Text.digitsValue (digitValues digits)

/-- (IsDigits cs) says that characters are digits, one at least. -/
structure IsDigits (cs : List Char) : Prop where
  present : cs ≠ []
  each : ∀ c ∈ cs, isAsciiDigit c = true

theorem value_append_singleton (digits : List Char) (last : Char)
    : value (digits ++ [last]) = value digits * 10 + (last.toNat - 0x30) := by
  simp [value, Text.digitsValue, digitValues]

/-- A digit is the character of a number below ten. -/
theorem eq_digitChar_of_isAsciiDigit {c : Char} (digit : isAsciiDigit c = true)
    : c.toNat - 0x30 < 10 ∧ c = Nat.digitChar (c.toNat - 0x30) := by
  have range : 0x30 ≤ c.toNat ∧ c.toNat ≤ 0x39 := by
    simpa [isAsciiDigit, Char.le_def, UInt32.le_iff_toNat_le] using digit
  refine ⟨by omega, Char.toNat_inj.mp ?_⟩
  rw [Nat.toNat_digitChar_of_lt_ten (by omega)]
  omega

/-- Digits without a zero in front are the digits of the number that they spell, by induction on them from their
end.
-/
theorem toDigits_value {digits : List Char} (numeral : IsDigits digits) (lead : digits.head? ≠ some '0')
    : 0 < value digits ∧ Nat.toDigits 10 (value digits) = digits := by
  induction digits using List.reverseRecOn with
  | nil => exact absurd rfl numeral.present
  | append_singleton before last ih =>
      obtain ⟨small, spelled⟩ := eq_digitChar_of_isAsciiDigit (numeral.each last (by simp))
      rw [value_append_singleton]
      by_cases single : before = []
      · subst single
        have positive : last.toNat - 0x30 ≠ 0 := by
          intro zero
          rw [zero] at spelled
          exact lead (by rw [spelled]; rfl)
        show 0 < 0 * 10 + _ ∧ Nat.toDigits 10 (0 * 10 + _) = [last]
        rw [Nat.zero_mul, Nat.zero_add, Nat.toDigits_of_lt_base small, ← spelled]
        exact ⟨Nat.pos_of_ne_zero positive, rfl⟩
      · have first : before.head? ≠ some '0' := by
          rwa [List.head?_append_of_ne_nil before single] at lead
        obtain ⟨positive, same⟩ :=
          ih ⟨single, fun c member => numeral.each c (List.mem_append_left _ member)⟩ first
        refine ⟨by omega, ?_⟩
        rw [Nat.toDigits_of_base_le (by decide) (by omega)]
        rw [show (value before * 10 + (last.toNat - 0x30)) / 10 = value before by omega, same,
          show (value before * 10 + (last.toNat - 0x30)) % 10 = last.toNat - 0x30 by omega, ← spelled]

theorem isDigits_toDigits (n : Nat) : IsDigits (Nat.toDigits 10 n) :=
  ⟨Nat.toDigits_ne_nil, fun _ => isAsciiDigit_of_mem⟩

end Numeral

open Numeral

namespace WholeText

-----------------------------------------------------------------------------------------
-- Digits as they are read
-----------------------------------------------------------------------------------------

/-- The sign in front of a number. -/
def sign (negative : Bool) : List Char := if negative then ['-'] else []

/-- What digits are read as: a zero in front of others is refused before their count is looked at. -/
theorem strict_digits {digits : List Char} (numeral : IsDigits digits) (negative : Bool)
    : strict (sign negative ++ digits)
      = if digits.head? = some '0' ∧ digits.length ≠ 1 then .malformed
        else if digits.length > Integer.maxDigits then .tooLong
        else .number (if negative then -(value digits : Int) else value digits) := by
  have unsigned : (digits.head? == some '-') = false := by
    rw [beq_eq_false_iff_ne]
    intro minus
    have digit := numeral.each '-' (List.mem_of_head? minus)
    exact absurd digit (by decide)
  have taken : digits.takeWhile isAsciiDigit = digits := List.takeWhile_eq_self_iff.mpr numeral.each
  have nonempty : digits.isEmpty = false := by simpa using numeral.present
  cases negative with
  | true =>
      simp [strict, sign, taken, nonempty, value]
  | false =>
      simp [strict, sign, unsigned, taken, nonempty, value]

/-- The digits of a number are read as the number when they are no more than the limit. -/
theorem strict_toDigits (n : Nat) (negative : Bool)
    : strict (sign negative ++ Nat.toDigits 10 n)
      = if Integer.IsShort n then .number (if negative then -(n : Int) else n) else .tooLong := by
  have single : ¬ ((Nat.toDigits 10 n).head? = some '0' ∧ (Nat.toDigits 10 n).length ≠ 1) := by
    rintro ⟨zero, several⟩
    rcases Nat.eq_zero_or_pos n with rfl | positive
    · exact several rfl
    · exact head?_toDigits positive zero
  have limit : (Nat.toDigits 10 n).length > Integer.maxDigits ↔ ¬ Integer.IsShort n := by
    rw [gt_iff_lt, ← Nat.not_le, Nat.length_toDigits_le_iff (by decide) (by decide)]
    rfl
  have value : value (Nat.toDigits 10 n) = n := digitsValue_toDigits n
  rw [strict_digits (isDigits_toDigits n), if_neg single, value]
  by_cases short : Integer.IsShort n
  · rw [if_neg (limit.not.mpr (not_not.mpr short)), if_pos short]
  · rw [if_pos (limit.mpr short), if_neg short]

-----------------------------------------------------------------------------------------
-- Zeros in front
-----------------------------------------------------------------------------------------

theorem value_zero_cons (digits : List Char) : value ('0' :: digits) = value digits := rfl

/-- Zeros in front do not change the number that digits spell, by induction on them. -/
theorem value_dropWhile {isDropped : Char → Bool} {digits : List Char}
    (zeros : ∀ c ∈ digits, isDropped c = true → c = '0')
    : value (digits.dropWhile isDropped) = value digits := by
  induction digits with
  | nil => rfl
  | cons first rest ih =>
      obtain ⟨here, others⟩ := List.forall_mem_cons.mp zeros
      by_cases dropped : isDropped first = true
      · rw [List.dropWhile_cons_of_pos dropped, ih others, here dropped, value_zero_cons]
      · rw [List.dropWhile_cons_of_neg dropped]

/-- Of digits that a zero goes before those of the number that they spell are left, by cases on whether one of
them is no zero.
-/
theorem dropZeros?_zero_cons {digits : List Char} (each : ∀ c ∈ digits, isAsciiDigit c = true)
    : dropZeros? ('0' :: digits) = some (Nat.toDigits 10 (value digits)) := by
  have zero : ∀ c ∈ digits, (c == '0' || c == '_') = true → c = '0' := by
    intro c member dropped
    simpa [ne_of_digit (each c member) (show isAsciiDigit '_' = false by decide)] using dropped
  rw [dropZeros?, ← value_dropWhile zero]
  cases left : digits.dropWhile (fun c => c == '0' || c == '_') with
  | nil =>
      have last : ('0' :: digits).getLast? = some '0' := by
        rw [List.getLast?_eq_some_getLast (List.cons_ne_nil _ _), Option.some.injEq]
        rcases List.mem_cons.mp (List.getLast_mem (List.cons_ne_nil '0' digits)) with first | member
        · exact first
        · exact zero _ member (List.dropWhile_eq_nil_iff.mp left _ member)
      simp only [last]
      rfl
  | cons c more =>
      have suffix : c :: more <:+ digits := left ▸ List.dropWhile_suffix _
      have numeral : IsDigits (c :: more) :=
        ⟨List.cons_ne_nil c more, fun d member => each d (suffix.subset member)⟩
      have nonzero : (c :: more).head? ≠ some '0' := by
        rintro ⟨⟩
        have kept := List.head_dropWhile_not (fun c => c == '0' || c == '_') (left ▸ List.cons_ne_nil '0' more)
        simp only [left, List.head_cons] at kept
        exact absurd kept (by decide)
      simp only [numeral.each c List.mem_cons_self, Bool.true_or, if_true, (toDigits_value numeral nonzero).2]

/-- Of digits those of the number that they spell are left when the zeros in front are dropped. -/
theorem dropZeros?_eq_toDigits {digits : List Char} (numeral : IsDigits digits)
    : dropZeros? digits = some (Nat.toDigits 10 (value digits)) := by
  obtain ⟨first, rest, rfl⟩ := List.exists_cons_of_ne_nil numeral.present
  obtain ⟨here, others⟩ := List.forall_mem_cons.mp numeral.each
  by_cases lead : first = '0'
  · subst lead
    rw [value_zero_cons, dropZeros?_zero_cons others]
  · have nonzero : (first :: rest).head? ≠ some '0' := by simpa using lead
    rw [(toDigits_value numeral nonzero).2, dropZeros?]
    · simp only [here, Bool.true_or, if_true]
    · exact lead

/-- Digits are cleaned to the digits of the number that they spell: they have no point and no underscores. -/
theorem cleanBody?_eq_toDigits {digits : List Char} (numeral : IsDigits digits)
    : cleanBody? digits = some (Nat.toDigits 10 (value digits)) := by
  have noPoint : digits.dropWhile (· != '.') = [] := by
    refine List.dropWhile_eq_nil_iff.mpr fun c member => ?_
    simpa using ne_of_digit (numeral.each c member) (show isAsciiDigit '.' = false by decide)
  have noMark : (Nat.toDigits 10 (value digits)).filter (· != '_') = Nat.toDigits 10 (value digits) := by
    refine List.filter_eq_self.mpr fun c member => ?_
    simpa using ne_of_digit (isAsciiDigit_of_mem member) (show isAsciiDigit '_' = false by decide)
  have fraction : dropZeroFraction digits = digits := by rw [dropZeroFraction, noPoint]
  have marks : dropUnderscores (Nat.toDigits 10 (value digits)) = Nat.toDigits 10 (value digits) := by
    rw [dropUnderscores, noMark, ite_self]
  rw [cleanBody?, fraction, dropZeros?_eq_toDigits numeral, Option.map_some, marks]

-----------------------------------------------------------------------------------------
-- Spelled numbers
-----------------------------------------------------------------------------------------

/-- (Spells cs n) says that characters spell a number: its digits, which zeros and a sign may go before. -/
inductive Spells : List Char → Int → Prop where
  | unsigned {digits} (numeral : IsDigits digits) : Spells digits (value digits)
  | plus {digits} (numeral : IsDigits digits) : Spells ('+' :: digits) (value digits)
  | minus {digits} (numeral : IsDigits digits) : Spells ('-' :: digits) (-(value digits : Int))

/-- The text of a number spells it. -/
theorem spells_toString (n : Int) : Spells (toString n).toList n := by
  have spelled : value (Nat.toDigits 10 n.natAbs) = n.natAbs := digitsValue_toDigits n.natAbs
  rw [toList_toString]
  by_cases negative : n < 0
  · rw [if_pos negative]
    have digits := Spells.minus (isDigits_toDigits n.natAbs)
    rwa [spelled, show -(n.natAbs : Int) = n by omega] at digits
  · rw [if_neg negative]
    have digits := Spells.unsigned (isDigits_toDigits n.natAbs)
    rwa [spelled, show (n.natAbs : Int) = n by omega] at digits

/-- Nothing is trimmed from characters that are no margins. -/
theorem trimMargins_eq_self {cs : List Char} (inner : ∀ c ∈ cs, Integer.isMargin c = false)
    : Integer.trimMargins cs = cs := by
  have kept : ∀ {ds : List Char}, (∀ c ∈ ds, Integer.isMargin c = false)
      → ds.dropWhile Integer.isMargin = ds := by
    intro ds outer
    refine List.dropWhile_eq_self_iff.mpr fun some => ?_
    simp [outer _ (List.getElem_mem some)]
  rw [Integer.trimMargins, kept inner, kept (by simpa using inner), List.reverse_reverse]

theorem isMargin_of_isAsciiDigit {c : Char} (digit : isAsciiDigit c = true) : Integer.isMargin c = false := by
  obtain ⟨small, spelled⟩ := eq_digitChar_of_isAsciiDigit digit
  have none : ∀ d < 10, Integer.isMargin (Nat.digitChar d) = false := by decide
  rw [spelled]
  exact none _ small

/-- Digits that are not those of the number that they spell are not read at first. -/
theorem strict_eq_malformed_or_eq {digits : List Char} (numeral : IsDigits digits) (negative : Bool)
    : strict (sign negative ++ digits) = .malformed ∨ digits = Nat.toDigits 10 (value digits) := by
  by_cases lead : digits.head? = some '0'
  · by_cases single : digits.length = 1
    · obtain ⟨c, rfl⟩ := List.length_eq_one_iff.mp single
      obtain rfl := Option.some.inj lead
      exact Or.inr rfl
    · left
      rw [strict_digits numeral, if_pos ⟨lead, single⟩]
  · exact Or.inr (toDigits_value numeral lead).2.symm

/-- What spells a number is cleaned to a minus, if any, and the number's digits, and is not read at first where
that changes it.
-/
theorem exists_clean?_of_spells {cs : List Char} {n : Int} (spelled : Spells cs n)
    : ∃ (negative : Bool) (size : Nat),
        n = (if negative then -(size : Int) else size)
        ∧ clean? cs = some (sign negative ++ Nat.toDigits 10 size)
        ∧ (strict cs = .malformed ∨ cs = sign negative ++ Nat.toDigits 10 size) := by
  have inner : ∀ {digits}, IsDigits digits → ∀ c ∈ digits, Integer.isMargin c = false :=
    fun numeral c member => isMargin_of_isAsciiDigit (numeral.each c member)
  have plus : isAsciiDigit '+' = false := by decide
  have minus : isAsciiDigit '-' = false := by decide
  cases spelled with
  | unsigned numeral =>
      refine ⟨false, value cs, rfl, ?_, strict_eq_malformed_or_eq numeral false⟩
      unfold clean?
      rw [trimMargins_eq_self (inner numeral)]
      split
      next => exact absurd rfl (ne_of_digit (numeral.each _ List.mem_cons_self) plus)
      next => exact absurd rfl (ne_of_digit (numeral.each _ List.mem_cons_self) plus)
      next => exact absurd rfl (ne_of_digit (numeral.each _ List.mem_cons_self) minus)
      next => exact cleanBody?_eq_toDigits numeral
  | @plus digits numeral =>
      refine ⟨false, value digits, rfl, ?_, Or.inl rfl⟩
      unfold clean?
      rw [trimMargins_eq_self (List.forall_mem_cons.mpr ⟨by decide, inner numeral⟩)]
      split
      next same =>
        obtain ⟨-, rfl⟩ := List.cons.inj same
        exact absurd rfl (ne_of_digit (numeral.each _ List.mem_cons_self) minus)
      next same =>
        obtain ⟨-, rfl⟩ := List.cons.inj same
        exact cleanBody?_eq_toDigits numeral
      next same => exact absurd (List.cons.inj same).1 (by decide)
      next other _ => exact absurd rfl (other digits)
  | @minus digits numeral =>
      refine ⟨true, value digits, rfl, ?_, ?_⟩
      · unfold clean?
        rw [trimMargins_eq_self (List.forall_mem_cons.mpr ⟨by decide, inner numeral⟩)]
        show (cleanBody? digits).map ('-' :: ·) = _
        rw [cleanBody?_eq_toDigits numeral]
        rfl
      · exact (strict_eq_malformed_or_eq numeral true).imp id (congrArg ('-' :: ·))

/-- What spells a number is read exactly when the number is short, and then as that number. -/
theorem read_eq_number_iff {text : String} {n m : Int} (spelled : Spells text.toList n)
    : read text = .number m ↔ m = n ∧ Integer.IsShort n := by
  obtain ⟨negative, size, rfl, cleaned, same⟩ := exists_clean?_of_spells spelled
  have short : Integer.IsShort (if negative then -(size : Int) else size) ↔ Integer.IsShort size := by
    cases negative with
    | true => rw [if_pos rfl, Integer.IsShort, Integer.IsShort, Int.natAbs_neg]
    | false => rfl
  have again : strict (sign negative ++ Nat.toDigits 10 size) = .number m
      ↔ m = (if negative then -(size : Int) else size) ∧ Integer.IsShort size := by
    rw [strict_toDigits]
    by_cases fits : Integer.IsShort size
    · simp [fits, eq_comm]
    · simp [fits]
  rw [short, ← again, read, cleaned, Option.map_some]
  rcases same with malformed | same
  · rw [malformed]
    cases strict (sign negative ++ Nat.toDigits 10 size) <;> simp
  · rw [same]
    cases strict (sign negative ++ Nat.toDigits 10 size) <;> simp

end WholeText

end PatchReview
