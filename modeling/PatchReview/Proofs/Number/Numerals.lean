import Mathlib.Algebra.Group.Nat.Defs
import Mathlib.Data.List.Induction
import PatchReview.Json.Parser

/-! Whole numbers in decimal: their digits, and what these are read back as. -/

namespace PatchReview

open PatchReview.Json (isAsciiDigit digitValues)

/-- A number is short when it has at most as many decimal digits as the limit. -/
def Integer.IsShort (n : Int) : Prop := n.natAbs < 10 ^ Integer.maxDigits

instance (n : Int) : Decidable (Integer.IsShort n) := inferInstanceAs (Decidable (_ < _))

theorem Integer.isShort_of_lt_ten {n : Int} (small : n.natAbs < 10) : Integer.IsShort n :=
  Nat.lt_of_lt_of_le small (Nat.le_self_pow (by decide) 10)

/-- A digit differs from every character that is none. -/
theorem Json.ne_of_digit {c other : Char} (digit : isAsciiDigit c = true) (none : isAsciiDigit other = false)
    : c ≠ other := by
  intro same
  rw [same, none] at digit
  exact absurd digit Bool.false_ne_true

namespace Numeral

theorem isAsciiDigit_of_mem {n : Nat} {c : Char} (member : c ∈ Nat.toDigits 10 n)
    : isAsciiDigit c = true := by
  have digit := Nat.isDigit_of_mem_toDigits (by decide) (by decide) member
  simpa [isAsciiDigit, Char.isDigit, Char.le_def] using digit

/-- Only the number zero starts with a zero, by induction on the number. -/
theorem head?_toDigits {n : Nat} (positive : 0 < n) : (Nat.toDigits 10 n).head? ≠ some '0' := by
  induction n using Nat.strongRecOn with
  | _ n ih =>
      rcases Nat.lt_or_ge n 10 with single | several
      · rw [Nat.toDigits_of_lt_base single]
        have digits : ∀ digit < 10, 0 < digit → [Nat.digitChar digit].head? ≠ some '0' := by decide
        exact digits n single positive
      · rw [Nat.toDigits_of_base_le (by decide) several, List.head?_append]
        have first := ih (n / 10) (by omega) (by omega)
        cases found : (Nat.toDigits 10 (n / 10)).head? with
        | none => exact absurd (List.head?_eq_none_iff.mp found) Nat.toDigits_ne_nil
        | some c => simpa [found] using first

/-- The digits of a number have its value. -/
theorem digitsValue_toDigits (n : Nat) : Text.digitsValue (digitValues (Nat.toDigits 10 n)) = n := by
  have value := Nat.ofDigitChars_ten_toDigits (n := n)
  rw [Nat.ofDigitChars_eq_foldl] at value
  rw [Text.digitsValue, digitValues, List.foldl_map]
  simpa [Nat.mul_comm] using value

theorem length_toDigits_le {n : Int} (short : Integer.IsShort n)
    : (Nat.toDigits 10 n.natAbs).length ≤ Integer.maxDigits :=
  (Nat.length_toDigits_le_iff (by decide) (by decide)).mpr short

/-- A number's text is its digits, after a sign where it is negative. -/
theorem toList_toString (n : Int)
    : (toString n).toList = (if n < 0 then ['-'] else []) ++ Nat.toDigits 10 n.natAbs := by
  cases n with
  | ofNat n =>
      rw [if_neg (show ¬ Int.ofNat n < 0 from Int.not_lt.mpr (Int.natCast_nonneg n))]
      exact Nat.toList_repr
  | negSucc n =>
      rw [if_pos (Int.negSucc_lt_zero n)]
      show ("-" ++ Nat.repr (n + 1)).toList = _
      rw [String.toList_append, Nat.toList_repr]
      rfl

/-- The digits in front of a text that goes on with none are all taken. -/
theorem takeWhile_toDigits (n : Nat) {rest : List Char}
    (ends : ∀ c, rest.head? = some c → isAsciiDigit c = false)
    : (Nat.toDigits 10 n ++ rest).takeWhile isAsciiDigit = Nat.toDigits 10 n
      ∧ (Nat.toDigits 10 n ++ rest).dropWhile isAsciiDigit = rest := by
  have all : ∀ c ∈ Nat.toDigits 10 n, isAsciiDigit c = true := fun _ => isAsciiDigit_of_mem
  rw [List.takeWhile_append_of_pos all, List.dropWhile_append_of_pos all]
  cases rest with
  | nil => simp
  | cons c more => simp [ends c rfl]

/-- A digit of any script counts less than ten. -/
theorem lt_of_digitValue? {c : Char} {digit : Nat} (value : Text.digitValue? c = some digit)
    : digit < 10 := by
  unfold Text.digitValue? at value
  split at value
  · split at value
    · next range =>
        have high : c.toNat ≤ 0x39 := range.2
        obtain rfl := Option.some.inj value
        omega
    · cases value
  · obtain ⟨base, found, rfl⟩ := Option.map_eq_some_iff.mp value
    have block := List.find?_some found
    simp only [Bool.and_eq_true, decide_eq_true_eq] at block
    omega

/-- Digits spell a number below the power of ten of their count, by induction on them from their end. -/
theorem digitsValue_lt {digits : List Nat} (small : ∀ digit ∈ digits, digit < 10)
    : Text.digitsValue digits < 10 ^ digits.length := by
  induction digits using List.reverseRecOn with
  | nil => decide
  | append_singleton digits digit ih =>
      have before := ih fun other member => small other (List.mem_append_left _ member)
      have last := small digit (by simp)
      have value : Text.digitsValue (digits ++ [digit]) = Text.digitsValue digits * 10 + digit := by
        simp [Text.digitsValue]
      rw [value, List.length_append, List.length_singleton, Nat.pow_succ]
      omega

end Numeral

end PatchReview
