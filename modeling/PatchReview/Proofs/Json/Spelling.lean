import PatchReview.Json.Printer
import PatchReview.Proofs.Number.Numerals

/-! What is printed for a number or a string is read back as that number or string, whatever comes behind
it.
-/

namespace PatchReview.Json

open PatchReview.Text

-----------------------------------------------------------------------------------------
-- Numbers
-----------------------------------------------------------------------------------------

/-- What comes behind a value in a document: nothing, or the end of the array or the object that it stands
in, or a comma.
-/
def EndsValue (rest : List Char) : Prop := ∀ c, rest.head? = some c → c ∈ [',', ']', '\x7d']

theorem EndsValue.not_digit {rest : List Char} (ends : EndsValue rest)
    : ∀ c, rest.head? = some c → isAsciiDigit c = false := by
  have none : ∀ c ∈ [',', ']', '\x7d'], isAsciiDigit c = false := by simp [isAsciiDigit]
  exact fun c head => none c (ends c head)

theorem EndsValue.takeFraction {rest : List Char} (ends : EndsValue rest)
    : takeFraction rest = (none, rest) := by
  unfold Json.takeFraction
  split
  · exact absurd (ends _ rfl) (by decide)
  · rfl

theorem EndsValue.takeExponent {rest : List Char} (ends : EndsValue rest)
    : takeExponent rest = (none, rest) := by
  cases rest with
  | nil => rfl
  | cons mark more =>
      have none : ∀ c ∈ [',', ']', '\x7d'], (c == 'e' || c == 'E') = false := by simp
      simp [Json.takeExponent, none mark (ends mark rfl)]

/-- The digits of a number are taken as its whole part. -/
theorem takeWhole_toDigits (n : Nat) {rest : List Char} (ends : EndsValue rest)
    : takeWhole (Nat.toDigits 10 n ++ rest) = (Nat.toDigits 10 n, rest) := by
  rcases Nat.eq_zero_or_pos n with rfl | positive
  · rfl
  · obtain ⟨taken, left⟩ := Numeral.takeWhile_toDigits n ends.not_digit
    have head := Numeral.head?_toDigits positive
    unfold takeWhole
    split
    · next digits same =>
        cases first : Nat.toDigits 10 n with
        | nil => exact absurd first Nat.toDigits_ne_nil
        | cons c more =>
            rw [first, List.cons_append] at same
            rw [first, List.head?_cons] at head
            exact absurd (congrArg some (List.cons.inj same).1) head
    · rw [taken, left]

/-- The first character of a number is a sign or a digit. -/
theorem exists_toString_eq_cons (n : Int)
    : ∃ c more, (toString n).toList = c :: more ∧ (c = '-' ∨ isAsciiDigit c = true) := by
  rw [Numeral.toList_toString]
  split
  · exact ⟨'-', _, rfl, Or.inl rfl⟩
  · cases first : Nat.toDigits 10 n.natAbs with
    | nil => exact absurd first Nat.toDigits_ne_nil
    | cons c more =>
        exact ⟨c, more, rfl, Or.inr (Numeral.isAsciiDigit_of_mem (first ▸ List.mem_cons_self))⟩

/-- A short number is read back, by cases on its sign. -/
theorem readNumber_toString {n : Int} (short : Integer.IsShort n) {rest : List Char} (ends : EndsValue rest)
    : readNumber ((toString n).toList ++ rest) = .ok (.int n, rest) := by
  have whole := takeWhole_toDigits n.natAbs ends
  have nonempty : (Nat.toDigits 10 n.natAbs).isEmpty = false := by
    simp [Nat.toDigits_ne_nil]
  have within : ¬ (Nat.toDigits 10 n.natAbs).length > Integer.maxDigits :=
    Nat.not_lt.mpr (Numeral.length_toDigits_le short)
  have value := Numeral.digitsValue_toDigits n.natAbs
  rw [Numeral.toList_toString]
  by_cases negative : n < 0
  · rw [if_pos negative, List.singleton_append, List.cons_append]
    simp only [readNumber, whole, nonempty, ends.takeFraction, ends.takeExponent, within, value,
      Bool.false_eq_true, if_true, if_false]
    rw [show -(n.natAbs : Int) = n by omega]
  · rw [if_neg negative, List.nil_append]
    have unsigned : ∀ body, Nat.toDigits 10 n.natAbs ++ rest ≠ '-' :: body := by
      intro body same
      cases first : Nat.toDigits 10 n.natAbs with
      | nil => exact Nat.toDigits_ne_nil first
      | cons c more =>
          have digit := Numeral.isAsciiDigit_of_mem (n := n.natAbs) (first ▸ List.mem_cons_self)
          rw [first, List.cons_append] at same
          rw [(List.cons.inj same).1] at digit
          exact absurd digit (by decide)
    simp only [readNumber, whole, nonempty, ends.takeFraction, ends.takeExponent, within, value,
      Bool.false_eq_true, if_false]
    rw [show (n.natAbs : Int) = n by omega]

-----------------------------------------------------------------------------------------
-- Strings
-----------------------------------------------------------------------------------------

theorem hexValue?_hexDigit : ∀ digit < 16, hexValue? (hexDigit digit) = some digit := by decide

/-- Four hexadecimal digits are read back when something comes behind them. -/
theorem hexUnit?_hexText {n : Nat} (small : n < 0x10000) {rest : List Char} (more : rest ≠ [])
    : hexUnit? (hexText 4 n ++ rest) = some (n, rest) := by
  obtain ⟨e, rest, rfl⟩ := List.exists_cons_of_ne_nil more
  have digit := fun m => hexValue?_hexDigit (m % 16) (Nat.mod_lt m (by decide))
  have value : ((n / 16 / 16 / 16 % 16 * 16 + n / 16 / 16 % 16) * 16 + n / 16 % 16) * 16 + n % 16 = n := by
    omega
  simp [hexText, hexUnit?, digit, value]

/-- A unit that is a character by itself is read as that character. -/
theorem readUnit_hexText {c : Char} (small : c.toNat < 0x10000) {rest : List Char} (more : rest ≠ [])
    : readUnit (hexText 4 c.toNat ++ rest) = .ok (c, rest) := by
  have whole : isHighHalf c.toNat = false ∧ isLowHalf c.toNat = false := by
    have valid : c.toNat < 0xD800 ∨ 0xDFFF < c.toNat ∧ c.toNat < 0x110000 := c.valid
    constructor
    · simp [isHighHalf]
      omega
    · simp [isLowHalf]
      omega
  simp [readUnit, hexUnit?_hexText small more, whole]

/-- Two halves are read as the character that they make. -/
theorem readUnit_pair {high low : Nat} (isHigh : isHighHalf high = true) (isLow : isLowHalf low = true)
    {rest : List Char} (more : rest ≠ [])
    : readUnit (hexText 4 high ++ (escapeUnit low ++ rest))
      = .ok (Char.ofNat (0x10000 + (high - 0xD800) * 0x400 + (low - 0xDC00)), rest) := by
  have first : hexUnit? (hexText 4 high ++ (escapeUnit low ++ rest)) = some (high, escapeUnit low ++ rest) :=
    hexUnit?_hexText (by simp [isHighHalf] at isHigh; omega) (by simp [escapeUnit])
  have second := hexUnit?_hexText (n := low) (by simp [isLowHalf] at isLow; omega) more
  have goesOn : ((hexText 4 low ++ rest).drop 4).isEmpty = false := by
    simpa [hexText] using more
  unfold readUnit
  rw [first]
  simp only [isHigh, if_true, escapeUnit, List.cons_append, goesOn, Bool.false_eq_true, if_false, second,
    isLow]

/-- The two halves of a character beyond sixteen bits are read as that character. -/
theorem readUnit_halves {c : Char} (large : 0x10000 ≤ c.toNat) {rest : List Char} (more : rest ≠ [])
    : readUnit (hexText 4 (0xD800 + (c.toNat - 0x10000) / 0x400)
        ++ (escapeUnit (0xDC00 + (c.toNat - 0x10000) % 0x400) ++ rest)) = .ok (c, rest) := by
  have bound : c.toNat < 0x110000 := by
    have valid : c.toNat < 0xD800 ∨ 0xDFFF < c.toNat ∧ c.toNat < 0x110000 := c.valid
    omega
  generalize first : 0xD800 + (c.toNat - 0x10000) / 0x400 = high
  generalize second : 0xDC00 + (c.toNat - 0x10000) % 0x400 = low
  have isHigh : isHighHalf high = true := by
    simp [isHighHalf]
    omega
  have isLow : isLowHalf low = true := by
    simp [isLowHalf]
    omega
  have same : 0x10000 + (high - 0xD800) * 0x400 + (low - 0xDC00) = c.toNat := by omega
  rw [readUnit_pair isHigh isLow more, same, Char.ofNat_toNat]

/-- A string goes on behind an escape that is read. -/
theorem readString_escape {opening text rest : List Char} {c : Char} (steps : Nat)
    (escape : readEscape opening ('\\' :: text) text = .ok (c, rest))
    : readString opening (steps + 1) ('\\' :: text)
      = (readString opening steps rest).map fun read => (c :: read.1, read.2) := by
  simp only [readString]
  rw [if_neg (by decide), if_pos (by decide), escape]
  dsimp only [bind, Except.bind]
  cases readString opening steps rest <;> rfl

/-- An escape of one letter is read as what it stands for. -/
theorem readString_shortEscape {letter c : Char} (short : shortEscape? letter = some c)
    (plain : letter ≠ 'u') (opening : List Char) (steps : Nat) (rest : List Char)
    : readString opening (steps + 1) ('\\' :: letter :: rest)
      = (readString opening steps rest).map fun read => (c :: read.1, read.2) :=
  readString_escape steps (by simp [readEscape, plain, short])

/-- A printed character is read as the character, by cases on how it is printed. -/
theorem readString_escapeChar (c : Char) (opening : List Char) (steps : Nat) {rest : List Char}
    (more : rest ≠ [])
    : readString opening (steps + 1) (escapeChar c ++ rest)
      = (readString opening steps rest).map fun read => (c :: read.1, read.2) := by
  have unit : ∀ text, readUnit text = .ok (c, rest) →
      readString opening (steps + 1) ('\\' :: 'u' :: text)
        = (readString opening steps rest).map fun read => (c :: read.1, read.2) :=
    fun text read => readString_escape steps (by simp [readEscape, read])
  unfold escapeChar
  split
  · next quote =>
      rw [eq_of_beq quote]
      exact readString_shortEscape rfl (by decide) opening steps rest
  split
  · next slash =>
      rw [eq_of_beq slash]
      exact readString_shortEscape rfl (by decide) opening steps rest
  split
  · next feed =>
      rw [eq_of_beq feed]
      exact readString_shortEscape rfl (by decide) opening steps rest
  split
  · next returns =>
      rw [eq_of_beq returns]
      exact readString_shortEscape rfl (by decide) opening steps rest
  split
  · next tab =>
      rw [eq_of_beq tab]
      exact readString_shortEscape rfl (by decide) opening steps rest
  split
  · next back =>
      rw [← Char.ofNat_toNat c, back]
      exact readString_shortEscape rfl (by decide) opening steps rest
  split
  · next page =>
      rw [← Char.ofNat_toNat c, page]
      exact readString_shortEscape rfl (by decide) opening steps rest
  split
  · next quote slash _ _ _ _ _ shown =>
      have visible : ¬ c.toNat < 0x20 := by omega
      rw [List.singleton_append]
      simp only [readString]
      rw [if_neg quote, if_neg slash, if_neg visible]
      cases readString opening steps rest <;> rfl
  split
  · next small => exact unit _ (readUnit_hexText small more)
  · next large =>
      dsimp only
      rw [List.append_assoc]
      exact unit _ (readUnit_halves (by omega) more)

/-- A printed string is read back up to its closing quote, by induction on the string. -/
theorem readString_flatMap_escapeChar (cs opening rest : List Char) {steps : Nat}
    (enough : cs.length < steps)
    : readString opening steps (cs.flatMap escapeChar ++ '\x22' :: rest) = .ok (cs, rest) := by
  induction cs generalizing steps with
  | nil =>
      obtain ⟨steps, rfl⟩ := Nat.exists_eq_add_of_lt enough
      rfl
  | cons c cs ih =>
      obtain ⟨steps, rfl⟩ : ∃ fewer, steps = fewer + 1 := ⟨steps - 1, by simp at enough; omega⟩
      rw [List.flatMap_cons, List.append_assoc, readString_escapeChar c opening steps (by simp),
        ih (by simpa using enough)]
      rfl

end PatchReview.Json
