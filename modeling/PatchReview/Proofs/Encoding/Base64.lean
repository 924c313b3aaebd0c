import PatchReview.Encoding.Base64
import PatchReview.Proofs.Attempt

/-! Bytes that are spelled in Base64 are read back, whichever of the three lengths their last group has and
wherever the lines of their text are broken.
-/

namespace PatchReview.Base64

-----------------------------------------------------------------------------------------
-- Spelling
-----------------------------------------------------------------------------------------

/-- The characters of the alphabet, by the six bits that they stand for. -/
def alphabet : List Char :=
  "ABCDEFGHIJKLMNOPQRSTUVWXYZabcdefghijklmnopqrstuvwxyz0123456789+/".toList

/-- The character for six bits. -/
def digit (sextet : Nat) : Char := alphabet.getD sextet '='

/-- The characters of bytes: four for three bytes, of which padding stands for those that are not there. -/
def encode : List UInt8 → List Char
  | [] => []
  | [a] => [digit (a.toNat / 4), digit (a.toNat % 4 * 16), '=', '=']
  | [a, b] =>
      [digit (a.toNat / 4), digit (a.toNat % 4 * 16 + b.toNat / 16), digit (b.toNat % 16 * 4), '=']
  | a :: b :: c :: rest =>
      digit (a.toNat / 4) :: digit (a.toNat % 4 * 16 + b.toNat / 16)
        :: digit (b.toNat % 16 * 4 + c.toNat / 64) :: digit (c.toNat % 64) :: encode rest

/-- A character that breaks a line. -/
def isLineBreak (c : Char) : Bool := c == '\n' || c == '\r'

/-- A text spells bytes in Base64 when it is their characters, with line breaks anywhere. -/
def Spells (text : String) (bytes : List UInt8) : Prop :=
  text.toList.filter (fun c => !isLineBreak c) = encode bytes

-----------------------------------------------------------------------------------------
-- Digits
-----------------------------------------------------------------------------------------

/-- The character for six bits stands for them, and is no padding. -/
theorem digit_spec {sextet : Nat} (small : sextet < 64)
    : sextet? (digit sextet) = some sextet ∧ (digit sextet == '=') = false ∧ (digit sextet).toNat < 0x80 := by
  have each : ∀ sextet < 64,
      sextet? (digit sextet) = some sextet ∧ (digit sextet == '=') = false ∧ (digit sextet).toNat < 0x80 := by
    decide +kernel
  exact each sextet small

theorem eq_of_isLineBreak {c : Char} (isBreak : isLineBreak c = true) : c = '\n' ∨ c = '\r' := by
  simpa [isLineBreak] using isBreak

/-- A line break is passed over. -/
theorem decodeFrom_lineBreak {c : Char} (isBreak : isLineBreak c = true) (group : Group) (rest : List Char)
    : decodeFrom group (c :: rest) = decodeFrom group rest := by
  have none : (c == '=') = false ∧ sextet? c = none := by
    rcases eq_of_isLineBreak isBreak with rfl | rfl <;> decide
  rw [decodeFrom, none.1, none.2]
  rfl

/-- Line breaks anywhere are passed over, by induction on the characters. -/
theorem decodeFrom_filter (group : Group) (cs : List Char)
    : decodeFrom group (cs.filter fun c => !isLineBreak c) = decodeFrom group cs := by
  induction cs generalizing group with
  | nil => rfl
  | cons c rest ih =>
      cases isBreak : isLineBreak c with
      | true => rw [List.filter_cons_of_neg (by simp [isBreak]), ih, decodeFrom_lineBreak isBreak]
      | false =>
          rw [List.filter_cons_of_pos (by simp [isBreak]), decodeFrom, decodeFrom]
          simp only [ih]

-----------------------------------------------------------------------------------------
-- Groups
-----------------------------------------------------------------------------------------

section Groups

variable {sextet bits pads before : Nat}

/-- The first digit of a group only opens it. -/
theorem decodeFrom_first (small : sextet < 64) (rest : List Char)
    : decodeFrom ⟨0, bits, pads, before⟩ (digit sextet :: rest)
      = decodeFrom ⟨1, sextet, 0, before⟩ rest := by
  obtain ⟨known, noPad, -⟩ := digit_spec small
  rw [decodeFrom, noPad, known]
  rfl

/-- The second digit of a group completes a byte. -/
theorem decodeFrom_second (small : sextet < 64) (rest : List Char)
    : decodeFrom ⟨1, bits, pads, before⟩ (digit sextet :: rest)
      = (decodeFrom ⟨2, sextet % 16, 0, before⟩ rest).map (UInt8.ofNat (bits * 4 + sextet / 16) :: ·) := by
  obtain ⟨known, noPad, -⟩ := digit_spec small
  rw [decodeFrom, noPad, known]
  rfl

/-- The third digit of a group completes a byte. -/
theorem decodeFrom_third (small : sextet < 64) (rest : List Char)
    : decodeFrom ⟨2, bits, pads, before⟩ (digit sextet :: rest)
      = (decodeFrom ⟨3, sextet % 4, 0, before⟩ rest).map (UInt8.ofNat (bits * 16 + sextet / 4) :: ·) := by
  obtain ⟨known, noPad, -⟩ := digit_spec small
  rw [decodeFrom, noPad, known]
  rfl

/-- The fourth digit of a group completes a byte, and the group. -/
theorem decodeFrom_fourth (small : sextet < 64) (rest : List Char)
    : decodeFrom ⟨3, bits, pads, before⟩ (digit sextet :: rest)
      = (decodeFrom ⟨0, 0, 0, before + 4⟩ rest).map (UInt8.ofNat (bits * 64 + sextet) :: ·) := by
  obtain ⟨known, noPad, -⟩ := digit_spec small
  rw [decodeFrom, noPad, known]
  rfl

end Groups

/-- Spelled bytes are read back, by induction on the groups of three. -/
theorem decodeFrom_encode (bytes : List UInt8) (before : Nat)
    : decodeFrom ⟨0, 0, 0, before⟩ (encode bytes) = .ok bytes := by
  fun_induction encode bytes generalizing before with
  | case1 => rfl
  | case2 a =>
      have byte := a.toNat_lt
      rw [decodeFrom_first (by omega), decodeFrom_second (by omega)]
      rw [show a.toNat / 4 * 4 + a.toNat % 4 * 16 / 16 = a.toNat by omega, UInt8.ofNat_toNat]
      rfl
  | case3 a b =>
      have first := a.toNat_lt
      have second := b.toNat_lt
      rw [decodeFrom_first (by omega), decodeFrom_second (by omega), decodeFrom_third (by omega)]
      rw [show a.toNat / 4 * 4 + (a.toNat % 4 * 16 + b.toNat / 16) / 16 = a.toNat by omega,
        show (a.toNat % 4 * 16 + b.toNat / 16) % 16 * 16 + b.toNat % 16 * 4 / 4 = b.toNat by omega,
        UInt8.ofNat_toNat, UInt8.ofNat_toNat]
      rfl
  | case4 a b c rest ih =>
      have first := a.toNat_lt
      have second := b.toNat_lt
      have third := c.toNat_lt
      rw [decodeFrom_first (by omega), decodeFrom_second (by omega), decodeFrom_third (by omega),
        decodeFrom_fourth (by omega), ih]
      rw [show a.toNat / 4 * 4 + (a.toNat % 4 * 16 + b.toNat / 16) / 16 = a.toNat by omega,
        show (a.toNat % 4 * 16 + b.toNat / 16) % 16 * 16 + (b.toNat % 16 * 4 + c.toNat / 64) / 4
          = b.toNat by omega,
        show (b.toNat % 16 * 4 + c.toNat / 64) % 4 * 64 + c.toNat % 64 = c.toNat by omega,
        UInt8.ofNat_toNat, UInt8.ofNat_toNat, UInt8.ofNat_toNat]
      rfl

/-- Bytes are spelled in characters of ASCII, by induction on the groups of three. -/
theorem toNat_lt_of_mem_encode {bytes : List UInt8} {c : Char} (member : c ∈ encode bytes)
    : c.toNat < 0x80 := by
  have padding : ('=').toNat < 0x80 := by decide
  fun_induction encode bytes with
  | case1 => cases member
  | case2 a =>
      have byte := a.toNat_lt
      simp only [List.mem_cons, List.not_mem_nil, or_false] at member
      rcases member with rfl | rfl | rfl | rfl
      · exact (digit_spec (by omega)).2.2
      · exact (digit_spec (by omega)).2.2
      · exact padding
      · exact padding
  | case3 a b =>
      have first := a.toNat_lt
      have second := b.toNat_lt
      simp only [List.mem_cons, List.not_mem_nil, or_false] at member
      rcases member with rfl | rfl | rfl | rfl
      · exact (digit_spec (by omega)).2.2
      · exact (digit_spec (by omega)).2.2
      · exact (digit_spec (by omega)).2.2
      · exact padding
  | case4 a b c rest ih =>
      have first := a.toNat_lt
      have second := b.toNat_lt
      have third := c.toNat_lt
      simp only [List.mem_cons] at member
      rcases member with rfl | rfl | rfl | rfl | later
      · exact (digit_spec (by omega)).2.2
      · exact (digit_spec (by omega)).2.2
      · exact (digit_spec (by omega)).2.2
      · exact (digit_spec (by omega)).2.2
      · exact ih later

/-- A text that spells bytes is read as these bytes. -/
theorem decode_of_spells {text : String} {bytes : List UInt8} (spells : Spells text bytes)
    : decode text = .ok bytes := by
  have ascii : text.toList.all (·.toNat < 0x80) = true := by
    rw [List.all_eq_true]
    intro c member
    cases isBreak : isLineBreak c with
    | true => rcases eq_of_isLineBreak isBreak with rfl | rfl <;> decide
    | false =>
        have kept : c ∈ encode bytes :=
          spells ▸ List.mem_filter.mpr ⟨member, by simp [isBreak]⟩
        simpa using toNat_lt_of_mem_encode kept
  rw [decode, if_pos ascii, decodeAscii, ← decodeFrom_filter, spells, decodeFrom_encode]

end PatchReview.Base64
