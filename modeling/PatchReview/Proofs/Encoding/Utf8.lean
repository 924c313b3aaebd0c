import Mathlib.Tactic.IntervalCases
import PatchReview.Encoding.Utf8
import PatchReview.Proofs.Attempt

/-! Bytes are decoded to a text exactly when they are the bytes of this text. The characters of a text are
decoded one by one, and each run of bytes that is decoded to a character is the only one that is.
-/

namespace PatchReview.Utf8

-----------------------------------------------------------------------------------------
-- Characters
-----------------------------------------------------------------------------------------

/-- A byte that goes on with a character: the bits of a digit behind the mark of such bytes. -/
def tailByte (d : Nat) : UInt8 := UInt8.ofNat (0x80 + d)

theorem toNat_ofNat {n : Nat} (small : n < 256) : (UInt8.ofNat n).toNat = n := by
  rw [UInt8.toNat_ofNat']
  exact Nat.mod_eq_of_lt small

theorem toNat_tailByte {d : Nat} (small : d < 64) : (tailByte d).toNat = 0x80 + d :=
  toNat_ofNat (by omega)

/-- The code point of a character is none of those of half characters and not past the last. -/
theorem toNat_cases (c : Char) : c.toNat < 0xD800 ∨ 0xE000 ≤ c.toNat ∧ c.toNat < 0x110000 := by
  rcases c.valid with low | ⟨high, small⟩
  · exact Or.inl low
  · exact Or.inr ⟨high, small⟩

/-- A code point that is none of those of half characters and not past the last is a character's. -/
theorem toNat_ofValid {n : Nat} (valid : n < 0xD800 ∨ 0xE000 ≤ n ∧ n < 0x110000)
    : (Char.ofNat n).toNat = n := by
  have known : n.isValidChar := valid
  rw [Char.ofNat, dif_pos known]
  rfl

/-- What a lead byte of two announces. -/
theorem lead?_two {n : Nat} (low : 2 ≤ n) (high : n < 0x20)
    : lead? (UInt8.ofNat (0xC0 + n)) = some ⟨n, 1, 0x80, 0xBF, UInt8.ofNat (0xC0 + n), 1⟩ := by
  unfold lead?
  rw [toNat_ofNat (by omega), if_pos (by omega), Nat.add_sub_cancel_left]

/-- The least and the greatest second byte of a character of three, by the bits in its first byte. -/
def threeBounds (n : Nat) : Nat × Nat :=
  if n = 0 then (0xA0, 0xBF) else if n = 0xD then (0x80, 0x9F) else (0x80, 0xBF)

theorem threeBounds_within {n : Nat} : 0x80 ≤ (threeBounds n).1 ∧ (threeBounds n).2 ≤ 0xBF := by
  unfold threeBounds
  split_ifs <;> decide

theorem lead?_three {n : Nat} (high : n < 0x10)
    : lead? (UInt8.ofNat (0xE0 + n))
      = some ⟨n, 2, (threeBounds n).1, (threeBounds n).2, UInt8.ofNat (0xE0 + n), 1⟩ := by
  interval_cases n <;> rfl

/-- The least and the greatest second byte of a character of four, by the bits in its first byte. -/
def fourBounds (n : Nat) : Nat × Nat :=
  if n = 0 then (0x90, 0xBF) else if n = 4 then (0x80, 0x8F) else (0x80, 0xBF)

theorem fourBounds_within {n : Nat} : 0x80 ≤ (fourBounds n).1 ∧ (fourBounds n).2 ≤ 0xBF := by
  unfold fourBounds
  split_ifs <;> decide

theorem lead?_four {n : Nat} (high : n ≤ 4)
    : lead? (UInt8.ofNat (0xF0 + n))
      = some ⟨n, 3, (fourBounds n).1, (fourBounds n).2, UInt8.ofNat (0xF0 + n), 1⟩ := by
  interval_cases n <;> rfl

section Tails

variable {value missing low high seen d : Nat} {lead : UInt8}

/-- A byte within the bounds ends the character that is under way when no more is missing. -/
theorem decodeFrom_lastTail (small : d < 64) (within : low ≤ 0x80 + d ∧ 0x80 + d ≤ high) (position : Nat)
    (rest : List UInt8)
    : decodeFrom position (some ⟨value, 1, low, high, lead, seen⟩) (tailByte d :: rest)
      = (decodeFrom (position + 1) none rest).map (Char.ofNat (value * 64 + d) :: ·) := by
  rw [decodeFrom, toNat_tailByte small, Nat.add_sub_cancel_left, if_pos within]
  rfl

/-- A byte within the bounds goes on with the character that is under way when more is missing. -/
theorem decodeFrom_tail (small : d < 64) (within : low ≤ 0x80 + d ∧ 0x80 + d ≤ high) (position : Nat)
    (rest : List UInt8)
    : decodeFrom position (some ⟨value, missing + 2, low, high, lead, seen⟩) (tailByte d :: rest)
      = decodeFrom (position + 1) (some ⟨value * 64 + d, missing + 1, 0x80, 0xBF, lead, seen + 1⟩) rest := by
  rw [decodeFrom, toNat_tailByte small, Nat.add_sub_cancel_left, if_pos within]
  exact if_neg (by simp)

end Tails

/-- Bytes below those of two and above those of four announce nothing. -/
theorem lead?_eq_none {b : UInt8} (beyond : b.toNat < 0xC2 ∨ 0xF4 < b.toNat) : lead? b = none := by
  unfold lead?
  simp only [show ¬ (0xC2 ≤ b.toNat ∧ b.toNat ≤ 0xDF) by omega, show b.toNat ≠ 0xE0 by omega,
    show b.toNat ≠ 0xED by omega, show ¬ (0xE1 ≤ b.toNat ∧ b.toNat ≤ 0xEF) by omega,
    show b.toNat ≠ 0xF0 by omega, show b.toNat ≠ 0xF4 by omega,
    show ¬ (0xF1 ≤ b.toNat ∧ b.toNat ≤ 0xF3) by omega, if_false]

theorem le_of_lead? {b : UInt8} {p : Partial} (announces : lead? b = some p)
    : 0xC2 ≤ b.toNat ∧ b.toNat ≤ 0xF4 := by
  by_contra beyond
  rw [lead?_eq_none (by omega)] at announces
  cases announces

theorem decodeFrom_lead {b : UInt8} {p : Partial} (announces : lead? b = some p) (position : Nat)
    (rest : List UInt8)
    : decodeFrom position none (b :: rest) = decodeFrom (position + 1) (some p) rest := by
  have wide := (le_of_lead? announces).1
  rw [decodeFrom, if_neg (by omega), announces]

/-- The bytes of a character, by their digits. -/
theorem encodeChar_eq (c : Char)
    : encodeChar c
      = if c.toNat < 0x80 then [UInt8.ofNat c.toNat]
        else if c.toNat < 0x800 then [UInt8.ofNat (0xC0 + c.toNat / 64), tailByte (c.toNat % 64)]
        else if c.toNat < 0x10000 then
          [UInt8.ofNat (0xE0 + c.toNat / 4096), tailByte (c.toNat / 64 % 64), tailByte (c.toNat % 64)]
        else
          [UInt8.ofNat (0xF0 + c.toNat / 262144), tailByte (c.toNat / 4096 % 64),
            tailByte (c.toNat / 64 % 64), tailByte (c.toNat % 64)] := by
  simp only [encodeChar, tailByte, Nat.pow_eq, Nat.reducePow, Nat.div_one]

section Digits

variable {n d e f : Nat}

theorem encodeChar_two (low : 2 ≤ n) (high : n < 0x20) (second : d < 64)
    : encodeChar (Char.ofNat (n * 64 + d)) = [UInt8.ofNat (0xC0 + n), tailByte d] := by
  rw [encodeChar_eq, toNat_ofValid (by omega), if_neg (by omega), if_pos (by omega)]
  rw [show (n * 64 + d) / 64 = n by omega, show (n * 64 + d) % 64 = d by omega]

theorem encodeChar_three (high : n < 0x10) (second : d < 64) (third : e < 64)
    (within : (threeBounds n).1 ≤ 0x80 + d ∧ 0x80 + d ≤ (threeBounds n).2)
    : encodeChar (Char.ofNat ((n * 64 + d) * 64 + e))
      = [UInt8.ofNat (0xE0 + n), tailByte d, tailByte e] := by
  -- The bounds leave out what takes two bytes and the halves of characters.
  have known : 0x800 ≤ (n * 64 + d) * 64 + e
      ∧ ((n * 64 + d) * 64 + e < 0xD800 ∨ 0xE000 ≤ (n * 64 + d) * 64 + e) := by
    unfold threeBounds at within
    split_ifs at within <;> dsimp only at within <;> omega
  rw [encodeChar_eq, toNat_ofValid (by omega), if_neg (by omega), if_neg (by omega), if_pos (by omega)]
  rw [show ((n * 64 + d) * 64 + e) / 4096 = n by omega,
    show ((n * 64 + d) * 64 + e) / 64 % 64 = d by omega, show ((n * 64 + d) * 64 + e) % 64 = e by omega]

theorem encodeChar_four (high : n ≤ 4) (second : d < 64) (third : e < 64) (fourth : f < 64)
    (within : (fourBounds n).1 ≤ 0x80 + d ∧ 0x80 + d ≤ (fourBounds n).2)
    : encodeChar (Char.ofNat (((n * 64 + d) * 64 + e) * 64 + f))
      = [UInt8.ofNat (0xF0 + n), tailByte d, tailByte e, tailByte f] := by
  -- The bounds leave out what takes three bytes and what is past the last character.
  have known : 0x10000 ≤ ((n * 64 + d) * 64 + e) * 64 + f
      ∧ ((n * 64 + d) * 64 + e) * 64 + f < 0x110000 := by
    unfold fourBounds at within
    split_ifs at within <;> dsimp only at within <;> omega
  rw [encodeChar_eq, toNat_ofValid (by omega), if_neg (by omega), if_neg (by omega), if_neg (by omega)]
  rw [show (((n * 64 + d) * 64 + e) * 64 + f) / 262144 = n by omega,
    show (((n * 64 + d) * 64 + e) * 64 + f) / 4096 % 64 = d by omega,
    show (((n * 64 + d) * 64 + e) * 64 + f) / 64 % 64 = e by omega,
    show (((n * 64 + d) * 64 + e) * 64 + f) % 64 = f by omega]

end Digits

/-- The bytes of a character are decoded to the character, by cases on how many there are. -/
theorem decodeFrom_encodeChar (c : Char) (position : Nat) (rest : List UInt8)
    : ∃ behind,
        decodeFrom position none (encodeChar c ++ rest)
          = (decodeFrom behind none rest).map (c :: ·) := by
  have known := toNat_cases c
  have whole : Char.ofNat c.toNat = c := Char.ofNat_toNat c
  rw [encodeChar_eq]
  generalize c.toNat = n at known whole
  split
  · next small =>
      refine ⟨position + 1, ?_⟩
      rw [List.singleton_append, decodeFrom, toNat_ofNat (by omega), if_pos small, whole]
  have plain : ∀ d, 0x80 ≤ 0x80 + d % 64 ∧ 0x80 + d % 64 ≤ 0xBF := fun d => by omega
  split
  · next small =>
      refine ⟨position + 2, ?_⟩
      simp only [List.cons_append, List.nil_append]
      rw [decodeFrom_lead (lead?_two (by omega) (by omega))]
      rw [decodeFrom_lastTail (Nat.mod_lt n (by decide)) (plain n)]
      rw [Nat.div_add_mod', whole]
  split
  · next small =>
      refine ⟨position + 3, ?_⟩
      have second : (threeBounds (n / 4096)).1 ≤ 0x80 + n / 64 % 64
          ∧ 0x80 + n / 64 % 64 ≤ (threeBounds (n / 4096)).2 := by
        unfold threeBounds
        split_ifs <;> constructor <;> dsimp only <;> omega
      have digits : (n / 4096 * 64 + n / 64 % 64) * 64 + n % 64 = n := by omega
      simp only [List.cons_append, List.nil_append]
      rw [decodeFrom_lead (lead?_three (by omega))]
      rw [decodeFrom_tail (Nat.mod_lt _ (by decide)) second]
      rw [decodeFrom_lastTail (Nat.mod_lt n (by decide)) (plain n)]
      rw [digits, whole]
  · refine ⟨position + 4, ?_⟩
    have second : (fourBounds (n / 262144)).1 ≤ 0x80 + n / 4096 % 64
        ∧ 0x80 + n / 4096 % 64 ≤ (fourBounds (n / 262144)).2 := by
      unfold fourBounds
      split_ifs <;> constructor <;> dsimp only <;> omega
    have digits : ((n / 262144 * 64 + n / 4096 % 64) * 64 + n / 64 % 64) * 64 + n % 64 = n := by omega
    simp only [List.cons_append, List.nil_append]
    rw [decodeFrom_lead (lead?_four (by omega))]
    rw [decodeFrom_tail (Nat.mod_lt _ (by decide)) second]
    rw [decodeFrom_tail (Nat.mod_lt _ (by decide)) (plain _)]
    rw [decodeFrom_lastTail (Nat.mod_lt n (by decide)) (plain n)]
    rw [digits, whole]

-----------------------------------------------------------------------------------------
-- Bytes
-----------------------------------------------------------------------------------------

/-- A byte that goes on with a character is within the bounds. -/
theorem exists_tailByte {position : Nat} {p : Partial} {bytes : List UInt8} {cs : List Char}
    (made : decodeFrom position (some p) bytes = .ok cs) (low : 0x80 ≤ p.low) (high : p.high ≤ 0xBF)
    : ∃ d rest, bytes = tailByte d :: rest ∧ d < 64 ∧ p.low ≤ 0x80 + d ∧ 0x80 + d ≤ p.high := by
  cases bytes with
  | nil => cases made
  | cons b rest =>
      rw [decodeFrom] at made
      split at made
      · next within =>
          have digit : 0x80 + (b.toNat - 0x80) = b.toNat := by omega
          refine ⟨b.toNat - 0x80, rest, ?_, by omega, by omega, by omega⟩
          rw [tailByte, digit, UInt8.ofNat_toNat]
      · cases made

/-- A byte that announces a character is one of two, three or four bytes. -/
theorem exists_of_lead? {b : UInt8} {p : Partial} (announces : lead? b = some p)
    : (∃ n, 2 ≤ n ∧ n < 0x20 ∧ b = UInt8.ofNat (0xC0 + n))
      ∨ (∃ n, n < 0x10 ∧ b = UInt8.ofNat (0xE0 + n))
      ∨ ∃ n, n ≤ 4 ∧ b = UInt8.ofNat (0xF0 + n) := by
  have spelled : ∀ mark, mark ≤ b.toNat → b = UInt8.ofNat (mark + (b.toNat - mark)) := by
    intro mark reached
    rw [Nat.add_sub_of_le reached, UInt8.ofNat_toNat]
  obtain ⟨low, high⟩ := le_of_lead? announces
  by_cases two : b.toNat ≤ 0xDF
  · exact Or.inl ⟨b.toNat - 0xC0, by omega, by omega, spelled _ (by omega)⟩
  by_cases three : b.toNat ≤ 0xEF
  · exact Or.inr (Or.inl ⟨b.toNat - 0xE0, by omega, spelled _ (by omega)⟩)
  · exact Or.inr (Or.inr ⟨b.toNat - 0xF0, by omega, spelled _ (by omega)⟩)

/-- Bytes that are decoded start with those of a character, by cases on how many are announced. -/
theorem exists_of_decodeFrom {position : Nat} {b : UInt8} {bytes : List UInt8} {cs : List Char}
    (made : decodeFrom position none (b :: bytes) = .ok cs)
    : ∃ c rest behind more,
        b :: bytes = encodeChar c ++ rest ∧ cs = c :: more ∧ decodeFrom behind none rest = .ok more := by
  by_cases small : b.toNat < 0x80
  · rw [decodeFrom, if_pos small] at made
    obtain ⟨more, later, rfl⟩ := Except.map_eq_ok_iff.mp made
    refine ⟨_, bytes, _, more, ?_, rfl, later⟩
    have whole : (Char.ofNat b.toNat).toNat = b.toNat := toNat_ofValid (Or.inl (by omega))
    rw [encodeChar_eq, whole, if_pos small, UInt8.ofNat_toNat]
    rfl
  cases announces : lead? b with
  | none =>
      rw [decodeFrom, if_neg small, announces] at made
      cases made
  | some p =>
  rcases exists_of_lead? announces with ⟨n, low, high, rfl⟩ | ⟨n, high, rfl⟩ | ⟨n, high, rfl⟩
  · rw [decodeFrom_lead (lead?_two low high)] at made
    obtain ⟨d, rest, rfl, second, within⟩ := exists_tailByte made (by simp) (by simp)
    rw [decodeFrom_lastTail second within] at made
    obtain ⟨more, later, rfl⟩ := Except.map_eq_ok_iff.mp made
    exact ⟨_, rest, _, more, by rw [encodeChar_two low high second]; rfl, rfl, later⟩
  · rw [decodeFrom_lead (lead?_three high)] at made
    obtain ⟨d, rest, rfl, second, within⟩ := exists_tailByte made threeBounds_within.1 threeBounds_within.2
    rw [decodeFrom_tail second within] at made
    obtain ⟨e, rest, rfl, third, plain⟩ := exists_tailByte made (by simp) (by simp)
    rw [decodeFrom_lastTail third plain] at made
    obtain ⟨more, later, rfl⟩ := Except.map_eq_ok_iff.mp made
    exact ⟨_, rest, _, more, by rw [encodeChar_three high second third within]; rfl, rfl, later⟩
  · rw [decodeFrom_lead (lead?_four high)] at made
    obtain ⟨d, rest, rfl, second, within⟩ := exists_tailByte made fourBounds_within.1 fourBounds_within.2
    rw [decodeFrom_tail second within] at made
    obtain ⟨e, rest, rfl, third, plain⟩ := exists_tailByte made (by simp) (by simp)
    rw [decodeFrom_tail third plain] at made
    obtain ⟨f, rest, rfl, fourth, plainToo⟩ := exists_tailByte made (by simp) (by simp)
    rw [decodeFrom_lastTail fourth plainToo] at made
    obtain ⟨more, later, rfl⟩ := Except.map_eq_ok_iff.mp made
    exact ⟨_, rest, _, more, by rw [encodeChar_four high second third fourth within]; rfl, rfl, later⟩

/-- Bytes that are decoded are those of the characters, by induction on the characters. -/
theorem eq_of_decodeFrom {position : Nat} {bytes : List UInt8} {cs : List Char}
    (made : decodeFrom position none bytes = .ok cs)
    : bytes = cs.flatMap encodeChar := by
  induction cs generalizing position bytes with
  | nil =>
      cases bytes with
      | nil => rfl
      | cons b bytes =>
          obtain ⟨_, _, _, _, -, same, -⟩ := exists_of_decodeFrom made
          cases same
  | cons c cs ih =>
      cases bytes with
      | nil => cases made
      | cons b bytes =>
          obtain ⟨_, rest, behind, _, spelled, same, later⟩ := exists_of_decodeFrom made
          obtain ⟨rfl, rfl⟩ := List.cons.inj same
          rw [spelled, List.flatMap_cons, ih later]

/-- The bytes of characters are decoded to them, by induction on the characters. -/
theorem decodeFrom_flatMap (cs : List Char) (position : Nat)
    : decodeFrom position none (cs.flatMap encodeChar) = .ok cs := by
  induction cs generalizing position with
  | nil => rfl
  | cons c cs ih =>
      obtain ⟨behind, made⟩ := decodeFrom_encodeChar c position (cs.flatMap encodeChar)
      rw [List.flatMap_cons, made, ih]
      rfl

/-- The bytes of a character are those that it has in UTF-8, by cases on how many there are. -/
theorem encodeChar_eq_utf8EncodeChar (c : Char) : encodeChar c = String.utf8EncodeChar c := by
  have known := toNat_cases c
  rw [encodeChar_eq, String.utf8EncodeChar]
  simp only [Char.toNat_val, tailByte]
  generalize c.toNat = n at known
  by_cases one : n < 0x80
  · rw [if_pos one, if_pos (show n ≤ 0x7F by omega)]
  rw [if_neg one, if_neg (show ¬ n ≤ 0x7F by omega)]
  by_cases two : n < 0x800
  · rw [if_pos two, if_pos (show n ≤ 0x7FF by omega)]
    rw [show n / 64 % 32 + 192 = 0xC0 + n / 64 by omega, Nat.add_comm (n % 64)]
  rw [if_neg two, if_neg (show ¬ n ≤ 0x7FF by omega)]
  by_cases three : n < 0x10000
  · rw [if_pos three, if_pos (show n ≤ 0xFFFF by omega)]
    rw [show n / 4096 % 16 + 224 = 0xE0 + n / 4096 by omega, Nat.add_comm (n / 64 % 64),
      Nat.add_comm (n % 64)]
  · rw [if_neg three, if_neg (show ¬ n ≤ 0xFFFF by omega)]
    rw [show n / 262144 % 8 + 240 = 0xF0 + n / 262144 by omega, Nat.add_comm (n / 4096 % 64),
      Nat.add_comm (n / 64 % 64), Nat.add_comm (n % 64)]

/-- The bytes of a text are the text in UTF-8. -/
theorem toByteArray_encode (text : String) : (encode text).toByteArray = text.toUTF8 := by
  have same : encode text = text.toList.flatMap String.utf8EncodeChar :=
    List.flatMap_congr fun c _ => encodeChar_eq_utf8EncodeChar c
  rw [same]
  exact String.toByteArray_ofList.symm.trans (congrArg String.toByteArray String.ofList_toList)

/-- Bytes are decoded to a text exactly when they are the text in UTF-8. -/
theorem decode_eq_ok_iff {bytes : List UInt8} {text : String}
    : decode bytes = .ok text ↔ bytes.toByteArray = text.toUTF8 := by
  rw [← toByteArray_encode, decode, Except.map_eq_ok_iff]
  constructor
  · rintro ⟨cs, made, rfl⟩
    rw [eq_of_decodeFrom made, encode, String.toList_ofList]
  · intro same
    have spelled : bytes = encode text := by
      simpa using congrArg (fun array : ByteArray => array.data.toList) same
    exact ⟨text.toList, spelled ▸ decodeFrom_flatMap text.toList 0, String.ofList_toList⟩

end PatchReview.Utf8
