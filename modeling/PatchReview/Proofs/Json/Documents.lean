import PatchReview.Json.Bytes
import PatchReview.Proofs.Json.RoundTrip

/-! Printed values as documents. They are in visible characters of ASCII alone, so that their bytes are told
to be UTF-8 and hold the values again.
-/

namespace PatchReview.Json

open PatchReview.Text

-----------------------------------------------------------------------------------------
-- Visible characters
-----------------------------------------------------------------------------------------

/-- A character of ASCII that can be seen, or a space. -/
def IsVisible (c : Char) : Prop := 0x20 ≤ c.toNat ∧ c.toNat < 0x7F

instance (c : Char) : Decidable (IsVisible c) := inferInstanceAs (Decidable (_ ∧ _))

theorem isVisible_of_mem_hexText {width n : Nat} {c : Char} (member : c ∈ hexText width n) : IsVisible c := by
  have digits : ∀ digit < 16, IsVisible (hexDigit digit) := by decide
  induction width generalizing n with
  | zero => simp [hexText] at member
  | succ width ih =>
      rw [hexText, List.mem_append, List.mem_singleton] at member
      rcases member with before | rfl
      · exact ih before
      · exact digits _ (Nat.mod_lt n (by decide))

theorem isVisible_of_mem_escapeUnit {n : Nat} {c : Char} (member : c ∈ escapeUnit n) : IsVisible c := by
  simp only [escapeUnit, List.mem_cons] at member
  rcases member with rfl | rfl | member
  · decide
  · decide
  · exact isVisible_of_mem_hexText member

/-- Every character is printed in visible ones, by cases on how it is printed. -/
theorem isVisible_of_mem_escapeChar {c shown : Char} (member : shown ∈ escapeChar c) : IsVisible shown := by
  have pairs : ∀ letter ∈ ['\x22', '\\', 'n', 'r', 't', 'b', 'f'], ∀ c ∈ ['\\', letter], IsVisible c := by
    simp [IsVisible]
  have pair := fun letter known => pairs letter known shown
  unfold escapeChar at member
  split at member
  · exact pair _ (by simp) member
  split at member
  · exact pair _ (by simp) member
  split at member
  · exact pair _ (by simp) member
  split at member
  · exact pair _ (by simp) member
  split at member
  · exact pair _ (by simp) member
  split at member
  · exact pair _ (by simp) member
  split at member
  · exact pair _ (by simp) member
  split at member
  · next range =>
      obtain rfl := List.mem_singleton.mp member
      exact range
  split at member
  · exact isVisible_of_mem_escapeUnit member
  · rcases List.mem_append.mp member with first | second
    · exact isVisible_of_mem_escapeUnit first
    · exact isVisible_of_mem_escapeUnit second

theorem isVisible_of_mem_printString {s : String} {c : Char} (member : c ∈ printString s) : IsVisible c := by
  simp only [printString, List.cons_append, List.mem_cons, List.mem_append, List.mem_flatMap,
    List.not_mem_nil, or_false] at member
  rcases member with rfl | ⟨plain, _, escaped⟩ | rfl
  · decide
  · exact isVisible_of_mem_escapeChar escaped
  · decide

theorem isVisible_of_mem_toString {n : Int} {c : Char} (member : c ∈ (toString n).toList) : IsVisible c := by
  rw [Numeral.toList_toString, List.mem_append] at member
  rcases member with sign | digit
  · have minus : c = '-' := by
      split at sign
      · exact List.mem_singleton.mp sign
      · cases sign
    rw [minus]
    decide
  · have range : '0' ≤ c ∧ c ≤ '9' := by simpa [isAsciiDigit] using Numeral.isAsciiDigit_of_mem digit
    have low : 0x30 ≤ c.toNat := range.1
    have high : c.toNat ≤ 0x39 := range.2
    exact ⟨by omega, by omega⟩

/-- Items are printed in visible characters when each of them is, by induction on the items. -/
theorem isVisible_of_mem_printMoreItems {items : List Json}
    (each : ∀ item ∈ items, ∀ c ∈ item.printChars, IsVisible c) {c : Char}
    (member : c ∈ printMoreItems items)
    : IsVisible c := by
  induction items with
  | nil => simp [printMoreItems] at member
  | cons item rest ih =>
      simp only [printMoreItems, List.cons_append, List.mem_cons, List.mem_append] at member
      rcases member with rfl | rfl | here | later
      · decide
      · decide
      · exact each item List.mem_cons_self c here
      · exact ih (fun other among => each other (List.mem_cons_of_mem item among)) later

/-- Fields are printed in visible characters when the value of each is, by induction on the fields. -/
theorem isVisible_of_mem_printMoreFields {fields : List (String × Json)}
    (each : ∀ field ∈ fields, ∀ c ∈ field.2.printChars, IsVisible c) {c : Char}
    (member : c ∈ printMoreFields fields)
    : IsVisible c := by
  induction fields with
  | nil => simp [printMoreFields] at member
  | cons field rest ih =>
      simp only [printMoreFields, List.cons_append, List.mem_cons, List.mem_append] at member
      rcases member with rfl | rfl | (key | rfl | rfl | here) | later
      · decide
      · decide
      · exact isVisible_of_mem_printString key
      · decide
      · decide
      · exact each field List.mem_cons_self c here
      · exact ih (fun other among => each other (List.mem_cons_of_mem field among)) later

/-- An exact value is printed in visible characters, by induction on the value. -/
theorem IsExact.isVisible {value : Json} (exact : value.IsExact) : ∀ c ∈ value.printChars, IsVisible c := by
  induction exact with
  | null => simp [printChars, IsVisible]
  | bool b => cases b <;> simp [printChars, IsVisible]
  | int => exact fun _ => isVisible_of_mem_toString
  | str => exact fun _ => isVisible_of_mem_printString
  | @arr items _ ih =>
      intro c member
      simp only [printChars, List.cons_append, List.mem_cons, List.mem_append, List.not_mem_nil,
        or_false] at member
      rcases member with rfl | inside | rfl
      · decide
      · -- The first item differs from the others only by the comma that it lacks.
        apply isVisible_of_mem_printMoreItems ih
        cases items with
        | nil => exact inside
        | cons item rest => exact List.mem_cons_of_mem _ (List.mem_cons_of_mem _ inside)
      · decide
  | @obj fields _ _ ih =>
      intro c member
      simp only [printChars, List.cons_append, List.mem_cons, List.mem_append, List.not_mem_nil,
        or_false] at member
      rcases member with rfl | inside | rfl
      · decide
      · apply isVisible_of_mem_printMoreFields ih
        cases fields with
        | nil => exact inside
        | cons field rest => exact List.mem_cons_of_mem _ (List.mem_cons_of_mem _ inside)
      · decide

-----------------------------------------------------------------------------------------
-- Texts and bytes
-----------------------------------------------------------------------------------------

/-- The text of an exact value is read as the value. -/
theorem parse_print {value : Json} (exact : value.IsExact) : parse value.print = .ok value := by
  obtain ⟨c, more, text, starts⟩ := exact.starts
  have plain : value.printChars.head? ≠ some (Char.ofNat 0xFEFF) := by
    intro mark
    have visible := exact.isVisible _ (List.mem_of_head? mark)
    revert visible
    decide
  have read := exact.isReadBack [] (2 * value.printChars.length + 2) (by simp [EndsValue]) (by omega)
  rw [List.append_nil] at read
  rw [parse, parseWithin, print, String.toList_ofList, readText, if_neg plain]
  rw [show skipGap value.printChars = value.printChars by rw [text, skipGap_cons starts.1], read]
  rfl

/-- A text in visible characters has one byte for each of them, by induction on the characters. -/
theorem flatMap_encodeChar {cs : List Char} (visible : ∀ c ∈ cs, IsVisible c)
    : cs.flatMap Utf8.encodeChar = cs.map fun c => UInt8.ofNat c.toNat := by
  induction cs with
  | nil => rfl
  | cons c cs ih =>
      obtain ⟨⟨_, small⟩, later⟩ := List.forall_mem_cons.mp visible
      rw [List.flatMap_cons, ih later, Utf8.encodeChar, if_pos (by omega)]
      rfl

theorem toNat_byte {c : Char} (visible : IsVisible c) : (UInt8.ofNat c.toNat).toNat = c.toNat := by
  rw [UInt8.toNat_ofNat']
  exact Nat.mod_eq_of_lt (by have small := visible.2; omega)

/-- The bytes of visible characters are decoded one by one, by induction on the characters. -/
theorem decodeFrom_visible {cs : List Char} (visible : ∀ c ∈ cs, IsVisible c) (position : Nat)
    : Utf8.decodeFrom position none (cs.map fun c => UInt8.ofNat c.toNat) = .ok cs := by
  induction cs generalizing position with
  | nil => rfl
  | cons c cs ih =>
      obtain ⟨here, later⟩ := List.forall_mem_cons.mp visible
      have small : (UInt8.ofNat c.toNat).toNat < 0x80 := by
        rw [toNat_byte here]
        exact Nat.lt_trans here.2 (by decide)
      rw [List.map_cons, Utf8.decodeFrom]
      rw [if_pos small, ih later, toNat_byte here, Char.ofNat_toNat]
      rfl

theorem byte_ne {c : Char} (visible : IsVisible c) {byte : UInt8}
    (other : byte.toNat < 0x20 ∨ 0x7F ≤ byte.toNat)
    : UInt8.ofNat c.toNat ≠ byte := by
  intro same
  have size := toNat_byte visible
  rw [same] at size
  obtain ⟨low, high⟩ := visible
  omega

/-- Bytes without a zero do not tell a wide encoding. -/
theorem ofStart_of_ne_zero {bytes : List UInt8} (nonzero : ∀ byte ∈ bytes, byte ≠ 0)
    : Encoding.ofStart bytes = .utf8 := by
  unfold Encoding.ofStart
  split
  · have first := nonzero _ List.mem_cons_self
    have second := nonzero _ (List.mem_cons_of_mem _ List.mem_cons_self)
    simp [first, second]
  · have first := nonzero _ List.mem_cons_self
    have second := nonzero _ (List.mem_cons_of_mem _ List.mem_cons_self)
    simp [first, second]
  · rfl

/-- A document in visible characters holds what its text does. -/
theorem ofBytes?_encode {text : String} (visible : ∀ c ∈ text.toList, IsVisible c)
    : ofBytes? (Utf8.encode text) = (parse text).toOption := by
  have bytes : Utf8.encode text = text.toList.map fun c => UInt8.ofNat c.toNat := flatMap_encodeChar visible
  have nonzero : ∀ byte ∈ text.toList.map fun c => UInt8.ofNat c.toNat, byte ≠ 0 := by
    intro byte member
    obtain ⟨c, among, rfl⟩ := List.mem_map.mp member
    exact byte_ne (visible c among) (Or.inl (by decide))
  have unmarked : dropOrderMark (text.toList.map fun c => UInt8.ofNat c.toNat)
      = text.toList.map fun c => UInt8.ofNat c.toNat := by
    unfold dropOrderMark
    split
    · next rest same =>
        have member : (0xEF : UInt8) ∈ text.toList.map fun c => UInt8.ofNat c.toNat :=
          same ▸ List.mem_cons_self
        obtain ⟨c, among, mark⟩ := List.mem_map.mp member
        exact absurd mark (byte_ne (visible c among) (Or.inr (by decide)))
    · rfl
  have decoded : Encoding.decode? (text.toList.map fun c => UInt8.ofNat c.toNat) .utf8 = some text := by
    rw [Encoding.decode?, Utf8.decode, decodeFrom_visible visible]
    exact congrArg some String.ofList_toList
  rw [bytes, ofBytes?]
  simp only [unmarked, Nat.lt_irrefl, if_false, ofStart_of_ne_zero nonzero, decoded]
  rfl

/-- The bytes of a printed exact value hold the value. -/
theorem ofBytes?_print {value : Json} (exact : value.IsExact)
    : ofBytes? (Utf8.encode value.print) = some value := by
  have visible : ∀ c ∈ value.print.toList, IsVisible c := by
    rw [print, String.toList_ofList]
    exact exact.isVisible
  rw [ofBytes?_encode visible, parse_print exact]
  rfl

end PatchReview.Json
