import PatchReview.Proofs.Assoc
import PatchReview.Proofs.Json.Spelling

/-! Values that are printed are read back as they were, as long as there are no doubles in them, their
numbers are short and the keys of each object differ.
-/

namespace PatchReview.Json

open PatchReview.Text

/-- A value is exact when there are no doubles in it, its numbers are short and the keys of each of its
objects differ.
-/
inductive IsExact : Json → Prop
  | null : IsExact .null
  | bool (b : Bool) : IsExact (.bool b)
  | int {n} (short : Integer.IsShort n) : IsExact (.int n)
  | str (s : String) : IsExact (.str s)
  | arr {items} (each : ∀ item ∈ items, IsExact item) : IsExact (.arr items)
  | obj {fields} (distinct : (Assoc.keys fields).Nodup) (each : ∀ field ∈ fields, IsExact field.2)
    : IsExact (.obj fields)

theorem isExact_arr_iff (items : List Json) : (arr items).IsExact ↔ ∀ item ∈ items, item.IsExact := by
  constructor
  · intro exact
    cases exact with
    | arr each => exact each
  · exact .arr

theorem isExact_obj_iff (fields : Fields)
    : (obj fields).IsExact ↔ (Assoc.keys fields).Nodup ∧ ∀ field ∈ fields, field.2.IsExact := by
  constructor
  · intro exact
    cases exact with
    | obj distinct each => exact ⟨distinct, each⟩
  · exact fun exact => .obj exact.1 exact.2

/-- (value.IsReadBack) says that the text of a value is read as the value where that ends, in no more steps
than twice as many as there are characters.
-/
def IsReadBack (value : Json) : Prop :=
  ∀ rest steps, EndsValue rest → 2 * value.printChars.length ≤ steps →
    readValue none steps (value.printChars ++ rest) = .ok (value, rest)

-----------------------------------------------------------------------------------------
-- First characters
-----------------------------------------------------------------------------------------

/-- A character with which a value starts: no gap and no end of an array or an object. -/
def StartsValue (c : Char) : Prop := isGap c = false ∧ c ≠ ']' ∧ c ≠ '\x7d'

instance (c : Char) : Decidable (StartsValue c) := inferInstanceAs (Decidable (_ ∧ _ ∧ _))

theorem startsValue_of_number {c : Char} (first : c = '-' ∨ isAsciiDigit c = true) : StartsValue c := by
  rcases first with rfl | digit
  · decide
  · have differs : ∀ other, isAsciiDigit other = false → c ≠ other := fun _ => ne_of_digit digit
    exact ⟨by simp [isGap, differs, isAsciiDigit], differs _ (by decide), differs _ (by decide)⟩

/-- An exact value starts with such a character, by cases on the value. -/
theorem IsExact.starts {value : Json} (exact : value.IsExact)
    : ∃ c more, value.printChars = c :: more ∧ StartsValue c := by
  cases exact with
  | null => exact ⟨'n', _, rfl, by decide⟩
  | bool b =>
      cases b with
      | false => exact ⟨'f', _, rfl, by decide⟩
      | true => exact ⟨'t', _, rfl, by decide⟩
  | @int n =>
      obtain ⟨c, more, text, first⟩ := exists_toString_eq_cons n
      exact ⟨c, more, text, startsValue_of_number first⟩
  | str => exact ⟨'\x22', _, rfl, by decide⟩
  | arr => exact ⟨'[', _, rfl, by decide⟩
  | obj => exact ⟨'\x7b', _, rfl, by decide⟩

theorem skipGap_cons {c : Char} {cs : List Char} (plain : isGap c = false) : skipGap (c :: cs) = c :: cs := by
  simp [skipGap, plain]

/-- In front of an exact value a blank is skipped. -/
theorem skipGap_blank {value : Json} (exact : value.IsExact) (rest : List Char)
    : skipGap (' ' :: (value.printChars ++ rest)) = value.printChars ++ rest := by
  obtain ⟨c, more, text, starts⟩ := exact.starts
  rw [text, List.cons_append, skipGap, List.dropWhile_cons_of_pos (by decide),
    List.dropWhile_cons_of_neg (by simp [starts.1])]

-----------------------------------------------------------------------------------------
-- Words, numbers and strings
-----------------------------------------------------------------------------------------

/-- The text of a number is no word. -/
theorem readAtom_toString (n : Int) (rest : List Char)
    : readAtom ((toString n).toList ++ rest) = readNumber ((toString n).toList ++ rest) := by
  obtain ⟨first, more, digits⟩ := List.exists_cons_of_ne_nil (Nat.toDigits_ne_nil (n := n.natAbs) (b := 10))
  have digit := Numeral.isAsciiDigit_of_mem (n := n.natAbs) (digits ▸ List.mem_cons_self)
  have differs : ∀ other, isAsciiDigit other = false → other ≠ first :=
    fun _ none => (ne_of_digit digit none).symm
  have noWord : ∀ entry ∈ words, dropWord? entry.1 ((toString n).toList ++ rest) = none := by
    rw [Numeral.toList_toString, digits]
    by_cases negative : n < 0
    · simp [words, dropWord?, negative, differs, isAsciiDigit]
    · simp [words, dropWord?, negative, differs, isAsciiDigit]
  have none : words.findSome? (fun entry =>
      (dropWord? entry.1 ((toString n).toList ++ rest)).map fun rest => (entry.2, rest)) = none := by
    rw [List.findSome?_eq_none_iff]
    exact fun entry member => by rw [noWord entry member, Option.map_none]
  unfold readAtom
  rw [none]

theorem isReadBack_int {n : Int} (short : Integer.IsShort n) : (int n).IsReadBack := by
  intro rest steps ends enough
  obtain ⟨c, more, text, first⟩ := exists_toString_eq_cons n
  have read := (readAtom_toString n rest).trans (readNumber_toString short ends)
  rw [printChars, text] at enough
  obtain ⟨steps, rfl⟩ : ∃ fewer, steps = fewer + 1 := ⟨steps - 1, by simp at enough; omega⟩
  rw [text, List.cons_append] at read
  rw [printChars, text, List.cons_append, readValue]
  have quote : (c == '\x22') = false := by
    rcases first with rfl | digit
    · rfl
    · simpa using ne_of_digit digit (by decide)
  have brace : (c == '\x7b') = false := by
    rcases first with rfl | digit
    · rfl
    · simpa using ne_of_digit digit (by decide)
  have bracket : (c == '[') = false := by
    rcases first with rfl | digit
    · rfl
    · simpa using ne_of_digit digit (by decide)
  simpa only [quote, brace, bracket, Bool.false_eq_true, if_false] using read

/-- No character is printed as nothing, by induction on the characters. -/
theorem length_le_flatMap_escapeChar (cs : List Char) : cs.length ≤ (cs.flatMap escapeChar).length := by
  have nonempty : ∀ c, 1 ≤ (escapeChar c).length := by
    intro c
    unfold escapeChar
    repeat' split
    all_goals simp [escapeUnit]
  induction cs with
  | nil => simp
  | cons c cs ih =>
      have here := nonempty c
      rw [List.flatMap_cons, List.length_append, List.length_cons]
      omega

/-- A printed string is read back behind its opening quote. -/
theorem readString_printString (s : String) (opening rest : List Char) (steps : Nat)
    (enough : (printString s).length ≤ steps)
    : readString opening steps (s.toList.flatMap escapeChar ++ '\x22' :: rest) = .ok (s.toList, rest) := by
  apply readString_flatMap_escapeChar
  have longer := length_le_flatMap_escapeChar s.toList
  simp only [printString, List.cons_append, List.length_cons, List.length_append] at enough
  omega

theorem isReadBack_str (s : String) : (str s).IsReadBack := by
  intro rest steps _ enough
  obtain ⟨steps, rfl⟩ : ∃ fewer, steps = fewer + 1 := by
    refine ⟨steps - 1, ?_⟩
    simp [printChars, printString] at enough
    omega
  have read := readString_printString s ('\x22' :: (s.toList.flatMap escapeChar ++ '\x22' :: rest)) rest
    steps (by simp [printChars] at enough; omega)
  have text : printChars (str s) ++ rest
      = '\x22' :: (s.toList.flatMap escapeChar ++ '\x22' :: rest) := by
    simp [printChars, printString]
  rw [text, readValue, if_pos (by decide), read]
  simp [bind, Except.bind, pure, Except.pure]

-----------------------------------------------------------------------------------------
-- Arrays and objects
-----------------------------------------------------------------------------------------

/-- Without a limit a bracket leaves the room as it is. -/
theorem within_none_bind {α : Type} (bracket : Bracket) (next : Room → Except Stop α)
    : (Room.within bracket none >>= next) = next none := rfl

/-- Behind the opening bracket of an array that is not empty its items are read. -/
theorem readValue_bracket {body : List Char} {c : Char} {more : List Char} (starts : StartsValue c)
    (text : body = c :: more) (steps : Nat)
    : readValue none (steps + 1) ('[' :: body)
      = (readItems none steps body).map fun read => (.arr read.1, read.2) := by
  have skipped : skipGap body = body := by rw [text, skipGap_cons starts.1]
  have nonempty : ∀ after, body ≠ ']' :: after := by
    intro after same
    rw [text] at same
    exact starts.2.1 (List.cons.inj same).1
  rw [readValue, if_neg (by decide), if_neg (by decide), if_pos (by decide), skipped,
    within_none_bind]
  split
  · next after => exact absurd rfl (nonempty after)
  · cases readItems none steps body <;> rfl

/-- The items of an array are read back when each of them is, by induction on the items. -/
theorem readItems_printItems {item : Json} {items : List Json}
    (exact : ∀ value ∈ item :: items, value.IsExact) (each : ∀ value ∈ item :: items, value.IsReadBack)
    (rest : List Char) {steps : Nat} (enough : 2 * (printItems (item :: items)).length < steps)
    : readItems none steps (printItems (item :: items) ++ ']' :: rest) = .ok (item :: items, rest) := by
  induction items generalizing item steps with
  | nil =>
      obtain ⟨steps, rfl⟩ : ∃ fewer, steps = fewer + 1 := ⟨steps - 1, by omega⟩
      have first := each item List.mem_cons_self (']' :: rest) steps (by simp [EndsValue])
        (by simp [printItems, printMoreItems] at enough; omega)
      have text : printItems [item] ++ ']' :: rest = item.printChars ++ ']' :: rest := by
        simp [printItems, printMoreItems]
      rw [text, readItems, first]
      rfl
  | cons next more ih =>
      obtain ⟨steps, rfl⟩ : ∃ fewer, steps = fewer + 1 := ⟨steps - 1, by omega⟩
      have length : (printItems (item :: next :: more)).length
          = item.printChars.length + 2 + (printItems (next :: more)).length := by
        simp [printItems, printMoreItems]
        omega
      have text : printItems (item :: next :: more) ++ ']' :: rest
          = item.printChars ++ ',' :: ' ' :: (printItems (next :: more) ++ ']' :: rest) := by
        simp [printItems, printMoreItems]
      have first := each item List.mem_cons_self
        (',' :: ' ' :: (printItems (next :: more) ++ ']' :: rest)) steps (by simp [EndsValue]) (by omega)
      have others : readItems none steps (printItems (next :: more) ++ ']' :: rest) = .ok (next :: more, rest) :=
        ih (fun value member => exact value (List.mem_cons_of_mem item member))
          (fun value member => each value (List.mem_cons_of_mem item member)) (by omega)
      have skipped : skipGap (' ' :: (printItems (next :: more) ++ ']' :: rest))
          = printItems (next :: more) ++ ']' :: rest := by
        have blank := skipGap_blank (exact next (by simp)) (printMoreItems more ++ ']' :: rest)
        simpa [printItems] using blank
      rw [text, readItems, first]
      show (readItems none steps (skipGap _) >>= _) = _
      rw [skipped, others]
      rfl

theorem isReadBack_arr {items : List Json} (exact : ∀ value ∈ items, value.IsExact)
    (each : ∀ value ∈ items, value.IsReadBack) : (arr items).IsReadBack := by
  intro rest steps _ enough
  have text : printChars (arr items) ++ rest = '[' :: (printItems items ++ ']' :: rest) := by
    simp [printChars]
  have length : (printChars (arr items)).length = (printItems items).length + 2 := by
    simp [printChars]
  obtain ⟨steps, rfl⟩ : ∃ fewer, steps = fewer + 1 := ⟨steps - 1, by omega⟩
  rw [text]
  cases items with
  | nil => rfl
  | cons item items =>
      obtain ⟨c, more, begins, starts⟩ := (exact item List.mem_cons_self).starts
      rw [readValue_bracket starts (by rw [printItems, begins]; rfl),
        readItems_printItems exact each rest (by omega)]
      rfl

/-- Behind the opening brace of an object that is not empty its fields are read. -/
theorem readValue_brace {body more : List Char} (text : body = '\x22' :: more) (steps : Nat)
    : readValue none (steps + 1) ('\x7b' :: body)
      = (readFields none steps body).map fun read => (.obj (Assoc.ofList read.1), read.2) := by
  subst text
  rw [readValue, if_neg (by decide), if_pos (by decide), skipGap_cons (by decide)]
  show (readFields none steps ('\x22' :: more) >>= fun read => pure (obj (Assoc.ofList read.1), read.2)) = _
  cases readFields none steps ('\x22' :: more) <;> rfl

/-- A field is read when its key and its value are, also where the next field comes behind it. -/
theorem readFields_field (key : String) (value : Json) (exact : value.IsExact) (readBack : value.IsReadBack)
    (more : List Char) (steps : Nat)
    (enough : (printString key).length + 2 * value.printChars.length ≤ steps)
    : readFields none (steps + 1) (printString key ++ ':' :: ' ' :: (value.printChars ++ '\x7d' :: more))
        = .ok ([(key, value)], more)
      ∧ readFields none (steps + 1) (printString key ++ ':' :: ' ' :: (value.printChars ++ ',' :: more))
        = (readFields none steps (skipGap more)).map fun read => ((key, value) :: read.1, read.2) := by
  have text : ∀ rest, printString key ++ ':' :: ' ' :: (value.printChars ++ rest)
      = '\x22' :: (key.toList.flatMap escapeChar
          ++ '\x22' :: ':' :: ' ' :: (value.printChars ++ rest)) := by
    simp [printString]
  have name := fun opening rest => readString_printString key opening rest steps (by omega)
  have content := fun rest ends => readBack rest steps ends (by omega)
  constructor
  · rw [text, readFields, if_pos (by decide), name]
    show (readValue none steps (skipGap (' ' :: (value.printChars ++ '\x7d' :: more))) >>= _) = _
    rw [skipGap_blank exact, content _ (by simp [EndsValue])]
    show Except.ok ([(String.ofList key.toList, value)], more) = _
    rw [String.ofList_toList]
  · rw [text, readFields, if_pos (by decide), name]
    show (readValue none steps (skipGap (' ' :: (value.printChars ++ ',' :: more))) >>= _) = _
    rw [skipGap_blank exact, content _ (by simp [EndsValue])]
    show (readFields none steps (skipGap more) >>= fun read =>
      pure ((String.ofList key.toList, value) :: read.1, read.2)) = _
    rw [String.ofList_toList]
    cases readFields none steps (skipGap more) <;> rfl

/-- The fields of an object are read back when the value of each of them is, by induction on the fields. -/
theorem readFields_printFields {field : String × Json} {fields : List (String × Json)}
    (exact : ∀ entry ∈ field :: fields, entry.2.IsExact)
    (each : ∀ entry ∈ field :: fields, entry.2.IsReadBack)
    (rest : List Char) {steps : Nat} (enough : 2 * (printFields (field :: fields)).length < steps)
    : readFields none steps (printFields (field :: fields) ++ '\x7d' :: rest) = .ok (field :: fields, rest) := by
  induction fields generalizing field steps with
  | nil =>
      obtain ⟨key, value⟩ := field
      obtain ⟨steps, rfl⟩ : ∃ fewer, steps = fewer + 1 := ⟨steps - 1, by omega⟩
      have text : printFields [(key, value)] ++ '\x7d' :: rest
          = printString key ++ ':' :: ' ' :: (value.printChars ++ '\x7d' :: rest) := by
        simp [printFields, printMoreFields]
      have last := readFields_field key value (exact _ List.mem_cons_self) (each _ List.mem_cons_self) rest
        steps (by simp [printFields, printMoreFields] at enough; omega)
      rw [text, last.1]
  | cons next more ih =>
      obtain ⟨key, value⟩ := field
      obtain ⟨steps, rfl⟩ : ∃ fewer, steps = fewer + 1 := ⟨steps - 1, by omega⟩
      have length : (printFields ((key, value) :: next :: more)).length
          = (printString key).length + 4 + value.printChars.length
            + (printFields (next :: more)).length := by
        simp [printFields, printMoreFields]
        omega
      have text : printFields ((key, value) :: next :: more) ++ '\x7d' :: rest
          = printString key ++ ':' :: ' ' :: (value.printChars
              ++ ',' :: ' ' :: (printFields (next :: more) ++ '\x7d' :: rest)) := by
        simp [printFields, printMoreFields]
      have others : readFields none steps (printFields (next :: more) ++ '\x7d' :: rest)
          = .ok (next :: more, rest) :=
        ih (fun entry member => exact entry (List.mem_cons_of_mem _ member))
          (fun entry member => each entry (List.mem_cons_of_mem _ member)) (by omega)
      have skipped : skipGap (' ' :: (printFields (next :: more) ++ '\x7d' :: rest))
          = printFields (next :: more) ++ '\x7d' :: rest := by
        simp [skipGap, printFields, printString, isGap]
      have first := readFields_field key value (exact _ List.mem_cons_self) (each _ List.mem_cons_self)
        (' ' :: (printFields (next :: more) ++ '\x7d' :: rest)) steps (by omega)
      rw [text, first.2, skipped, others]
      rfl

theorem isReadBack_obj {fields : List (String × Json)} (distinct : (Assoc.keys fields).Nodup)
    (exact : ∀ field ∈ fields, field.2.IsExact) (each : ∀ field ∈ fields, field.2.IsReadBack)
    : (obj fields).IsReadBack := by
  intro rest steps _ enough
  have text : printChars (obj fields) ++ rest = '\x7b' :: (printFields fields ++ '\x7d' :: rest) := by
    simp [printChars]
  have length : (printChars (obj fields)).length = (printFields fields).length + 2 := by
    simp [printChars]
  obtain ⟨steps, rfl⟩ : ∃ fewer, steps = fewer + 1 := ⟨steps - 1, by omega⟩
  rw [text]
  cases fields with
  | nil => rfl
  | cons field fields =>
      have opened : printFields (field :: fields) ++ '\x7d' :: rest
          = '\x22' :: (printFields (field :: fields) ++ '\x7d' :: rest).tail := by
        simp [printFields, printString]
      rw [readValue_brace opened, readFields_printFields exact each rest (by omega)]
      show Except.ok (obj (Assoc.ofList (field :: fields)), rest) = _
      rw [Assoc.ofList_of_nodup distinct]

-----------------------------------------------------------------------------------------
-- Texts
-----------------------------------------------------------------------------------------

/-- An exact value is read back, by induction on the value. -/
theorem IsExact.isReadBack {value : Json} (exact : value.IsExact) : value.IsReadBack := by
  induction exact with
  | null =>
      intro rest steps _ enough
      obtain ⟨steps, rfl⟩ : ∃ fewer, steps = fewer + 1 := ⟨steps - 1, by simp [printChars] at enough; omega⟩
      rfl
  | bool b =>
      intro rest steps _ enough
      obtain ⟨steps, rfl⟩ : ∃ fewer, steps = fewer + 1 := by
        refine ⟨steps - 1, ?_⟩
        cases b <;> simp [printChars] at enough <;> omega
      cases b <;> rfl
  | int short => exact isReadBack_int short
  | str s => exact isReadBack_str s
  | arr each ih => exact isReadBack_arr each ih
  | obj distinct each ih => exact isReadBack_obj distinct each ih

end PatchReview.Json
