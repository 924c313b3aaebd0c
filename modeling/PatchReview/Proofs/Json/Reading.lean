import PatchReview.Proofs.Json.RoundTrip

/-! What is read from a text, whatever the text. A value that is read has short numbers and distinct keys.
Reading stops at a number only where a whole number with too many digits stands outside of all strings, and at
a bracket only where more brackets open than there is room for.
-/

namespace PatchReview.Json

open PatchReview.Text

-----------------------------------------------------------------------------------------
-- Where characters stand
-----------------------------------------------------------------------------------------

/-- Where a character of a text stands: between words, numbers and strings, behind the first letter of a
word or a number, in a string, or behind a backslash in a string.
-/
inductive Spot where
  | between
  | word
  | quoted
  | escaped
  deriving DecidableEq

namespace Spot

/-- Letters of words and numbers. -/
def isWordLetter (c : Char) : Bool := c.isAlphanum || c == '+' || c == '-' || c == '.'

/-- The spot behind a character. -/
def next : Spot → Char → Spot
  | .escaped, _ => .quoted
  | .quoted, c => if c == '\\' then .escaped else if c == '\x22' then .between else .quoted
  | .between, c | .word, c =>
      if c == '\x22' then .quoted else if isWordLetter c then .word else .between

/-- Whether a spot is outside of strings. -/
def isOutside : Spot → Bool
  | .between | .word => true
  | .quoted | .escaped => false

/-- Gaps, and the characters that part the values of a document. -/
def isMark (c : Char) : Bool := c != '\x22' && !isWordLetter c

variable {spot : Spot} {c : Char} {cs : List Char}

theorem next_of_isMark (outside : spot.isOutside = true) (mark : isMark c = true)
    : spot.next c = .between := by
  obtain ⟨quote, letter⟩ := Bool.and_eq_true_iff.mp mark
  cases spot with
  | between | word => simp_all [next]
  | quoted | escaped => cases outside

theorem isOutside_next (outside : spot.isOutside = true) (plain : c ≠ '\x22')
    : (spot.next c).isOutside = true := by
  cases spot with
  | between | word =>
      simp only [next, beq_iff_eq, plain, if_false]
      split <;> rfl
  | quoted | escaped => cases outside

end Spot

/-- (Walks start cs stop after) says that the characters of `cs` in front of `after` lead from one spot to
another.
-/
def Walks (start : Spot) (cs : List Char) (stop : Spot) (after : List Char) : Prop :=
  ∃ passed, cs = passed ++ after ∧ passed.foldl Spot.next start = stop

/-- (Passes cs after) says that what stands in front of `after` leads outside of strings. -/
def Passes (cs after : List Char) : Prop :=
  ∃ stop, stop.isOutside = true ∧ Walks .between cs stop after

variable {start middle stop : Spot} {cs rest after : List Char} {c : Char}

theorem Walks.refl (spot : Spot) (cs : List Char) : Walks spot cs spot cs := ⟨[], rfl, rfl⟩

theorem Walks.trans (first : Walks start cs middle rest) (second : Walks middle rest stop after)
    : Walks start cs stop after := by
  obtain ⟨before, rfl, rfl⟩ := first
  obtain ⟨between, rfl, rfl⟩ := second
  exact ⟨before ++ between, (List.append_assoc ..).symm, List.foldl_append⟩

/-- One character leads from its spot to the next. -/
theorem Walks.step (spot : Spot) (c : Char) (rest : List Char) : Walks spot (c :: rest) (spot.next c) rest :=
  ⟨[c], rfl, rfl⟩

/-- What has no quotation marks leads outside of strings when it starts there, by induction on it. -/
theorem isOutside_foldl {passed : List Char} (outside : start.isOutside = true)
    (plain : ∀ c ∈ passed, c ≠ '\x22')
    : (passed.foldl Spot.next start).isOutside = true := by
  induction passed generalizing start with
  | nil => exact outside
  | cons c passed ih =>
      obtain ⟨here, later⟩ := List.forall_mem_cons.mp plain
      exact ih (Spot.isOutside_next outside here) later

/-- Gaps lead on from where they stand between two values, by induction on the text. -/
theorem walks_skipGap (cs : List Char) : Walks .between cs .between (skipGap cs) := by
  induction cs with
  | nil => exact .refl _ _
  | cons c rest ih =>
      by_cases gap : isGap c = true
      · have mark : Spot.isMark c = true := by
          simp only [isGap, Bool.or_eq_true, beq_iff_eq] at gap
          rcases gap with ((rfl | rfl) | rfl) | rfl <;> decide
        have first := Walks.step .between c rest
        rw [Spot.next_of_isMark rfl mark] at first
        rw [skipGap, List.dropWhile_cons_of_pos gap]
        exact first.trans ih
      · rw [skipGap, List.dropWhile_cons_of_neg gap]
        exact .refl _ _

/-- Behind a value a gap and a mark lead to the next one. -/
theorem Passes.mark (passes : Passes cs rest) (behind : skipGap rest = c :: after)
    (mark : Spot.isMark c = true)
    : Walks .between cs .between after := by
  obtain ⟨spot, outside, walks⟩ := passes
  have gaps : ∃ spot, spot.isOutside = true ∧ Walks .between cs spot (c :: after) := by
    have plain : ∀ c ∈ rest.takeWhile isGap, c ≠ '\x22' := by
      intro c member same
      have gap := List.all_takeWhile (p := isGap) (l := rest)
      rw [List.all_eq_true] at gap
      exact absurd (gap c member) (by rw [same]; decide)
    refine ⟨_, isOutside_foldl outside plain, walks.trans ⟨rest.takeWhile isGap, ?_, rfl⟩⟩
    rw [← behind, skipGap, List.takeWhile_append_dropWhile]
  obtain ⟨spot, outside, walks⟩ := gaps
  have last := Walks.step spot c after
  rw [Spot.next_of_isMark outside mark] at last
  exact walks.trans last

-----------------------------------------------------------------------------------------
-- What reading ends with
-----------------------------------------------------------------------------------------

/-- (Ends good long deep result) says that a value that is read is good, and that reading stops at a number
only when `long` holds, and at a bracket only when `deep` does.
-/
def Ends {α : Type} (good : α → List Char → Prop) (long deep : Prop)
    : Except Stop (α × List Char) → Prop
  | .ok (value, after) => good value after
  | .error (.number _) => long
  | .error (.tooDeep _) => deep
  | .error (.malformed ..) => True

section Results

variable {α β : Type} {good other : α → List Char → Prop} {goodNext : β → List Char → Prop}
  {long longer deep deeper : Prop} {result : Except Stop (α × List Char)}

theorem Ends.mono (ends : Ends good long deep result)
    (better : ∀ value after, good value after → other value after) (still : long → longer)
    (yet : deep → deeper)
    : Ends other longer deeper result := by
  rcases result with (_ | _ | _) | ⟨value, after⟩
  · trivial
  · exact still ends
  · exact yet ends
  · exact better value after ends

/-- What follows a value that is read ends well when it does so behind every good value. -/
theorem Ends.bind {next : α × List Char → Except Stop (β × List Char)} (begins : Ends good long deep result)
    (goesOn : ∀ value after, good value after → Ends goodNext long deep (next (value, after)))
    : Ends goodNext long deep (result >>= next) := by
  rcases result with (_ | _ | _) | ⟨value, after⟩
  · trivial
  · exact begins
  · exact begins
  · exact goesOn value after begins

end Results

-----------------------------------------------------------------------------------------
-- Strings
-----------------------------------------------------------------------------------------

/-- Four hexadecimal digits stay in their string. -/
theorem walks_hexUnit? {unit : Nat} (read : hexUnit? cs = some (unit, after))
    : Walks .quoted cs .quoted after := by
  have plain : ∀ c, (hexValue? c).isSome → Spot.quoted.next c = .quoted := by
    intro c digit
    have quote : c ≠ '\x22' := by
      rintro rfl
      cases digit
    have slash : c ≠ '\\' := by
      rintro rfl
      cases digit
    simp [Spot.next, quote, slash]
  unfold hexUnit? at read
  split at read
  · next first second third fourth last rest =>
      simp only [Option.bind_eq_bind, Option.bind_eq_some_iff, Option.pure_def, Option.some.injEq,
        Prod.mk.injEq] at read
      obtain ⟨_, one, _, two, _, three, _, four, -, rfl⟩ := read
      refine ⟨[first, second, third, fourth], rfl, ?_⟩
      simp [plain, one, two, three, four]
  · cases read

/-- The digits of a unit, and those of its other half, stay in their string, by cases on the halves. -/
theorem ends_readUnit (cs : List Char)
    : Ends (fun _ after => Walks .quoted cs .quoted after) False False (readUnit cs) := by
  unfold readUnit
  split
  · trivial
  · next unit rest read =>
      have first := walks_hexUnit? read
      split
      · split
        · next more =>
            split
            · exact first
            split
            · trivial
            · next low after other =>
                split
                · have mark := (Walks.step .quoted '\\' ('u' :: more)).trans (Walks.step .escaped 'u' more)
                  exact first.trans (mark.trans (walks_hexUnit? other))
                · exact first
        · exact first
      · split
        · exact first
        · exact first

/-- An escape leads back into its string. -/
theorem ends_readEscape (opening place cs : List Char)
    : Ends (fun _ after => Walks .escaped cs .quoted after) False False (readEscape opening place cs) := by
  cases cs with
  | nil => trivial
  | cons c rest =>
      have first := Walks.step .escaped c rest
      rw [readEscape]
      split
      · exact (ends_readUnit rest).mono (fun _ _ => first.trans) id id
      split
      · exact first
      · trivial

/-- The characters of a string lead behind its closing quote, by induction on the steps. -/
theorem ends_readString (opening : List Char) (steps : Nat) (cs : List Char)
    : Ends (fun _ after => Walks .quoted cs .between after) False False (readString opening steps cs) := by
  induction steps generalizing cs with
  | zero => trivial
  | succ steps ih =>
      cases cs with
      | nil => trivial
      | cons c rest =>
          have first := Walks.step .quoted c rest
          unfold readString
          split
          · next quote =>
              rw [eq_of_beq quote] at first ⊢
              exact first
          · next quote =>
              split
              · next slash =>
                  rw [eq_of_beq slash] at first ⊢
                  refine (ends_readEscape opening _ rest).bind fun x after escape => ?_
                  exact (ih after).bind fun more last later => first.trans (escape.trans later)
              · next slash =>
                  have plain : Spot.quoted.next c = .quoted := by simp_all [Spot.next]
                  rw [plain] at first
                  split
                  · trivial
                  · exact (ih rest).bind fun more last later => first.trans later

-----------------------------------------------------------------------------------------
-- Words and numbers
-----------------------------------------------------------------------------------------

/-- What stands in front of `rest` has no quotation marks. -/
def Plainly (cs rest : List Char) : Prop := ∃ passed, cs = passed ++ rest ∧ ∀ c ∈ passed, c ≠ '\x22'

theorem Plainly.refl (cs : List Char) : Plainly cs cs := ⟨[], rfl, List.forall_mem_nil _⟩

theorem Plainly.trans (first : Plainly cs rest) (second : Plainly rest after) : Plainly cs after := by
  obtain ⟨before, rfl, plain⟩ := first
  obtain ⟨between, rfl, plainToo⟩ := second
  exact ⟨before ++ between, (List.append_assoc ..).symm, List.forall_mem_append.mpr ⟨plain, plainToo⟩⟩

theorem Plainly.cons (plain : c ≠ '\x22') (later : Plainly cs rest) : Plainly (c :: cs) rest := by
  obtain ⟨passed, rfl, plainToo⟩ := later
  exact ⟨c :: passed, rfl, List.forall_mem_cons.mpr ⟨plain, plainToo⟩⟩

theorem Plainly.passes (plainly : Plainly cs rest) : Passes cs rest := by
  obtain ⟨passed, rfl, plain⟩ := plainly
  exact ⟨_, isOutside_foldl rfl plain, passed, rfl, rfl⟩

theorem isAsciiDigit_of_mem_takeWhile (member : c ∈ cs.takeWhile isAsciiDigit) : isAsciiDigit c = true :=
  List.all_eq_true.mp List.all_takeWhile c member

theorem plainly_digits (cs : List Char) : Plainly cs (cs.dropWhile isAsciiDigit) := by
  refine ⟨cs.takeWhile isAsciiDigit, List.takeWhile_append_dropWhile.symm, fun c member => ?_⟩
  exact ne_of_digit (isAsciiDigit_of_mem_takeWhile member) (by decide)

theorem plainly_takeFraction (cs : List Char) : Plainly cs (takeFraction cs).2 := by
  unfold takeFraction
  split
  · split
    · exact .refl _
    · exact .cons (by decide) (plainly_digits _)
  · exact .refl _

theorem plainly_takeSign (cs : List Char) : Plainly cs (Integer.takeSign cs).2 := by
  unfold Integer.takeSign
  split
  · exact .cons (by decide) (.refl _)
  · exact .cons (by decide) (.refl _)
  · exact .refl _

theorem plainly_takeExponent (cs : List Char) : Plainly cs (takeExponent cs).2 := by
  unfold takeExponent
  split
  · next mark rest =>
      split
      · next isMark =>
          have plain : mark ≠ '\x22' := by
            rintro rfl
            cases isMark
          dsimp only
          split
          · exact .refl _
          · exact .cons plain ((plainly_takeSign rest).trans (plainly_digits _))
      · exact .refl _
  · exact .refl _

/-- (EndsWhole after) says that a whole number ends in front of `after`: neither a digit follows nor a
fraction or an exponent.
-/
def EndsWhole (after : List Char) : Prop :=
  (∀ c, after.head? = some c → isAsciiDigit c = false)
  ∧ (takeFraction after).1 = none
  ∧ (takeExponent after).1 = none

/-- (HasLongNumber cs) says that a whole number with more digits than the limit stands somewhere outside of
strings, at a place where it begins.
-/
def HasLongNumber (cs : List Char) : Prop :=
  ∃ sign digits after,
    Walks .between cs .between (sign ++ (digits ++ after))
    ∧ (sign = [] ∨ sign = ['-'])
    ∧ (∀ c ∈ digits, isAsciiDigit c = true)
    ∧ Integer.maxDigits < digits.length
    ∧ EndsWhole after

theorem HasLongNumber.behind (walks : Walks .between cs .between rest) (long : HasLongNumber rest)
    : HasLongNumber cs := by
  obtain ⟨sign, digits, after, begins, number⟩ := long
  exact ⟨sign, digits, after, walks.trans begins, number⟩

/-- (EscapesUnit cs here unit after) says that a sixteen bit unit is escaped in a string of `cs`, by the characters
from `here` up to `after`.
-/
def EscapesUnit (cs here : List Char) (unit : Nat) (after : List Char) : Prop :=
  Walks .between cs .quoted here
  ∧ ∃ digits, here = '\\' :: 'u' :: digits ∧ hexUnit? digits = some (unit, after)

/-- (HasLoneHalf cs) says that half a character is escaped in a string of `cs` and its other half is not escaped
beside it. Such a half is told from the replacement character nowhere in a text that is read.
-/
def HasLoneHalf (cs : List Char) : Prop :=
  ∃ here unit after,
    EscapesUnit cs here unit after
    ∧ (isHighHalf unit = true
        ∧ (¬ ∃ low behind, EscapesUnit cs after low behind ∧ isLowHalf low = true)
      ∨ isLowHalf unit = true
        ∧ ¬ ∃ front high, EscapesUnit cs front high here ∧ isHighHalf high = true)

/-- Half a character is escaped behind a backslash. -/
theorem HasLoneHalf.mem (lone : HasLoneHalf cs) : '\\' ∈ cs := by
  obtain ⟨here, unit, after, ⟨⟨passed, rfl, -⟩, digits, rfl, -⟩, -⟩ := lone
  exact List.mem_append_right passed List.mem_cons_self

/-- A value is tidy when its numbers are short and the keys of each of its objects differ. Its doubles are
any.
-/
inductive IsTidy : Json → Prop
  | null : IsTidy .null
  | bool (b : Bool) : IsTidy (.bool b)
  | int {n} (short : Integer.IsShort n) : IsTidy (.int n)
  | float (x : Binary64) : IsTidy (.float x)
  | str (s : String) : IsTidy (.str s)
  | arr {items} (each : ∀ item ∈ items, IsTidy item) : IsTidy (.arr items)
  | obj {fields} (distinct : (Assoc.keys fields).Nodup) (each : ∀ field ∈ fields, IsTidy field.2)
    : IsTidy (.obj fields)

/-- Brackets that open. -/
def isOpening (c : Char) : Bool := c == '[' || c == '\x7b'

/-- (Exceeds room cs) says that more brackets open in a text than there is room for. -/
def Exceeds (room : Room) (cs : List Char) : Prop := ∃ limit, room = some limit ∧ limit < cs.countP isOpening

variable {room inner : Room}

theorem not_exceeds_none : ¬ Exceeds none cs := by
  rintro ⟨limit, none, -⟩
  cases none

theorem Exceeds.behind (walks : Walks start cs stop rest) (exceeds : Exceeds room rest)
    : Exceeds room cs := by
  obtain ⟨passed, rfl, -⟩ := walks
  obtain ⟨limit, same, more⟩ := exceeds
  exact ⟨limit, same, by rw [List.countP_append]; omega⟩

/-- Where too many brackets open behind one, too many open with it. -/
theorem Exceeds.cons {bracket : Bracket} (opens : isOpening c = true)
    (entered : room.within bracket = .ok inner) (exceeds : Exceeds inner cs)
    : Exceeds room (c :: cs) := by
  obtain ⟨limit, rfl, more⟩ := exceeds
  rcases room with _ | _ | room
  · cases entered
  · cases entered
  · cases entered
    exact ⟨limit + 1, rfl, by rw [List.countP_cons_of_pos opens]; omega⟩

/-- (EndsWell good room cs result) says that what is read from the start of `cs` is good and leads outside of
strings, that reading stops at a number only where a whole number is too long, and at a bracket only where
more brackets open than there is room for.
-/
def EndsWell {α : Type} (good : α → Prop) (room : Room) (cs : List Char)
    : Except Stop (α × List Char) → Prop :=
  Ends (fun value after => good value ∧ Passes cs after) (HasLongNumber cs) (Exceeds room cs)

section Results

variable {α : Type} {good : α → Prop} {result : Except Stop (α × List Char)}

/-- What ends well where a value stands does so for a text that leads there. -/
theorem EndsWell.behind (walks : Walks .between cs .between rest) (ends : EndsWell good room rest result)
    : EndsWell good room cs result := by
  refine ends.mono (fun value after found => ⟨found.1, ?_⟩) (.behind walks) (.behind walks)
  obtain ⟨stop, outside, later⟩ := found.2
  exact ⟨stop, outside, walks.trans later⟩

/-- What is read behind a bracket ends as it does in the room there is then, or there is none. -/
theorem Ends.within {good : α → List Char → Prop} {long : Prop} {bracket : Bracket}
    {next : Room → Except Stop (α × List Char)} (opens : isOpening c = true)
    (ends : ∀ inner, Ends good long (Exceeds inner cs) (next inner))
    : Ends good long (Exceeds room (c :: cs)) (room.within bracket >>= next) := by
  have deeper {inner : Room} (entered : room.within bracket = .ok inner)
      : Ends good long (Exceeds room (c :: cs)) (next inner) :=
    (ends inner).mono (fun _ _ found => found) id (.cons opens entered)
  rcases room with _ | _ | room
  · exact deeper rfl
  · exact ⟨0, rfl, by rw [List.countP_cons_of_pos opens]; omega⟩
  · exact deeper rfl

/-- What ends well behind a bracket and a gap does so for the text from the bracket on. -/
theorem EndsWell.entered (mark : Spot.isMark c = true) (ends : EndsWell good inner (skipGap cs) result)
    : Ends (fun value after => good value ∧ Passes (c :: cs) after) (HasLongNumber (c :: cs))
        (Exceeds inner cs) result := by
  have first := Walks.step .between c cs
  rw [Spot.next_of_isMark rfl mark] at first
  have opened := first.trans (walks_skipGap cs)
  refine ends.mono (fun value after found => ⟨found.1, ?_⟩) (.behind opened) (.behind (walks_skipGap cs))
  obtain ⟨stop, outside, later⟩ := found.2
  exact ⟨stop, outside, opened.trans later⟩

end Results

theorem isShort_of_digits {digits : List Char} (each : ∀ c ∈ digits, isAsciiDigit c = true)
    (within : digits.length ≤ Integer.maxDigits) (negative : Bool)
    : Integer.IsShort
        (if negative then -(Text.digitsValue (digitValues digits) : Int)
          else Text.digitsValue (digitValues digits)) := by
  have small : ∀ digit ∈ digitValues digits, digit < 10 := by
    intro digit member
    obtain ⟨c, among, rfl⟩ := List.mem_map.mp member
    have range : '0' ≤ c ∧ c ≤ '9' := by simpa [isAsciiDigit] using each c among
    have high : c.toNat ≤ 0x39 := range.2
    omega
  have bound := Numeral.digitsValue_lt small
  have length : (digitValues digits).length = digits.length := List.length_map ..
  rw [length] at bound
  have below := Nat.lt_of_lt_of_le bound (Nat.pow_le_pow_right (by decide) within)
  unfold Integer.IsShort
  cases negative
  · simpa using below
  · simpa using below

/-- The whole part of a number is digits, and what comes behind it starts with none if it is long. -/
theorem takeWhole_cases (cs : List Char)
    : cs = (takeWhole cs).1 ++ (takeWhole cs).2
      ∧ (∀ c ∈ (takeWhole cs).1, isAsciiDigit c = true)
      ∧ (1 < (takeWhole cs).1.length → ∀ c, (takeWhole cs).2.head? = some c → isAsciiDigit c = false) := by
  unfold takeWhole
  split
  · simp [isAsciiDigit]
  · refine ⟨List.takeWhile_append_dropWhile.symm, fun c => isAsciiDigit_of_mem_takeWhile, fun _ c head => ?_⟩
    have first := List.head?_dropWhile_not isAsciiDigit cs
    rw [head] at first
    simpa using first

theorem takeFraction_of_none (none : (takeFraction cs).1 = Option.none) : (takeFraction cs).2 = cs := by
  unfold takeFraction at none ⊢
  split at none
  · split at none
    · rfl
    · cases none
  · rfl

/-- A number ends well, by cases on what comes behind its whole part. -/
theorem endsWell_readNumber (room : Room) (cs : List Char) : EndsWell IsTidy room cs (readNumber cs) := by
  unfold readNumber
  split
  next negative body signed =>
    obtain ⟨sign, signs, rfl⟩ : ∃ sign, (sign = [] ∨ sign = ['-']) ∧ cs = sign ++ body := by
      split at signed
      · exact ⟨['-'], Or.inr rfl, by rw [← (Prod.mk.inj signed).2]; rfl⟩
      · exact ⟨[], Or.inl rfl, by rw [← (Prod.mk.inj signed).2]; rfl⟩
    obtain ⟨cut, digits, ends⟩ := takeWhole_cases body
    split
    next whole rest taken =>
      rw [taken] at cut digits ends
      dsimp only at cut digits ends
      have plainly : Plainly (sign ++ body) rest := by
        have plainSign : ∀ c ∈ sign, c ≠ '\x22' := by rcases signs with rfl | rfl <;> simp
        have plainWhole : ∀ c ∈ whole, c ≠ '\x22' := fun c member => ne_of_digit (digits c member) (by decide)
        exact Plainly.trans ⟨sign, rfl, plainSign⟩ ⟨whole, cut, plainWhole⟩
      split
      · trivial
      have fractionPlain := plainly_takeFraction rest
      have unbroken : (takeFraction rest).1 = none → (takeFraction rest).2 = rest := takeFraction_of_none
      split
      next fraction middle fractionTaken =>
        rw [fractionTaken] at fractionPlain unbroken
        have exponentPlain := plainly_takeExponent middle
        split
        next exponent after exponentTaken =>
          rw [exponentTaken] at exponentPlain
          have passes := (plainly.trans (fractionPlain.trans exponentPlain)).passes
          split
          · split
            · next long =>
                obtain rfl : middle = rest := unbroken rfl
                have alone : EndsWhole middle :=
                  ⟨ends (Nat.lt_trans (by decide) long), by rw [fractionTaken], by rw [exponentTaken]⟩
                exact ⟨sign, whole, middle, cut ▸ .refl _ _, signs, digits, long, alone⟩
            · next short => exact ⟨.int (isShort_of_digits digits (Nat.not_lt.mp short) negative), passes⟩
          · exact ⟨.float _, passes⟩

/-- A word that is dropped stands at the start, by induction on the word. -/
theorem eq_append_of_dropWord? {word : List Char} (dropped : dropWord? word cs = some rest)
    : cs = word ++ rest := by
  induction word generalizing cs with
  | nil => exact Option.some.inj dropped
  | cons w word ih =>
      cases cs with
      | nil => cases dropped
      | cons c cs =>
          unfold dropWord? at dropped
          split at dropped
          · next same => rw [eq_of_beq same, ih dropped, List.cons_append]
          · cases dropped

theorem endsWell_readAtom (room : Room) (cs : List Char) : EndsWell IsTidy room cs (readAtom cs) := by
  have each : ∀ entry ∈ words, entry.2.IsTidy ∧ ∀ c ∈ entry.1, c ≠ '\x22' := by
    simp [words, IsTidy.null, IsTidy.bool, IsTidy.float]
  unfold readAtom
  split
  · next found first =>
      obtain ⟨entry, member, dropped⟩ := List.exists_of_findSome?_eq_some first
      obtain ⟨rest, left, rfl⟩ := Option.map_eq_some_iff.mp dropped
      obtain ⟨tidy, plain⟩ := each entry member
      exact ⟨tidy, Plainly.passes ⟨entry.1, eq_append_of_dropWord? left, plain⟩⟩
  · exact endsWell_readNumber room cs

-----------------------------------------------------------------------------------------
-- Values
-----------------------------------------------------------------------------------------

theorem Walks.passes (walks : Walks .between cs .between rest) : Passes cs rest := ⟨.between, rfl, walks⟩

/-- A string ends well where a value or a key stands. -/
theorem endsWell_readString (room : Room) (opening : List Char) (steps : Nat) (rest : List Char)
    : EndsWell (fun _ => True) room ('\x22' :: rest) (readString opening steps rest) := by
  refine (ends_readString opening steps rest).mono (fun text after walks => ?_) False.elim False.elim
  exact ⟨trivial, ((Walks.step .between '\x22' rest).trans walks).passes⟩

/-- An object's keys differ, whatever fields are read for it. -/
theorem isTidy_ofList {fields : List (String × Json)} (each : ∀ field ∈ fields, field.2.IsTidy)
    : (Json.obj (Assoc.ofList fields)).IsTidy := by
  refine .obj (Assoc.nodup_keys_ofList fields) fun field member => ?_
  obtain ⟨before, after, rfl, -⟩ := Assoc.mem_ofList_iff.mp member
  exact each field (by simp)

section Steps

variable {steps : Nat} (value : ∀ room cs, EndsWell IsTidy room cs (readValue room steps cs))
  (items : ∀ room cs,
    EndsWell (fun items => ∀ item ∈ items, IsTidy item) room cs (readItems room steps cs))
  (fields : ∀ room cs,
    EndsWell (fun fields => ∀ field ∈ fields, IsTidy field.2) room cs (readFields room steps cs))

include items fields in
/-- A value ends well when the parts within it do, by cases on its first character. -/
theorem endsWell_readValue (room : Room) (cs : List Char)
    : EndsWell IsTidy room cs (readValue room (steps + 1) cs) := by
  cases cs with
  | nil => trivial
  | cons c rest =>
      rw [readValue]
      split
      · next quote =>
          rw [eq_of_beq quote]
          exact (endsWell_readString room _ steps rest).bind fun text after found => ⟨.str _, found.2⟩
      split
      · next quote brace =>
          rw [eq_of_beq brace]
          refine Ends.within (by decide) fun inner => ?_
          split
          · next after closed =>
              have done := (Walks.step .between '\x7b' rest).passes.mark closed (by decide)
              exact ⟨.obj .nil (List.forall_mem_nil _), done.passes⟩
          · refine ((fields inner _).entered (by decide)).bind fun entries after found => ?_
            exact ⟨isTidy_ofList found.1, found.2⟩
      split
      · next quote brace bracket =>
          rw [eq_of_beq bracket]
          refine Ends.within (by decide) fun inner => ?_
          split
          · next after closed =>
              have done := (Walks.step .between '[' rest).passes.mark closed (by decide)
              exact ⟨.arr (List.forall_mem_nil _), done.passes⟩
          · refine ((items inner _).entered (by decide)).bind fun parts after found => ?_
            exact ⟨.arr found.1, found.2⟩
      · exact endsWell_readAtom room (c :: rest)

include value items in
theorem endsWell_readItems (room : Room) (cs : List Char)
    : EndsWell (fun items => ∀ item ∈ items, IsTidy item) room cs (readItems room (steps + 1) cs) := by
  rw [readItems]
  refine (value room cs).bind fun item after found => ?_
  dsimp only
  split
  · next rest closed =>
      exact ⟨List.forall_mem_singleton.mpr found.1, (found.2.mark closed (by decide)).passes⟩
  · next rest parted =>
      have next := (found.2.mark parted (by decide)).trans (walks_skipGap rest)
      refine EndsWell.behind next ((items room _).bind fun others last later => ?_)
      exact ⟨List.forall_mem_cons.mpr ⟨found.1, later.1⟩, later.2⟩
  · trivial

include value fields in
theorem endsWell_readFields (room : Room) (cs : List Char)
    : EndsWell (fun fields => ∀ field ∈ fields, IsTidy field.2) room cs
        (readFields room (steps + 1) cs) := by
  cases cs with
  | nil => trivial
  | cons c rest =>
      rw [readFields]
      split
      · next quote =>
          rw [eq_of_beq quote]
          refine (endsWell_readString room _ steps rest).bind fun key after named => ?_
          dsimp only
          split
          · next text colon =>
              have content := (named.2.mark colon (by decide)).trans (walks_skipGap text)
              refine Ends.bind ((value room _).behind content) fun held behind found => ?_
              dsimp only
              split
              · next rest closed =>
                  exact ⟨List.forall_mem_singleton.mpr found.1, (found.2.mark closed (by decide)).passes⟩
              · next rest parted =>
                  have next := (found.2.mark parted (by decide)).trans (walks_skipGap rest)
                  refine EndsWell.behind next ((fields room _).bind fun others last later => ?_)
                  exact ⟨List.forall_mem_cons.mpr ⟨found.1, later.1⟩, later.2⟩
              · trivial
          · trivial
      · trivial

end Steps

/-- Values, items and fields end well, by induction on the steps that they are read in. -/
theorem endsWell_read (steps : Nat)
    : (∀ room cs, EndsWell IsTidy room cs (readValue room steps cs))
      ∧ (∀ room cs,
          EndsWell (fun items => ∀ item ∈ items, IsTidy item) room cs (readItems room steps cs))
      ∧ (∀ room cs,
          EndsWell (fun fields => ∀ field ∈ fields, IsTidy field.2) room cs
            (readFields room steps cs)) := by
  induction steps with
  | zero => exact ⟨fun _ _ => trivial, fun _ _ => trivial, fun _ _ => trivial⟩
  | succ steps ih =>
      obtain ⟨value, items, fields⟩ := ih
      exact ⟨endsWell_readValue items fields, endsWell_readItems value items,
        endsWell_readFields value fields⟩

-----------------------------------------------------------------------------------------
-- Texts
-----------------------------------------------------------------------------------------

/-- The value that a text holds is tidy, reading a text stops at a number only where a long one stands outside
of strings, and at a bracket only where more brackets open than there is room for.
-/
theorem parseWithin_cases (room : Room) (text : String)
    : (∃ value, parseWithin room text = .ok value ∧ value.IsTidy)
      ∨ (∃ problem place, parseWithin room text = .error (.malformed problem place))
      ∨ (∃ fault, parseWithin room text = .error (.number fault)) ∧ HasLongNumber text.toList
      ∨ (∃ bracket, parseWithin room text = .error (.tooDeep bracket)) ∧ Exceeds room text.toList := by
  have ends := (endsWell_read (2 * text.toList.length + 2)).1 room (skipGap text.toList)
  have ends := ends.behind (walks_skipGap text.toList)
  unfold parseWithin readText
  split
  · exact Or.inr (Or.inl ⟨_, _, rfl⟩)
  generalize readValue room (2 * text.toList.length + 2) (skipGap text.toList) = result at ends
  rcases result with (_ | fault | bracket) | ⟨value, after⟩
  · exact Or.inr (Or.inl ⟨_, _, rfl⟩)
  · exact Or.inr (Or.inr (Or.inl ⟨⟨fault, rfl⟩, ends⟩))
  · exact Or.inr (Or.inr (Or.inr ⟨⟨bracket, rfl⟩, ends⟩))
  · show (∃ value, _ = Except.ok value ∧ _) ∨ _
    simp only [bind, Except.bind]
    split
    · exact Or.inl ⟨value, rfl, ends.1⟩
    · exact Or.inr (Or.inl ⟨_, _, rfl⟩)

/-- Where there is room without end, reading stops at no bracket. -/
theorem parse_cases (text : String)
    : (∃ value, parse text = .ok value ∧ value.IsTidy)
      ∨ (∃ problem place, parse text = .error (.malformed problem place))
      ∨ (∃ fault, parse text = .error (.number fault)) ∧ HasLongNumber text.toList := by
  rcases parseWithin_cases none text with read | problem | long | ⟨-, exceeds⟩
  · exact Or.inl read
  · exact Or.inr (Or.inl problem)
  · exact Or.inr (Or.inr long)
  · exact absurd exceeds not_exceeds_none

theorem IsTidy.of_parse {text : String} {value : Json} (read : parse text = .ok value) : value.IsTidy := by
  rcases parse_cases text with ⟨other, same, tidy⟩ | ⟨_, _, failed⟩ | ⟨⟨_, failed⟩, -⟩
  · rw [read] at same
    exact Except.ok.inj same ▸ tidy
  · rw [read] at failed
    cases failed
  · rw [read] at failed
    cases failed

theorem HasLongNumber.of_parse {text : String} {fault : Integer.Fault}
    (stopped : parse text = .error (.number fault))
    : HasLongNumber text.toList := by
  rcases parse_cases text with ⟨_, same, -⟩ | ⟨_, _, failed⟩ | ⟨-, long⟩
  · rw [stopped] at same
    cases same
  · rw [stopped] at failed
    cases failed
  · exact long

theorem parse_ne_tooDeep (text : String) (bracket : Bracket) : parse text ≠ .error (.tooDeep bracket) := by
  rcases parse_cases text with ⟨_, read, -⟩ | ⟨_, _, failed⟩ | ⟨⟨_, failed⟩, -⟩
  · simp [read]
  · simp [failed]
  · simp [failed]

/-- A long number has digits. -/
theorem HasLongNumber.exists_digit (long : HasLongNumber cs) : ∃ c ∈ cs, isAsciiDigit c = true := by
  obtain ⟨sign, digits, after, ⟨passed, rfl, -⟩, -, each, length, -⟩ := long
  obtain ⟨c, rest, rfl⟩ := List.exists_cons_of_length_pos (Nat.zero_lt_of_lt length)
  exact ⟨c, by simp, each c List.mem_cons_self⟩

/-- A long number takes more characters than the limit has digits. -/
theorem HasLongNumber.lt_length (long : HasLongNumber cs) : Integer.maxDigits < cs.length := by
  obtain ⟨sign, digits, after, ⟨passed, rfl, -⟩, -, -, length, -⟩ := long
  simp only [List.length_append]
  omega

-----------------------------------------------------------------------------------------
-- Values that can be written
-----------------------------------------------------------------------------------------

theorem isTidy_obj_iff (fields : Fields)
    : (obj fields).IsTidy ↔ (Assoc.keys fields).Nodup ∧ ∀ field ∈ fields, field.2.IsTidy := by
  constructor
  · intro tidy
    cases tidy with
    | obj distinct each => exact ⟨distinct, each⟩
  · exact fun tidy => .obj tidy.1 tidy.2

theorem areWritable_iff {items : List Json}
    : areWritable items = true ↔ ∀ item ∈ items, item.isWritable = true := by
  induction items with
  | nil => simp [areWritable]
  | cons item rest ih => simp [areWritable, ih]

theorem areFieldsWritable_iff {fields : Fields}
    : areFieldsWritable fields = true ↔ ∀ field ∈ fields, field.2.isWritable = true := by
  induction fields with
  | nil => simp [areFieldsWritable]
  | cons field rest ih => simp [areFieldsWritable, ih]

/-- A tidy value can be written, by induction on the value. -/
theorem IsTidy.isWritable {value : Json} (tidy : value.IsTidy) : value.isWritable = true := by
  induction tidy with
  | null | bool | float | str => rfl
  | int short =>
      rw [Json.isWritable, decide_eq_true_eq]
      unfold Integer.IsShort at short
      -- the power is far too large to be worked out
      generalize Integer.maxDigits = limit at short ⊢
      exact short
  | arr _ ih => exact areWritable_iff.mpr ih
  | obj _ _ ih => exact areFieldsWritable_iff.mpr ih

-----------------------------------------------------------------------------------------
-- Values without doubles
-----------------------------------------------------------------------------------------

/-- A value is made without doubles. -/
inductive HasNoDouble : Json → Prop
  | null : HasNoDouble .null
  | bool (b : Bool) : HasNoDouble (.bool b)
  | int (n : Int) : HasNoDouble (.int n)
  | str (s : String) : HasNoDouble (.str s)
  | arr {items} (each : ∀ item ∈ items, HasNoDouble item) : HasNoDouble (.arr items)
  | obj {fields} (each : ∀ field ∈ fields, HasNoDouble field.2) : HasNoDouble (.obj fields)

theorem hasNoDouble_obj_iff {fields : List (String × Json)}
    : (Json.obj fields).HasNoDouble ↔ ∀ field ∈ fields, field.2.HasNoDouble := by
  constructor
  · intro plain
    cases plain with
    | obj each => exact each
  · exact .obj

/-- A tidy value without doubles is exact, by induction on the value. -/
theorem IsTidy.isExact {value : Json} (tidy : value.IsTidy) (plain : value.HasNoDouble)
    : value.IsExact := by
  induction tidy with
  | null => exact .null
  | bool b => exact .bool b
  | int short => exact .int short
  | float x => cases plain
  | str s => exact .str s
  | arr _ ih =>
      cases plain with
      | arr each => exact .arr fun item member => ih item member (each item member)
  | obj distinct _ ih =>
      cases plain with
      | obj each => exact .obj distinct fun field member => ih field member (each field member)

end PatchReview.Json
