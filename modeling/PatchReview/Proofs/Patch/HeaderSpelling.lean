import PatchReview.Patch.Header

/-! Chunk headers as a grammar: two at signs, the places in the old and the new file, two at signs,
and any text. The reader of headers accepts exactly the lines that the grammar has.
-/

namespace PatchReview.Patch.Header

open PatchReview.Text

-----------------------------------------------------------------------------------------
-- The parts of a header
-----------------------------------------------------------------------------------------

/-- (NumberSpelled text digits) says that a text is a run of digits of any scripts, and not empty.
-/
def NumberSpelled (text : List Char) (digits : List Nat) : Prop :=
  text ≠ [] ∧ (∀ c ∈ text, isDigit c) ∧ text.filterMap digitValue? = digits

/-- A count is a number after a comma, or it is left out. -/
inductive CountSpelled : List Char → Option (List Nat) → Prop
  | absent : CountSpelled [] none
  | given {text digits} (number : NumberSpelled text digits)
    : CountSpelled (',' :: text) (some digits)

/-- A gap between the parts of a header has blanks only, or nothing. -/
def IsGap (text : List Char) : Prop := ∀ c ∈ text, isBlank c

/-- A header spells the places of a chunk in the old and the new file. What follows its second mark
is free.
-/
inductive Spelled : List Char → Header → Prop
  | line {gap₁ gap₂ gap₃ oldStart oldLines newStart newLines heading : List Char}
    {header : Header} (before : IsGap gap₁) (between : IsGap gap₂) (after : IsGap gap₃)
    (oldAt : NumberSpelled oldStart header.oldStart)
    (oldCount : CountSpelled oldLines header.oldLines)
    (newAt : NumberSpelled newStart header.newStart)
    (newCount : CountSpelled newLines header.newLines)
    : Spelled
        ('@' :: '@'
          :: (gap₁ ++ '-' :: (oldStart ++ (oldLines
              ++ (gap₂ ++ '+' :: (newStart ++ (newLines
                ++ (gap₃ ++ '@' :: '@' :: heading)))))))) header

/-- A text does not start with a digit. -/
def EndsDigits (rest : List Char) : Prop := ∀ c, rest.head? = some c → isDigit c = false

/-- A text starts neither with a digit nor with the comma of a count. -/
def EndsNumber (rest : List Char) : Prop := EndsDigits rest ∧ rest.head? ≠ some ','

/-- The codes of the blanks. -/
private def blankCodes : List Nat :=
  [9, 10, 11, 12, 13, 0x1C, 0x1D, 0x1E, 0x1F, 0x20, 0x85, 0xA0, 0x1680, 0x2000, 0x2001, 0x2002,
    0x2003, 0x2004, 0x2005, 0x2006, 0x2007, 0x2008, 0x2009, 0x200A, 0x2028, 0x2029, 0x202F,
    0x205F, 0x3000]

/-- The code of a blank is one of the list, by the ranges of the blanks. -/
private theorem isBlank_mem {c : Char} (blank : isBlank c) : c.toNat ∈ blankCodes := by
  simp only [isBlank, Bool.or_eq_true, Bool.and_eq_true, decide_eq_true_eq, beq_iff_eq] at blank
  simp only [blankCodes, List.mem_cons, List.not_mem_nil, or_false]
  omega

/-- No blank is a digit, by the table of digits. -/
theorem not_isDigit_of_isBlank {c : Char} (blank : isBlank c) : isDigit c = false := by
  have free : ∀ n ∈ blankCodes,
      (digitZeros.find? fun base => base ≤ n && n < base + 10) = none
      ∧ ¬ (0x30 ≤ n ∧ n ≤ 0x39) := by decide
  obtain ⟨outside, notAscii⟩ := free c.toNat (isBlank_mem blank)
  have notDigit : ¬ ('0' ≤ c ∧ c ≤ '9') := notAscii
  by_cases ascii : c.toNat < 0x80
  · simp only [isDigit, digitValue?, ascii, notDigit, if_true, if_false, Option.isSome_none]
  · simp only [isDigit, digitValue?, ascii, if_false, outside, Option.map_none, Option.isSome_none]

/-- A gap and a mark behind it end a number, if the mark does. -/
theorem endsNumber_gap {gap rest : List Char} (isGap : IsGap gap) (ends : EndsNumber rest)
    : EndsNumber (gap ++ rest) := by
  cases gap with
  | nil => exact ends
  | cons c tail =>
      have blank : isBlank c := isGap c (by simp)
      refine ⟨?_, ?_⟩
      · intro d head
        have same : c = d := by simpa using head
        exact same ▸ not_isDigit_of_isBlank blank
      · intro head
        have same : c = ',' := by simpa using head
        exact absurd (same ▸ blank) (by decide)

/-- A mark that is no digit and no comma ends a number. -/
theorem endsNumber_cons {c : Char} {rest : List Char} (digit : isDigit c = false)
    (comma : c ≠ ',')
    : EndsNumber (c :: rest) := by
  refine ⟨?_, by simpa using comma⟩
  intro d head
  have same : c = d := by simpa using head
  exact same ▸ digit

/-- A count, also one that is left out, ends the digits before it. -/
theorem endsDigits_count {text rest : List Char} {count : Option (List Nat)}
    (spelled : CountSpelled text count) (ends : EndsNumber rest)
    : EndsDigits (text ++ rest) := by
  cases spelled with
  | absent => exact ends.1
  | given number =>
      intro c head
      have same : ',' = c := by simpa using head
      exact same ▸ (by decide)

-----------------------------------------------------------------------------------------
-- Each reader takes one part
-----------------------------------------------------------------------------------------

/-- A mark is taken when it comes next, by cases on the text. -/
theorem expect?_eq_some_iff {c : Char} {cs rest : List Char}
    : expect? c cs = some rest ↔ cs = c :: rest := by
  cases cs with
  | nil => simp [expect?]
  | cons d tail =>
      simp only [expect?]
      split
      · subst c; simp
      · simp_all

/-- Trimming takes a gap off and stops at what is no blank. -/
theorem trimLeft_gap {gap rest : List Char} {c : Char} (isGap : IsGap gap)
    (visible : isBlank c = false)
    : trimLeft (gap ++ c :: rest) = c :: rest := by
  rw [trimLeft, List.dropWhile_append_of_pos isGap, List.dropWhile_cons_of_neg (by simp [visible])]

/-- What trimming takes off is a gap. -/
theorem exists_gap (cs : List Char) : ∃ gap, IsGap gap ∧ cs = gap ++ trimLeft cs := by
  refine ⟨cs.takeWhile isBlank, ?_, List.takeWhile_append_dropWhile.symm⟩
  intro c member
  exact List.all_eq_true.mp List.all_takeWhile c member

/-- A number is read to its last digit. -/
theorem takeNumber?_spelled {text rest : List Char} {digits : List Nat}
    (number : NumberSpelled text digits) (ends : EndsDigits rest)
    : takeNumber? (text ++ rest) = some (digits, rest) := by
  obtain ⟨nonempty, areDigits, values⟩ := number
  have stop : rest.takeWhile isDigit = [] ∧ rest.dropWhile isDigit = rest := by
    cases rest with
    | nil => simp
    | cons c tail => simp [ends c rfl]
  have taken : (text ++ rest).takeWhile isDigit = text := by
    rw [List.takeWhile_append_of_pos areDigits, stop.1, List.append_nil]
  have left : (text ++ rest).dropWhile isDigit = rest := by
    rw [List.dropWhile_append_of_pos areDigits, stop.2]
  unfold takeNumber?
  rw [taken, left]
  split
  · contradiction
  · rw [values]

/-- What is read as a number is spelled, by the digits that are taken. -/
theorem spelled_of_takeNumber? {cs rest : List Char} {digits : List Nat}
    (read : takeNumber? cs = some (digits, rest))
    : ∃ text, NumberSpelled text digits ∧ cs = text ++ rest := by
  unfold takeNumber? at read
  split at read
  · contradiction
  · next taken nonempty =>
      obtain ⟨rfl, rfl⟩ := Prod.mk.inj (Option.some.inj read)
      refine ⟨cs.takeWhile isDigit, ⟨nonempty, ?_, rfl⟩,
        List.takeWhile_append_dropWhile.symm⟩
      intro c member
      exact List.all_eq_true.mp List.all_takeWhile c member

/-- A count is read as it is spelled. -/
theorem takeCount_spelled {text rest : List Char} {count : Option (List Nat)}
    (spelled : CountSpelled text count) (ends : EndsNumber rest)
    : takeCount (text ++ rest) = (count, rest) := by
  cases spelled with
  | absent =>
      unfold takeCount
      split
      · next head => exact absurd (by simpa using congrArg List.head? head) ends.2
      · simp
  | given number => simp [takeCount, takeNumber?_spelled number ends.1]

/-- What is read as a count is spelled, by cases on what the text starts with. -/
theorem spelled_takeCount (cs : List Char)
    : ∃ text, CountSpelled text (takeCount cs).1 ∧ cs = text ++ (takeCount cs).2 := by
  unfold takeCount
  split
  · split
    · next taken =>
        obtain ⟨text, number, rfl⟩ := spelled_of_takeNumber? taken
        exact ⟨',' :: text, .given number, rfl⟩
    · exact ⟨[], .absent, rfl⟩
  · exact ⟨[], .absent, rfl⟩

-----------------------------------------------------------------------------------------
-- The reader accepts the grammar and nothing else
-----------------------------------------------------------------------------------------

/-- A line that spells a header is read as that header, part by part. -/
theorem ofLine?_spelled {line : List Char} {header : Header} (spelled : Spelled line header)
    : ofLine? line = some header := by
  cases spelled with
  | @line gap₁ gap₂ gap₃ _ _ _ _ heading _ before between after oldAt oldCount newAt newCount =>
      have endsNew : EndsNumber (gap₃ ++ '@' :: '@' :: heading) :=
        endsNumber_gap after (endsNumber_cons (by decide) (by decide))
      have endsOld {rest} : EndsNumber (gap₂ ++ '+' :: rest) :=
        endsNumber_gap between (endsNumber_cons (by decide) (by decide))
      simp only [ofLine?, expect?, trimLeft_gap before (by decide : isBlank '-' = false),
        takeNumber?_spelled oldAt (endsDigits_count oldCount endsOld),
        takeCount_spelled oldCount endsOld,
        trimLeft_gap between (by decide : isBlank '+' = false),
        takeNumber?_spelled newAt (endsDigits_count newCount endsNew),
        takeCount_spelled newCount endsNew,
        trimLeft_gap after (by decide : isBlank '@' = false),
        if_true, Option.bind_eq_bind, Option.bind_some, Option.pure_def]

/-- A line that is read as a header spells it, by what each reader takes off. -/
theorem spelled_of_ofLine? {line : List Char} {header : Header} (read : ofLine? line = some header)
    : Spelled line header := by
  simp only [ofLine?, Option.bind_eq_bind, Option.bind_eq_some_iff, expect?_eq_some_iff,
    Option.pure_def, Option.some.injEq] at read
  obtain ⟨_, rfl, cs, rfl, tail, toOld, ⟨oldDigits, left⟩, oldRead, tail', toNew,
    ⟨newDigits, left'⟩, newRead, _, toEnd, heading, rfl, rfl⟩ := read
  obtain ⟨gap₁, before, cs_eq⟩ := exists_gap cs
  obtain ⟨oldStart, oldAt, rfl⟩ := spelled_of_takeNumber? oldRead
  obtain ⟨oldLines, oldCount, left_eq⟩ := spelled_takeCount left
  obtain ⟨gap₂, between, between_eq⟩ := exists_gap (takeCount left).2
  obtain ⟨newStart, newAt, rfl⟩ := spelled_of_takeNumber? newRead
  obtain ⟨newLines, newCount, left_eq'⟩ := spelled_takeCount left'
  obtain ⟨gap₃, after, after_eq⟩ := exists_gap (takeCount left').2
  rw [toOld, left_eq, between_eq, toNew, left_eq', after_eq, toEnd] at cs_eq
  rw [cs_eq]
  exact .line before between after oldAt oldCount newAt newCount

/-- A line is read as a header if and only if it spells it. -/
theorem ofLine?_eq_some_iff {line : List Char} {header : Header}
    : ofLine? line = some header ↔ Spelled line header :=
  ⟨spelled_of_ofLine?, ofLine?_spelled⟩

/-- A line is no header if and only if it spells none. -/
theorem ofLine?_eq_none_iff {line : List Char}
    : ofLine? line = none ↔ ∀ header, ¬ Spelled line header := by
  simp only [← ofLine?_eq_some_iff, Option.eq_none_iff_forall_ne_some, ne_eq]

/-- A header starts with an at sign, as each line of the grammar does. -/
theorem Spelled.head? {line : List Char} {header : Header} (spelled : Spelled line header)
    : line.head? = some '@' := by
  cases spelled
  rfl

end PatchReview.Patch.Header
