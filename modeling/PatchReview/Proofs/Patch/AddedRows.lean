import PatchReview.Patch.Parser
import PatchReview.Proofs.Patch.HeaderSpelling

/-! Added rows of a patch, said of its lines alone, and where the sections of the patch have them.
The sections are read from the lines; the relation to the lines does not mention how.
-/

namespace PatchReview.Patch

open PatchReview.Text

-----------------------------------------------------------------------------------------
-- Added rows among the lines of a patch
-----------------------------------------------------------------------------------------

/-- A line is no chunk header. -/
def IsPlain (line : Line) : Prop := ∀ header, ¬ Header.Spelled line header

/-- Whether a row takes a number of the new file: it starts neither with a minus sign nor with a
backslash.
-/
def takesNumber (row : Line) : Bool := row.head? != some '-' && row.head? != some '\\'

/-- (AddedRow lines index number) says that the line at `index` is an added row whose number in the
new file is `number`: the last header above gives the number of its first row, and the rows in
between that take a number follow.
-/
def AddedRow (lines : List Line) (index : Nat) (number : Int) : Prop :=
  ∃ above headerLine header between text below,
    lines = above ++ headerLine :: (between ++ ('+' :: text) :: below)
    ∧ Header.Spelled headerLine header
    ∧ (∀ row ∈ between, IsPlain row)
    ∧ index = above.length + 1 + between.length
    ∧ number = (digitsValue header.newStart : Int) + between.countP takesNumber

/-- Of the added rows with a number, the one at `index` is the last. -/
def LastAddedRow (lines : List Line) (index : Nat) (number : Int) : Prop :=
  AddedRow lines index number ∧ ∀ other, AddedRow lines other number → other ≤ index

/-- The line at `index` is the first header. -/
def FirstHeader (lines : List Line) (index : Nat) : Prop :=
  ∃ above headerLine header below,
    lines = above ++ headerLine :: below
    ∧ Header.Spelled headerLine header
    ∧ (∀ row ∈ above, IsPlain row)
    ∧ index = above.length

/-- A row with a mark of its own is no header, by the first character of headers. -/
theorem isPlain_cons {c : Char} {text : Line} (differs : c ≠ '@') : IsPlain (c :: text) := by
  intro header spelled
  exact differs (by simpa using spelled.head?)

-----------------------------------------------------------------------------------------
-- Sections written out as lines
-----------------------------------------------------------------------------------------

/-- (Laid parts lines) writes sections out, each as its header and its rows. -/
inductive Laid : List Section → List Line → Prop
  | nil : Laid [] []
  | cons {part parts headerLine lines} (spelled : Header.Spelled headerLine part.header)
    (plain : ∀ row ∈ part.rows, IsPlain row) (later : Laid parts lines)
    : Laid (part :: parts) (headerLine :: (part.rows ++ lines))

/-- Sections read from lines are laid there below a lead without headers, by induction on the lines.
-/
theorem laid_sections (lines : List Line)
    : ∃ below,
        lines = (sections lines).1 ++ below
        ∧ (∀ row ∈ (sections lines).1, IsPlain row)
        ∧ Laid (sections lines).2 below := by
  induction lines with
  | nil => exact ⟨[], rfl, by simp [sections], .nil⟩
  | cons line rest ih =>
      obtain ⟨below, rest_eq, plain, laid⟩ := ih
      cases read : Header.ofLine? line with
      | none =>
          refine ⟨below, by simpa [sections, read] using rest_eq, ?_, by simpa [sections, read] using laid⟩
          intro row member
          simp only [sections, read, List.mem_cons] at member
          rcases member with rfl | later
          · exact Header.ofLine?_eq_none_iff.mp read
          · exact plain row later
      | some header =>
          refine ⟨line :: ((sections rest).1 ++ below), ?_, by simp [sections, read], ?_⟩
          · simpa [sections, read] using rest_eq
          · simp only [sections, read]
            exact .cons (Header.spelled_of_ofLine? read) plain laid

/-- Laid sections are read back, by induction on how they are laid and on the rows of each. -/
theorem sections_laid {parts : List Section} {lines : List Line} (laid : Laid parts lines)
    : sections lines = ([], parts) := by
  have lead {rows lines : List Line} (plain : ∀ row ∈ rows, IsPlain row)
      : sections (rows ++ lines) = (rows ++ (sections lines).1, (sections lines).2) := by
    induction rows with
    | nil => rfl
    | cons row rest ih =>
        have first := Header.ofLine?_eq_none_iff.mpr (plain row (by simp))
        have later := ih (fun other member => plain other (List.mem_cons_of_mem row member))
        simp [sections, first, later]
  induction laid with
  | nil => rfl
  | cons spelled plain _ ih =>
      simp [sections, Header.ofLine?_spelled spelled, lead plain, ih]

/-- Laid sections start with a header, if there are any. -/
theorem Laid.head {parts : List Section} {line : Line} {lines : List Line}
    (laid : Laid parts (line :: lines))
    : ∃ header, Header.Spelled line header := by
  cases laid with
  | cons spelled _ _ => exact ⟨_, spelled⟩

-----------------------------------------------------------------------------------------
-- Added rows among sections
-----------------------------------------------------------------------------------------

/-- (AddedAmong rows before start number) says that among the rows of a section, which starts at the
line `start` of the new file, an added one stands behind `before` others and has that number.
-/
def AddedAmong (rows : List Line) (start : Int) (before : Nat) (number : Int) : Prop :=
  ∃ between text below,
    rows = between ++ ('+' :: text) :: below
    ∧ before = between.length
    ∧ number = start + between.countP takesNumber

/-- An added row of sections, counted from the first header. -/
def SectionRow : List Section → Nat → Int → Prop
  | [], _, _ => False
  | part :: rest, index, number =>
      (∃ before,
        AddedAmong part.rows (digitsValue part.header.newStart) before number ∧ index = before + 1)
      ∨ ∃ later, SectionRow rest later number ∧ index = part.rows.length + 1 + later

/-- The rows of a header reach to the next header: what goes on behind them with an added row in it
has that row among them, or else passes a header. Witness: cases on where the two ways to cut the
lines meet.
-/
private theorem added_within {parts : List Section} {rows lines between below : List Line} {text : Line}
    (laid : Laid parts lines) (plain : ∀ row ∈ between, IsPlain row)
    (cut : rows ++ lines = between ++ ('+' :: text) :: below)
    : ∃ rest, rows = between ++ ('+' :: text) :: rest := by
  have plainRow : IsPlain ('+' :: text) := isPlain_cons (by decide)
  have noHeader {line : Line} {more : List Line} (isPlain : IsPlain line) : lines ≠ line :: more := by
    rintro rfl
    obtain ⟨header, spelled⟩ := laid.head
    exact isPlain header spelled
  rcases List.append_eq_append_iff.mp cut with ⟨rest, between_eq, lines_eq⟩ | ⟨rest, rows_eq, cut'⟩
  · cases rest with
    | nil => exact absurd lines_eq (noHeader plainRow)
    | cons line more => exact absurd lines_eq (noHeader (plain line (by simp [between_eq])))
  · cases rest with
    | nil => exact absurd cut'.symm (noHeader plainRow)
    | cons line more =>
        obtain ⟨rfl, -⟩ := List.cons.inj cut'
        exact ⟨more, rows_eq⟩

/-- A header behind rows that are none stands among the lines after them. -/
private theorem header_beyond {rows lines above more : List Line} {headerLine : Line}
    {header : Header} (plain : ∀ row ∈ rows, IsPlain row)
    (spelled : Header.Spelled headerLine header)
    (cut : rows ++ lines = above ++ headerLine :: more)
    : ∃ later, above = rows ++ later ∧ lines = later ++ headerLine :: more := by
  rcases List.append_eq_append_iff.mp cut with ⟨later, above_eq, lines_eq⟩ | ⟨later, rows_eq, cut'⟩
  · exact ⟨later, above_eq, lines_eq⟩
  · cases later with
    | nil => exact ⟨[], by simpa using rows_eq.symm, by simpa using cut'.symm⟩
    | cons line rest =>
        obtain ⟨rfl, -⟩ := List.cons.inj cut'
        exact absurd spelled (plain headerLine (by simp [rows_eq]) header)

/-- The added rows of laid sections are those of their lines, by induction on how they are laid. -/
theorem addedRow_laid {parts : List Section} {lines : List Line} (laid : Laid parts lines)
    {index : Nat} {number : Int}
    : AddedRow lines index number ↔ SectionRow parts index number := by
  induction laid generalizing index with
  | nil =>
      refine ⟨?_, False.elim⟩
      rintro ⟨above, _, _, _, _, _, cut, _⟩
      simp at cut
  | @cons part parts headerLine lines spelled plain laid ih =>
      constructor
      · rintro ⟨above, headerLine', header, between, text, below, cut, spelled', plain', rfl, rfl⟩
        cases above with
        | nil =>
            obtain ⟨rfl, tail_eq⟩ := List.cons.inj cut
            have same : header = part.header := Option.some.inj
              ((Header.ofLine?_spelled spelled').symm.trans (Header.ofLine?_spelled spelled))
            obtain ⟨rest, rows_eq⟩ := added_within laid plain' tail_eq
            refine Or.inl ⟨between.length, ⟨between, text, rest, rows_eq, rfl, by rw [same]⟩, ?_⟩
            simp only [List.length_nil]
            omega
        | cons line above =>
            obtain ⟨rfl, tail_eq⟩ := List.cons.inj cut
            obtain ⟨later, rfl, lines_eq⟩ := header_beyond plain spelled' tail_eq
            refine Or.inr ⟨later.length + 1 + between.length, ih.mp ?_, ?_⟩
            · exact ⟨later, headerLine', header, between, text, below, lines_eq, spelled', plain', rfl, rfl⟩
            · simp only [List.length_cons, List.length_append]
              omega
      · rintro (⟨_, ⟨between, text, below, rows_eq, rfl, rfl⟩, rfl⟩ | ⟨later, row, rfl⟩)
        · refine ⟨[], headerLine, part.header, between, text, below ++ lines, ?_, spelled, ?_, ?_, rfl⟩
          · simp [rows_eq]
          · intro row member
            exact plain row (by simp [rows_eq, member])
          · simp only [List.length_nil]
            omega
        · obtain ⟨above, headerLine', header, between, text, below, lines_eq, spelled', plain',
            rfl, rfl⟩ := ih.mpr row
          refine ⟨headerLine :: (part.rows ++ above), headerLine', header, between, text, below, ?_,
            spelled', plain', ?_, rfl⟩
          · simp [lines_eq]
          · simp only [List.length_cons, List.length_append]
            omega

/-- A lead without headers only moves the added rows down. -/
theorem addedRow_lead {lead lines : List Line} (plain : ∀ row ∈ lead, IsPlain row) {index : Nat}
    {number : Int}
    : AddedRow (lead ++ lines) index number
      ↔ ∃ later, AddedRow lines later number ∧ index = lead.length + later := by
  constructor
  · rintro ⟨above, headerLine, header, between, text, below, cut, spelled, plain', rfl, rfl⟩
    obtain ⟨later, rfl, lines_eq⟩ := header_beyond plain spelled cut
    refine ⟨later.length + 1 + between.length, ?_, ?_⟩
    · exact ⟨later, headerLine, header, between, text, below, lines_eq, spelled, plain', rfl, rfl⟩
    · simp only [List.length_append]
      omega
  · rintro ⟨_, ⟨above, headerLine, header, between, text, below, rfl, spelled, plain', rfl, rfl⟩, rfl⟩
    refine ⟨lead ++ above, headerLine, header, between, text, below, by simp, spelled, plain', ?_, rfl⟩
    simp only [List.length_append]
    omega

/-- The first header of a lead and laid sections stands behind the lead. -/
theorem firstHeader_lead {lead lines : List Line} {part : Section} {parts : List Section}
    (plain : ∀ row ∈ lead, IsPlain row) (laid : Laid (part :: parts) lines)
    : FirstHeader (lead ++ lines) lead.length := by
  cases laid with
  | cons spelled _ _ => exact ⟨lead, _, _, _, rfl, spelled, plain, rfl⟩

/-- There is one first header: of two, neither stands above the other. -/
theorem FirstHeader.unique {lines : List Line} {first second : Nat} (one : FirstHeader lines first)
    (two : FirstHeader lines second)
    : first = second := by
  obtain ⟨above, headerLine, header, below, rfl, spelled, plain, rfl⟩ := one
  obtain ⟨above', headerLine', header', below', cut, spelled', plain', rfl⟩ := two
  obtain ⟨later, rfl, -⟩ := header_beyond plain spelled' cut
  cases later with
  | nil => simp
  | cons line rest =>
      rw [List.append_assoc] at cut
      have same := (List.cons.inj (List.append_cancel_left cut)).1
      exact absurd spelled (plain' headerLine (by simp [same]) header)

/-- Where lines have sections, the first header stands behind the lead that is read off them. -/
theorem firstHeader_sections {lines : List Line} {part : Section} {parts : List Section}
    (found : (sections lines).2 = part :: parts)
    : FirstHeader lines (sections lines).1.length := by
  obtain ⟨below, lines_eq, plain, laid⟩ := laid_sections lines
  have header := firstHeader_lead plain (found ▸ laid)
  rwa [← lines_eq] at header

/-- Sections read from lines have the added rows of the lines, behind the lead. -/
theorem addedRow_sections {lines : List Line} {index : Nat} {number : Int}
    : AddedRow lines index number
      ↔ ∃ distance,
          SectionRow (sections lines).2 distance number
          ∧ index = (sections lines).1.length + distance := by
  obtain ⟨below, lines_eq, plain, laid⟩ := laid_sections lines
  rw [lines_eq, addedRow_lead plain, ← lines_eq]
  simp only [addedRow_laid laid]

/-- Where there is an added row, the first header stands behind the lead. -/
theorem AddedRow.firstHeader {lines : List Line} {index : Nat} {number : Int}
    (row : AddedRow lines index number)
    : FirstHeader lines (sections lines).1.length := by
  obtain ⟨distance, found, -⟩ := addedRow_sections.mp row
  cases parts_eq : (sections lines).2 with
  | nil => simp [parts_eq, SectionRow] at found
  | cons part parts => exact firstHeader_sections parts_eq

end PatchReview.Patch
