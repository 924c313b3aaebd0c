import Mathlib.Data.List.Forall2
import PatchReview.Proofs.Patch.PositionLookup
import PatchReview.Proofs.Text.Lines

/-! Patches written out from hunks that fit a file. Every position that is read back from such a patch
points at an added row with the very text that the line has in the file.
-/

namespace PatchReview.Patch

open PatchReview.Text

-----------------------------------------------------------------------------------------
-- Hunks and how they are written
-----------------------------------------------------------------------------------------

/-- A text without a line feed. -/
abbrev LineText := { text : Line // '\n' ∉ text }

/-- A number written in decimal, within the digit limit. It may start with zeros. -/
structure Numeral where
  digits : List (Fin 10)
  nonempty : digits ≠ []
  within : digits.length ≤ Integer.maxDigits

namespace Numeral

/-- The digits as characters. -/
def text (numeral : Numeral) : Line := numeral.digits.map fun digit => Nat.digitChar digit.val

/-- The number that is written. -/
def value (numeral : Numeral) : Nat := digitsValue (numeral.digits.map Fin.val)

end Numeral

/-- A row of a hunk. -/
inductive HunkRow where
  | added (text : LineText)
  | removed (text : LineText)
  | context (text : LineText)
  | note (text : LineText)

namespace HunkRow

/-- A row as it is written. -/
def line : HunkRow → Line
  | added text => '+' :: text
  | removed text => '-' :: text
  | context text => ' ' :: text
  | note text => '\\' :: text

/-- The line of the new file that a row has, if any. -/
def newText? : HunkRow → Option Line
  | added text | context text => some text
  | removed _ | note _ => none

/-- Whether a row is an added one. -/
def isAdded : HunkRow → Bool
  | added _ => true
  | removed _ | context _ | note _ => false

end HunkRow

/-- A hunk: what its header says, and its rows. Counts may be left out. -/
structure Hunk where
  oldStart : Numeral
  oldLines : Option Numeral
  newStart : Numeral
  newLines : Option Numeral
  heading : LineText
  rows : List HunkRow

namespace Hunk

/-- A count after its comma, or nothing. -/
def countText : Option Numeral → Line
  | none => []
  | some numeral => ',' :: numeral.text

/-- The header of a hunk. -/
def headerLine (hunk : Hunk) : Line :=
  '@' :: '@' :: ' ' :: '-' :: (hunk.oldStart.text ++ (countText hunk.oldLines
    ++ ' ' :: '+' :: (hunk.newStart.text ++ (countText hunk.newLines
      ++ ' ' :: '@' :: '@' :: hunk.heading.val))))

/-- A hunk as it is written. -/
def lines (hunk : Hunk) : List Line := hunk.headerLine :: hunk.rows.map HunkRow.line

/-- The lines of the new file that a hunk covers. -/
def newTexts (hunk : Hunk) : List Line := hunk.rows.filterMap HunkRow.newText?

/-- The first line that a hunk covers. -/
def start (hunk : Hunk) : Nat := hunk.newStart.value

/-- The line behind those that a hunk covers. -/
def stop (hunk : Hunk) : Nat := hunk.start + hunk.newTexts.length

/-- (hunk.Adds number text) says that a hunk adds the line of this number with this text. -/
def Adds (hunk : Hunk) (number : Int) (text : Line) : Prop :=
  ∃ (above below : List HunkRow) (row : LineText),
    hunk.rows = above ++ .added row :: below
    ∧ row.val = text
    ∧ number = hunk.start + (above.filterMap HunkRow.newText?).length

end Hunk

/-- The patch that hunks make. -/
def render (hunks : List Hunk) : String := String.ofList (joinLines (hunks.flatMap Hunk.lines))

/-- (Fits file hunks) says that hunks cover lines of a file, one behind the other. -/
structure Fits (file : List Line) (hunks : List Hunk) : Prop where
  covers : ∀ hunk ∈ hunks, hunk.newTexts ≠ [] →
    1 ≤ hunk.start ∧ hunk.newTexts <+: file.drop (hunk.start - 1)
  ascending : hunks.Pairwise fun earlier later =>
    earlier.newTexts ≠ [] → later.newTexts ≠ [] → earlier.stop ≤ later.start

/-- (Points file hunks lines changed) says that the positions of a changed file point into the lines of
its patch as the hunks add lines to the file.
-/
structure Points (file : List Line) (hunks : List Hunk) (lines : List Line) (changed : ChangedFile)
    : Prop where
  /-- The lines with a position are those that some hunk adds. -/
  mapped : ∀ number,
    (changed.positionFor number).isSome ↔ ∃ hunk ∈ hunks, ∃ text, hunk.Adds number text
  /-- That far below the first header stands a plus sign with the line of the file. -/
  sameText : ∀ number found, changed.positionFor number = some found →
    ∃ (place first : Nat) (text : Line),
      found = .number place
      ∧ 1 ≤ number
      ∧ file[number.toNat - 1]? = some text
      ∧ FirstHeader lines first
      ∧ lines[first + place]? = some ('+' :: text)
  /-- Positions grow with the lines. -/
  rising : ∀ number later found foundLater,
    changed.positionFor number = some found → changed.positionFor later = some foundLater →
    number < later → found.value < foundLater.value
  /-- There are as many lines with a position as added rows. -/
  count : ∃ numbers : List Int,
    numbers.Nodup
    ∧ (∀ number, number ∈ numbers ↔ (changed.positionFor number).isSome)
    ∧ numbers.length = (hunks.flatMap Hunk.rows).countP HunkRow.isAdded
  /-- Every chunk has positions only for lines that its hunk covers. -/
  within : List.Forall₂
    (fun hunk (chunk : Chunk) => ∀ entry ∈ chunk.positions,
      (hunk.start : Int) ≤ entry.1 ∧ entry.1 < (hunk.stop : Int))
    hunks changed.chunks

-----------------------------------------------------------------------------------------
-- What is written is read back
-----------------------------------------------------------------------------------------

/-- A numeral is spelled with its digits. -/
theorem Numeral.spelled (numeral : Numeral)
    : Header.NumberSpelled numeral.text (numeral.digits.map Fin.val) := by
  have digit : ∀ digit : Fin 10, digitValue? (Nat.digitChar digit.val) = some digit.val := by decide
  refine ⟨by simp [text, numeral.nonempty], ?_, ?_⟩
  · intro c member
    obtain ⟨value, -, rfl⟩ := List.mem_map.mp member
    simp [isDigit, digit value]
  · simp [text, List.filterMap_map, digit]

/-- A count is spelled with its digits, or left out. -/
theorem Hunk.countText_spelled (count : Option Numeral)
    : Header.CountSpelled (countText count) (count.map fun numeral => numeral.digits.map Fin.val) := by
  cases count with
  | none => exact .absent
  | some numeral => exact .given numeral.spelled

/-- What the header of a hunk spells. -/
def Hunk.header (hunk : Hunk) : Header where
  oldStart := hunk.oldStart.digits.map Fin.val
  oldLines := hunk.oldLines.map fun numeral => numeral.digits.map Fin.val
  newStart := hunk.newStart.digits.map Fin.val
  newLines := hunk.newLines.map fun numeral => numeral.digits.map Fin.val

/-- The header of a hunk is spelled as the grammar has it. -/
theorem Hunk.headerLine_spelled (hunk : Hunk) : Header.Spelled hunk.headerLine hunk.header := by
  have blank : Header.IsGap [' '] := by
    intro c member
    obtain rfl := List.mem_singleton.mp member
    decide
  exact .line blank blank blank hunk.oldStart.spelled (countText_spelled hunk.oldLines)
    hunk.newStart.spelled (countText_spelled hunk.newLines)

/-- A row is no header, by its mark. -/
theorem HunkRow.isPlain_line (row : HunkRow) : IsPlain row.line := by
  cases row <;> exact isPlain_cons (by decide)

/-- A hunk as a section. -/
def Hunk.part (hunk : Hunk) : Section := ⟨hunk.header, hunk.rows.map HunkRow.line⟩

/-- Hunks written out are laid as sections, by induction on the hunks. -/
theorem laid_hunks (hunks : List Hunk) : Laid (hunks.map Hunk.part) (hunks.flatMap Hunk.lines) := by
  induction hunks with
  | nil => exact .nil
  | cons hunk rest ih =>
      refine .cons hunk.headerLine_spelled ?_ ih
      intro row member
      obtain ⟨source, -, rfl⟩ := List.mem_map.mp member
      exact source.isPlain_line

/-- No line of a hunk has a line feed. -/
theorem Hunk.not_mem_lines (hunk : Hunk) : ∀ line ∈ hunk.lines, '\n' ∉ line := by
  have digit : ∀ digit : Fin 10, Nat.digitChar digit.val ≠ '\n' := by decide
  have numeral (numeral : Numeral) : '\n' ∉ numeral.text := by
    simp [Numeral.text, digit]
  have count (numerals : Option Numeral) : '\n' ∉ countText numerals := by
    cases numerals <;> simp [countText, numeral]
  intro line member
  rcases List.mem_cons.mp member with rfl | below
  · simp [headerLine, numeral, count, hunk.heading.property]
  · obtain ⟨row, -, rfl⟩ := List.mem_map.mp below
    cases row with
    | added text | removed text | context text | note text =>
        simp [HunkRow.line, text.property]

/-- The lines of a patch are those of the hunks that it is written from, if there are any. -/
theorem splitLines_render {hunks : List Hunk} (nonempty : hunks ≠ [])
    : splitLines (render hunks).toList = hunks.flatMap Hunk.lines := by
  rw [render, String.toList_ofList, splitLines_joinLines]
  · cases hunks with
    | nil => contradiction
    | cons hunk rest => simp [Hunk.lines]
  · intro line member
    obtain ⟨source, -, among⟩ := List.mem_flatMap.mp member
    exact source.not_mem_lines line among

/-- Where no line of a hunk says that binary files differ, no line of the patch does. -/
theorem not_saysBinary_render {hunks : List Hunk}
    (plain : ∀ line ∈ hunks.flatMap Hunk.lines, ¬ SaysBinary line)
    : ∀ line ∈ splitLines (render hunks).toList, ¬ SaysBinary line := by
  cases hunks with
  | nil =>
      intro line member
      obtain rfl := List.mem_singleton.mp member
      rw [← isBinaryNotice_iff]
      simp [isBinaryNotice]
  | cons hunk rest =>
      rw [splitLines_render (by simp)]
      exact plain

/-- The first line of a patch is the header of its first hunk. -/
theorem firstHeader_render {hunks : List Hunk} {hunk : Hunk} (member : hunk ∈ hunks)
    : FirstHeader (splitLines (render hunks).toList) 0 := by
  rw [splitLines_render (List.ne_nil_of_mem member)]
  cases hunks with
  | nil => cases member
  | cons first rest =>
      exact ⟨[], first.headerLine, first.header, _, rfl, first.headerLine_spelled, by simp, rfl⟩

/-- The sections of a patch are the hunks that it is written from. -/
theorem sections_render (hunks : List Hunk)
    : (sections (splitLines (render hunks).toList)).2 = hunks.map Hunk.part := by
  cases hunks with
  | nil => rfl
  | cons hunk rest => rw [splitLines_render (by simp), sections_laid (laid_hunks _)]

/-- The numbers of a hunk's header are within the limit. -/
theorem Hunk.isWithin_header (hunk : Hunk) : hunk.header.IsWithin := by
  have number (numeral : Numeral) : (numeral.digits.map Fin.val).length ≤ Integer.maxDigits := by
    simpa using numeral.within
  have count (numerals : Option Numeral)
      : Header.CountWithin (numerals.map fun numeral => numeral.digits.map Fin.val) := by
    intro digits given
    obtain ⟨numeral, -, rfl⟩ := Option.map_eq_some_iff.mp given
    exact number numeral
  exact ⟨number hunk.oldStart, count hunk.oldLines, number hunk.newStart, count hunk.newLines⟩

/-- The chunks of hunks are read. -/
theorem exists_chunksFrom (hunks : List Hunk) (position : Int)
    : ∃ chunks, chunksFrom position (hunks.map Hunk.part) = .ok chunks := by
  refine exists_chunksFrom_of_within (fun part member => ?_) position
  obtain ⟨hunk, -, rfl⟩ := List.mem_map.mp member
  exact hunk.isWithin_header

-----------------------------------------------------------------------------------------
-- The rows of a hunk
-----------------------------------------------------------------------------------------

/-- The rows that take a number are those with a line of the new file. -/
theorem countP_takesNumber (rows : List HunkRow)
    : (rows.map HunkRow.line).countP takesNumber = (rows.filterMap HunkRow.newText?).length := by
  induction rows with
  | nil => rfl
  | cons row rest ih =>
      cases row <;>
        simp [HunkRow.line, HunkRow.newText?, takesNumber, List.countP_cons, List.filterMap_cons, ih]

/-- The added rows of a section are the lines that its hunk adds. -/
theorem Hunk.addedAmong_iff {hunk : Hunk} {before : Nat} {number : Int}
    : AddedAmong hunk.part.rows hunk.start before number
      ↔ ∃ (above below : List HunkRow) (row : LineText),
          hunk.rows = above ++ .added row :: below
          ∧ before = above.length
          ∧ number = hunk.start + (above.filterMap HunkRow.newText?).length := by
  constructor
  · rintro ⟨between, text, below, cut, rfl, rfl⟩
    obtain ⟨above, more, rows_eq, rfl, tail⟩ := List.map_eq_append_iff.mp cut
    obtain ⟨row, rest, rfl, row_eq, -⟩ := List.map_eq_cons_iff.mp tail
    cases row with
    | added text' =>
        refine ⟨above, rest, text', rows_eq, by simp, ?_⟩
        rw [countP_takesNumber]
    | removed _ | context _ | note _ => simp [HunkRow.line] at row_eq
  · rintro ⟨above, below, row, rows_eq, rfl, rfl⟩
    refine ⟨above.map HunkRow.line, row.val, below.map HunkRow.line, ?_, by simp, ?_⟩
    · simp [part, rows_eq, HunkRow.line]
    · rw [countP_takesNumber]

/-- A line that a hunk adds is one that it covers, with the text that the hunk has for it. -/
theorem Hunk.Adds.covered {hunk : Hunk} {number : Int} {text : Line} (adds : hunk.Adds number text)
    : (hunk.start : Int) ≤ number
      ∧ number < (hunk.stop : Int)
      ∧ hunk.newTexts[number.toNat - hunk.start]? = some text := by
  obtain ⟨above, below, row, rows_eq, rfl, rfl⟩ := adds
  have texts : hunk.newTexts
      = above.filterMap HunkRow.newText? ++ row.val :: below.filterMap HunkRow.newText? := by
    simp [newTexts, rows_eq, HunkRow.newText?]
  refine ⟨by omega, ?_, ?_⟩
  · simp only [stop, texts, List.length_append, List.length_cons]
    omega
  · have place : ((hunk.start : Int) + (above.filterMap HunkRow.newText?).length).toNat - hunk.start
        = (above.filterMap HunkRow.newText?).length := by
      omega
    rw [place, texts]
    simp

-----------------------------------------------------------------------------------------
-- The rows of a patch
-----------------------------------------------------------------------------------------

/-- An added row of the sections of hunks is a line that one of the hunks adds, and stands among the
lines that they write, by induction on the hunks.
-/
theorem adds_of_sectionRow {hunks : List Hunk} {distance : Nat} {number : Int}
    (row : SectionRow (hunks.map Hunk.part) distance number)
    : ∃ hunk ∈ hunks, ∃ text,
        hunk.Adds number text ∧ (hunks.flatMap Hunk.lines)[distance]? = some ('+' :: text) := by
  induction hunks generalizing distance with
  | nil => exact row.elim
  | cons hunk rest ih =>
      rcases row with ⟨before, among, rfl⟩ | ⟨later, below, rfl⟩
      · obtain ⟨above, below, row, rows_eq, rfl, rfl⟩ := Hunk.addedAmong_iff.mp among
        refine ⟨hunk, by simp, row.val, ⟨above, below, row, rows_eq, rfl, rfl⟩, ?_⟩
        simp [Hunk.lines, rows_eq, HunkRow.line]
      · obtain ⟨other, member, text, adds, place⟩ := ih below
        refine ⟨other, List.mem_cons_of_mem hunk member, text, adds, ?_⟩
        have length : hunk.part.rows.length + 1 + later = hunk.lines.length + later := by
          simp [Hunk.part, Hunk.lines]
        rw [List.flatMap_cons, length, List.getElem?_append_right (Nat.le_add_right _ _),
          Nat.add_sub_cancel_left]
        exact place

/-- A line that one of several hunks adds is an added row of their sections. -/
theorem sectionRow_of_adds {hunks : List Hunk} {hunk : Hunk} (member : hunk ∈ hunks) {number : Int}
    {text : Line} (adds : hunk.Adds number text)
    : ∃ distance, SectionRow (hunks.map Hunk.part) distance number := by
  induction hunks with
  | nil => cases member
  | cons first rest ih =>
      rcases List.mem_cons.mp member with rfl | below
      · obtain ⟨above, others, row, rows_eq, -, rfl⟩ := adds
        exact ⟨above.length + 1,
          Or.inl ⟨_, Hunk.addedAmong_iff.mpr ⟨above, others, row, rows_eq, rfl, rfl⟩, rfl⟩⟩
      · obtain ⟨distance, row⟩ := ih below
        exact ⟨first.part.rows.length + 1 + distance, Or.inr ⟨distance, row, rfl⟩⟩

/-- A chunk has positions only for lines that its hunk covers. -/
theorem Hunk.within_chunk {hunk : Hunk} {position : Int} {chunk : Chunk}
    (read : hunk.part.chunk position = .ok chunk)
    : ∀ entry ∈ chunk.positions, (hunk.start : Int) ≤ entry.1 ∧ entry.1 < (hunk.stop : Int) := by
  rintro ⟨number, found⟩ member
  rw [Section.chunk_positions read] at member
  obtain ⟨before, among, -⟩ := mem_addedAt_iff.mp member
  obtain ⟨above, below, row, rows_eq, -, number_eq⟩ := Hunk.addedAmong_iff.mp among
  have adds : hunk.Adds number row := ⟨above, below, row, rows_eq, rfl, number_eq⟩
  exact ⟨adds.covered.1, adds.covered.2.1⟩

/-- Chunks have positions for the lines that their hunks cover, each for its own, by induction on the
hunks.
-/
theorem within_chunksFrom {hunks : List Hunk} {position : Int} {chunks : List Chunk}
    (read : chunksFrom position (hunks.map Hunk.part) = .ok chunks)
    : List.Forall₂
        (fun hunk (chunk : Chunk) => ∀ entry ∈ chunk.positions,
          (hunk.start : Int) ≤ entry.1 ∧ entry.1 < (hunk.stop : Int))
        hunks chunks := by
  induction hunks generalizing position chunks with
  | nil =>
      cases read
      exact .nil
  | cons hunk rest ih =>
      obtain ⟨chunk, later, first, others, rfl⟩ := chunksFrom_cons_eq_ok_iff.mp read
      exact .cons (Hunk.within_chunk first) (ih others)

/-- The entries of a chunk are as many as its rows that are added. -/
theorem length_addedAt (line position : Int) (rows : List HunkRow)
    : (addedAt line position (rows.map HunkRow.line)).length = rows.countP HunkRow.isAdded := by
  induction rows generalizing line position with
  | nil => rfl
  | cons row rest ih =>
      rw [List.map_cons, addedAt_cons, List.length_append, ih, List.countP_cons]
      cases row <;> simp [HunkRow.line, HunkRow.isAdded, Row.ofLine, Nat.add_comm]

/-- The entries of chunks are as many as the added rows of their hunks, by induction on the hunks. -/
theorem length_entriesOf_chunksFrom {hunks : List Hunk} {position : Int} {chunks : List Chunk}
    (read : chunksFrom position (hunks.map Hunk.part) = .ok chunks)
    : (entriesOf chunks).length = (hunks.flatMap Hunk.rows).countP HunkRow.isAdded := by
  induction hunks generalizing position chunks with
  | nil =>
      cases read
      rfl
  | cons hunk rest ih =>
      obtain ⟨chunk, later, first, others, rfl⟩ := chunksFrom_cons_eq_ok_iff.mp read
      have below := ih others
      have here : chunk.positions.length = hunk.rows.countP HunkRow.isAdded := by
        rw [Section.chunk_positions first]
        exact length_addedAt _ _ _
      simp only [entriesOf] at below
      rw [entriesOf, List.flatMap_cons, List.length_append, here, below, List.flatMap_cons,
        List.countP_append]

/-- Where hunks cover lines one behind the other, the entries of their chunks ascend. Witness: the
entries of a chunk stay within what its hunk covers, by induction on the hunks.
-/
theorem ascending_entriesOf_chunksFrom {hunks : List Hunk} {position : Int} {chunks : List Chunk}
    (ascending : hunks.Pairwise fun earlier later =>
      earlier.newTexts ≠ [] → later.newTexts ≠ [] → earlier.stop ≤ later.start)
    (read : chunksFrom position (hunks.map Hunk.part) = .ok chunks)
    : Ascending (entriesOf chunks) := by
  have lines : (entriesOf chunks).Pairwise fun earlier later => earlier.1 < later.1 := by
    induction hunks generalizing position chunks with
    | nil =>
        cases read
        exact .nil
    | cons hunk rest ih =>
        obtain ⟨chunk, later, first, others, rfl⟩ := chunksFrom_cons_eq_ok_iff.mp read
        obtain ⟨above, below⟩ := List.pairwise_cons.mp ascending
        refine List.pairwise_append.mpr ⟨?_, ih below others, ?_⟩
        · rw [Section.chunk_positions first]
          exact (addedAt_ascending _ _ _).imp And.left
        · rintro ⟨number, found⟩ earlier ⟨number', found'⟩ member
          obtain ⟨distance, row, -⟩ := (mem_entriesOf_chunksFrom others).mp member
          obtain ⟨other, among, text, adds, -⟩ := adds_of_sectionRow row
          obtain ⟨fromStart, toStop⟩ := Hunk.within_chunk first _ earlier
          obtain ⟨fromStart', toStop', -⟩ := adds.covered
          have covers {hunk : Hunk} (inside : (hunk.start : Int) < hunk.stop) : hunk.newTexts ≠ [] := by
            intro empty
            simp [Hunk.stop, empty] at inside
          have apart := above other among (covers (by omega)) (covers (by omega))
          dsimp only at fromStart toStop ⊢
          omega
  exact lines.and (rising_entriesOf_chunksFrom read)

/-- Of ascending entries for two lines, the one for the later line has the greater position. -/
theorem Ascending.lt {entries : List (Int × Ordinal)} (ascending : Ascending entries)
    {one two : Int × Ordinal} (first : one ∈ entries) (second : two ∈ entries) (less : one.1 < two.1)
    : one.2.value < two.2.value := by
  induction entries with
  | nil => cases first
  | cons entry rest ih =>
      obtain ⟨above, below⟩ := List.pairwise_cons.mp ascending
      rcases List.mem_cons.mp first with rfl | inRest
      · rcases List.mem_cons.mp second with rfl | inRest'
        · exact absurd less (Int.lt_irrefl _)
        · exact (above two inRest').2
      · rcases List.mem_cons.mp second with rfl | inRest'
        · exact absurd (Int.lt_trans less (above one inRest).1) (Int.lt_irrefl _)
        · exact ih below inRest inRest'

/-- Where the entries of all chunks ascend, a line has the position of its entry. -/
theorem positionFor_eq_some_iff_mem {file : ChangedFile} (ascending : Ascending (entriesOf file.chunks))
    {line : Int} {found : Ordinal}
    : file.positionFor line = some found ↔ (line, found) ∈ entriesOf file.chunks := by
  have distinct : ∀ chunk ∈ file.chunks, (Assoc.keys chunk.positions).Nodup := by
    intro chunk member
    have within : Ascending chunk.positions := (List.pairwise_flatMap.mp ascending).1 chunk member
    exact within.nodup_keys
  rw [ChangedFile.positionFor_eq_some_iff_greatest distinct (ascending.imp And.right)]
  refine ⟨And.left, fun entry => ⟨entry, fun other entry' => ?_⟩⟩
  have looked := (Assoc.get?_eq_some_iff_mem ascending.nodup_keys).mpr entry
  have looked' := (Assoc.get?_eq_some_iff_mem ascending.nodup_keys).mpr entry'
  exact Int.le_of_eq (by rw [Option.some.inj (looked'.symm.trans looked)])

-----------------------------------------------------------------------------------------
-- The positions of a patch
-----------------------------------------------------------------------------------------

/-- A line that a hunk adds is a line of the file that the hunk fits, with the same text. -/
theorem Fits.text_of_adds {file : List Line} {hunks : List Hunk} (fits : Fits file hunks) {hunk : Hunk}
    (member : hunk ∈ hunks) {number : Int} {text : Line} (adds : hunk.Adds number text)
    : 1 ≤ number ∧ file[number.toNat - 1]? = some text := by
  obtain ⟨fromStart, toStop, place⟩ := adds.covered
  have covers : hunk.newTexts ≠ [] := by
    intro empty
    simp [empty] at place
  obtain ⟨positive, rest, rest_eq⟩ := fits.covers hunk member covers
  obtain ⟨within, -⟩ := List.getElem?_eq_some_iff.mp place
  refine ⟨by omega, ?_⟩
  have shift : number.toNat - 1 = (hunk.start - 1) + (number.toNat - hunk.start) := by omega
  rw [shift, ← List.getElem?_drop, ← rest_eq, List.getElem?_append_left within]
  exact place

/-- A patch written from hunks that fit a file is read, and its positions point at the lines of the file
that the hunks add. Witness: the entries of its chunks are the added rows of the hunks and ascend.
-/
theorem points_of_render {file : List Line} {hunks : List Hunk} (fits : Fits file hunks)
    (plain : ∀ line ∈ hunks.flatMap Hunk.lines, ¬ SaysBinary line)
    : ∃ chunks,
        parse (render hunks) = .ok chunks
        ∧ ∀ changed : ChangedFile, changed.chunks = chunks →
            Points file hunks (splitLines (render hunks).toList) changed := by
  obtain ⟨chunks, read⟩ := exists_chunksFrom hunks 1
  have written : parse (render hunks) = .ok chunks := by
    rw [parse_of_not_saysBinary (not_saysBinary_render plain), sections_render, read]
  refine ⟨chunks, written, ?_⟩
  rintro changed rfl
  have ascending := ascending_entriesOf_chunksFrom fits.ascending read
  have found_iff {number : Int} {found : Ordinal}
      : changed.positionFor number = some found
        ↔ ∃ distance, SectionRow (hunks.map Hunk.part) distance number ∧ found = .number distance := by
    rw [positionFor_eq_some_iff_mem ascending, mem_entriesOf_chunksFrom read]
    simp
  refine ⟨?_, ?_, ?_, ?_, within_chunksFrom read⟩
  · intro number
    constructor
    · intro present
      obtain ⟨found, looked⟩ := Option.isSome_iff_exists.mp present
      obtain ⟨distance, row, -⟩ := found_iff.mp looked
      obtain ⟨hunk, member, text, adds, -⟩ := adds_of_sectionRow row
      exact ⟨hunk, member, text, adds⟩
    · rintro ⟨hunk, member, text, adds⟩
      obtain ⟨distance, row⟩ := sectionRow_of_adds member adds
      exact Option.isSome_iff_exists.mpr ⟨_, found_iff.mpr ⟨distance, row, rfl⟩⟩
  · intro number found looked
    obtain ⟨distance, row, rfl⟩ := found_iff.mp looked
    obtain ⟨hunk, member, text, adds, place⟩ := adds_of_sectionRow row
    obtain ⟨positive, inFile⟩ := fits.text_of_adds member adds
    have lines_eq := splitLines_render (List.ne_nil_of_mem member)
    refine ⟨distance, 0, text, rfl, positive, inFile, firstHeader_render member, ?_⟩
    rw [lines_eq, Nat.zero_add]
    exact place
  · intro number later found foundLater looked lookedLater less
    exact ascending.lt ((positionFor_eq_some_iff_mem ascending).mp looked)
      ((positionFor_eq_some_iff_mem ascending).mp lookedLater) less
  · refine ⟨Assoc.keys (entriesOf changed.chunks), ascending.nodup_keys, ?_, ?_⟩
    · intro number
      simp [Assoc.keys, Option.isSome_iff_exists, positionFor_eq_some_iff_mem ascending]
    · rw [Assoc.keys, List.length_map, length_entriesOf_chunksFrom read]

/-- A file of four lines. -/
def fourLines : List Line := ["a".toList, "b".toList, "c".toList, "d".toList]

/-- Two hunks for the file, with a removed row, a note and a header that leaves its counts out. -/
def twoHunks : List Hunk := [
  { oldStart := ⟨[0], by decide, by decide⟩
    oldLines := none
    newStart := ⟨[1], by decide, by decide⟩
    newLines := some ⟨[2], by decide, by decide⟩
    heading := ⟨" f".toList, by decide⟩
    rows := [.context ⟨['a'], by decide⟩, .removed ⟨['+'], by decide⟩, .added ⟨['b'], by decide⟩] },
  { oldStart := ⟨[9], by decide, by decide⟩
    oldLines := none
    newStart := ⟨[0, 4], by decide, by decide⟩
    newLines := none
    heading := ⟨[], by decide⟩
    rows := [.added ⟨['d'], by decide⟩, .note ⟨['n'], by decide⟩] }]

theorem points_of_twoHunks
    : Fits fourLines twoHunks
      ∧ (∀ line ∈ twoHunks.flatMap Hunk.lines, ¬ SaysBinary line)
      ∧ ∃ chunks,
          parse (render twoHunks) = .ok chunks
          ∧ ∀ changed : ChangedFile, changed.chunks = chunks →
              Points fourLines twoHunks (splitLines (render twoHunks).toList) changed := by
  have fits : Fits fourLines twoHunks := ⟨by decide, by decide⟩
  have plain : ∀ line ∈ twoHunks.flatMap Hunk.lines, ¬ SaysBinary line := by decide +kernel
  exact ⟨fits, plain, points_of_render fits plain⟩

end PatchReview.Patch
