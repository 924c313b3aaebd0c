import Mathlib.Data.List.Forall2
import PatchReview.Proofs.Patch.PositionLookup

/-! A patch has one chunk for each of its headers. The chunk has the numbers of the header and the rows
below it, up to the next header, and the places of the added ones among them.
-/

namespace PatchReview.Patch

open PatchReview.Text

-----------------------------------------------------------------------------------------
-- What stands below a header
-----------------------------------------------------------------------------------------

/-- A line is a chunk header. -/
def IsHeader (line : Line) : Prop := ∃ header, Header.Spelled line header

/-- (Stretch lines start header rows) says that a header stands at `start` and that these rows stand
below it, up to the next header or to the end.
-/
def Stretch (lines : List Line) (start : Nat) (header : Header) (rows : List Line) : Prop :=
  ∃ above headerLine rest,
    lines = above ++ headerLine :: (rows ++ rest)
    ∧ start = above.length
    ∧ Header.Spelled headerLine header
    ∧ (∀ row ∈ rows, IsPlain row)
    ∧ (∀ line, rest.head? = some line → IsHeader line)

/-- (Tells chunk header rows distance) says that a chunk has the numbers of a header and the text of the
rows below it. Its entries are those of the added rows, each under its number and with its distance,
when the first row has this one. They are in order of lines and of positions alike.
-/
structure Tells (chunk : Chunk) (header : Header) (rows : List Line) (distance : Int) : Prop where
  oldStart : chunk.oldStart = digitsValue header.oldStart
  oldLines : chunk.oldLines = Header.countValue header.oldLines
  newStart : chunk.newStart = digitsValue header.newStart
  newLines : chunk.newLines = Header.countValue header.newLines
  content : chunk.content = String.ofList (joinLines rows)
  entries : ∀ number found,
    (number, found) ∈ chunk.positions
      ↔ ∃ before text below,
          rows = before ++ ('+' :: text) :: below
          ∧ number = chunk.newStart + before.countP takesNumber
          ∧ found = .number (distance + before.length)
  ascending : Ascending chunk.positions
  changedLines : chunk.changedLines = Assoc.keys chunk.positions
  others : chunk.others = []

-----------------------------------------------------------------------------------------
-- Chunks of sections
-----------------------------------------------------------------------------------------

/-- Numbers that ascend are left as they are when they are put in order, by induction on them. -/
theorem foldr_insertAscending {numbers : List Int} (ascending : numbers.Pairwise (· < ·))
    : numbers.foldr Chunk.insertAscending [] = numbers := by
  induction numbers with
  | nil => rfl
  | cons number rest ih =>
      obtain ⟨above, later⟩ := List.pairwise_cons.mp ascending
      rw [List.foldr_cons, ih later]
      cases rest with
      | nil => rfl
      | cons next more =>
          have less : number ≤ next := Int.le_of_lt (above next (by simp))
          simp [Chunk.insertAscending, less]

theorem changedLines_of_ascending {chunk : Chunk} (ascending : Ascending chunk.positions)
    : chunk.changedLines = Assoc.keys chunk.positions :=
  foldr_insertAscending (List.pairwise_map.mpr (ascending.imp And.left))

/-- The chunk of a section tells what the section has. -/
theorem tells_of_chunk {part : Section} {position : Int} {chunk : Chunk}
    (read : part.chunk position = .ok chunk)
    : Tells chunk part.header part.rows position := by
  obtain ⟨-, rfl⟩ := Section.chunk_eq_ok_iff.mp read
  have ascending := addedAt_ascending (digitsValue part.header.newStart) position part.rows
  refine ⟨rfl, rfl, rfl, rfl, rfl, ?_, ascending, changedLines_of_ascending ascending, rfl⟩
  intro number found
  rw [mem_addedAt_iff]
  constructor
  · intro added
    obtain ⟨_, ⟨before, text, below, cut, rfl, number_eq⟩, found_eq⟩ := added
    exact ⟨before, text, below, cut, number_eq, found_eq⟩
  · intro entry
    obtain ⟨before, text, below, cut, number_eq, found_eq⟩ := entry
    exact ⟨before.length, ⟨before, text, below, cut, rfl, number_eq⟩, found_eq⟩

/-- (Starts lines least starts) says that these are the places of the headers from `least` on, in order. -/
structure Starts (lines : List Line) (least : Nat) (starts : List Nat) : Prop where
  ascending : starts.Pairwise (· < ·)
  iff : ∀ index, index ∈ starts ↔ least ≤ index ∧ ∃ line, lines[index]? = some line ∧ IsHeader line

/-- Rows that are none leave the places of headers. -/
theorem Starts.rows {above rows lines : List Line} {starts : List Nat}
    (plain : ∀ row ∈ rows, IsPlain row)
    (found : Starts (above ++ rows ++ lines) (above ++ rows).length starts)
    : Starts (above ++ rows ++ lines) above.length starts := by
  refine ⟨found.ascending, fun index => (found.iff index).trans ?_⟩
  refine and_congr_left fun header => ?_
  obtain ⟨line, place, header, spelled⟩ := header
  rw [List.length_append]
  constructor
  · omega
  · intro least
    apply Nat.le_of_not_lt
    intro inRows
    rw [List.getElem?_append_left (by simpa using inRows), List.getElem?_append_right least] at place
    exact plain line (List.mem_of_getElem? place) header spelled

/-- A header stands before the places of the later ones. -/
theorem Starts.cons {above rest : List Line} {headerLine : Line} {starts : List Nat}
    (header : IsHeader headerLine)
    (found : Starts (above ++ headerLine :: rest) (above.length + 1) starts)
    : Starts (above ++ headerLine :: rest) above.length (above.length :: starts) := by
  have here : (above ++ headerLine :: rest)[above.length]? = some headerLine := by simp
  refine ⟨List.pairwise_cons.mpr ⟨?_, found.ascending⟩, ?_⟩
  · intro start member
    exact ((found.iff start).mp member).1
  · intro index
    rw [List.mem_cons, found.iff]
    constructor
    · intro place
      rcases place with rfl | ⟨later, line⟩
      · exact ⟨Nat.le_refl _, headerLine, here, header⟩
      · exact ⟨Nat.le_of_succ_le later, line⟩
    · intro place
      obtain ⟨least, line⟩ := place
      rcases Nat.eq_or_lt_of_le least with same | later
      · exact Or.inl same.symm
      · exact Or.inr ⟨later, line⟩

/-- Laid sections make a chunk for each header, by induction on how they are laid. The lines above them
only grow on the way.
-/
theorem exists_starts_of_laid {parts : List Section} {lines : List Line} (laid : Laid parts lines)
    (above : List Line) {position : Int} {chunks : List Chunk}
    (read : chunksFrom position parts = .ok chunks)
    : ∃ starts,
        Starts (above ++ lines) above.length starts
        ∧ List.Forall₂
            (fun start chunk => ∃ header rows,
              Stretch (above ++ lines) start header rows
              ∧ Tells chunk header rows (position + (start - above.length)))
            starts chunks := by
  induction laid generalizing above position chunks with
  | nil =>
      cases read
      refine ⟨[], ⟨.nil, fun index => ?_⟩, .nil⟩
      constructor
      · intro member
        cases member
      · intro place
        obtain ⟨least, line, within, -⟩ := place
        simp [List.getElem?_eq_none least] at within
  | @cons part parts headerLine lines spelled plain laid ih =>
      obtain ⟨chunk, later, first, others, rfl⟩ := chunksFrom_cons_eq_ok_iff.mp read
      obtain ⟨starts, found, each⟩ := ih (above ++ headerLine :: part.rows) others
      have lines_eq : above ++ headerLine :: (part.rows ++ lines)
          = above ++ headerLine :: part.rows ++ lines := by
        simp
      have below : Starts (above ++ headerLine :: (part.rows ++ lines)) (above.length + 1) starts := by
        have shift : above ++ headerLine :: (part.rows ++ lines)
            = above ++ [headerLine] ++ part.rows ++ lines := by
          simp
        have size : above.length + 1 = (above ++ [headerLine]).length := by simp
        rw [shift, size]
        apply Starts.rows plain
        simpa using found
      refine ⟨above.length :: starts, Starts.cons ⟨_, spelled⟩ below, .cons ?_ ?_⟩
      · refine ⟨part.header, part.rows, ⟨above, headerLine, lines, rfl, rfl, spelled, plain, ?_⟩, ?_⟩
        · intro line head
          cases lines with
          | nil => cases head
          | cons next rest =>
              obtain rfl := Option.some.inj head
              exact laid.head
        · simpa using tells_of_chunk first
      · rw [lines_eq]
        refine each.imp fun start chunk tells => ?_
        obtain ⟨header, rows, stretch, tells⟩ := tells
        refine ⟨header, rows, stretch, ?_⟩
        have distance : position + part.rows.length + 1
              + ((start : Int) - (above ++ headerLine :: part.rows).length)
            = position + (start - above.length) := by
          simp only [List.length_append, List.length_cons]
          omega
        rwa [distance] at tells

-----------------------------------------------------------------------------------------
-- Chunks of patches
-----------------------------------------------------------------------------------------

/-- The headers of laid sections are spelled among their lines. -/
theorem Laid.spelled {parts : List Section} {lines : List Line} (laid : Laid parts lines)
    : ∀ part ∈ parts, ∃ line ∈ lines, Header.Spelled line part.header := by
  induction laid with
  | nil => exact List.forall_mem_nil _
  | @cons part parts headerLine lines spelled _ _ ih =>
      refine List.forall_mem_cons.mpr ⟨⟨headerLine, by simp, spelled⟩, ?_⟩
      intro other member
      obtain ⟨line, among, spelled⟩ := ih other member
      exact ⟨line, by simp [among], spelled⟩

/-- A patch without a notice, whose header numbers are within the digit limit, is read. It has one chunk
for each header, in order, and each tells what stands below its header. The distances of the rows are
those from the first header.
-/
theorem parse_tells {patch : String} (plain : ∀ line ∈ splitLines patch.toList, ¬ SaysBinary line)
    (within : ∀ line ∈ splitLines patch.toList, ∀ header,
      Header.Spelled line header → header.IsWithin)
    : ∃ starts chunks,
        parse patch = .ok chunks
        ∧ Starts (splitLines patch.toList) 0 starts
        ∧ List.Forall₂
            (fun start chunk => ∃ first header rows,
              FirstHeader (splitLines patch.toList) first
              ∧ Stretch (splitLines patch.toList) start header rows
              ∧ Tells chunk header rows (start + 1 - first))
            starts chunks := by
  rw [parse_of_not_saysBinary plain]
  generalize splitLines patch.toList = lines at within
  obtain ⟨below, lines_eq, lead, laid⟩ := laid_sections lines
  have limited : ∀ part ∈ (sections lines).2, part.header.IsWithin := by
    intro part member
    obtain ⟨line, among, spelled⟩ := laid.spelled part member
    exact within line (by rw [lines_eq]; simp [among]) part.header spelled
  obtain ⟨chunks, read⟩ := exists_chunksFrom_of_within limited 1
  obtain ⟨starts, found, each⟩ := exists_starts_of_laid laid (sections lines).1 read
  have found' : Starts ([] ++ (sections lines).1 ++ below) 0 starts :=
    Starts.rows lead found
  rw [List.nil_append, ← lines_eq] at found'
  rw [← lines_eq] at each
  refine ⟨starts, chunks, read, found', ?_⟩
  -- Where there is a chunk, there is a section, so that the lead ends at the first header.
  cases parts_eq : (sections lines).2 with
  | nil =>
      rw [parts_eq] at read
      cases read
      cases each
      exact .nil
  | cons part parts =>
      have first := firstHeader_sections parts_eq
      refine each.imp fun start chunk tells => ?_
      obtain ⟨header, rows, stretch, tells⟩ := tells
      have distance : (1 : Int) + (start - (sections lines).1.length)
          = start + 1 - (sections lines).1.length := by
        omega
      exact ⟨_, header, rows, first, stretch, distance ▸ tells⟩

/-- A patch with text above its headers, an empty chunk, a note, rows without a mark and a line that only
looks like a header.
-/
def unevenPatch : String :=
  "diff --git\n@@ -0,0 +1,2 @@ f\n+a\n-b\n\n+@@ -1 +1 @@\n\\ No newline\n@@ -7 +9 @@\n@@-3+0,0@@\n@@ -1 +1\n+c\n"

theorem parse_tells_unevenPatch
    : (∀ line ∈ splitLines unevenPatch.toList, ¬ SaysBinary line)
      ∧ (∀ line ∈ splitLines unevenPatch.toList, ∀ header,
          Header.Spelled line header → header.IsWithin)
      ∧ ∃ starts chunks,
          parse unevenPatch = .ok chunks
          ∧ Starts (splitLines unevenPatch.toList) 0 starts
          ∧ List.Forall₂
              (fun start chunk => ∃ first header rows,
                FirstHeader (splitLines unevenPatch.toList) first
                ∧ Stretch (splitLines unevenPatch.toList) start header rows
                ∧ Tells chunk header rows (start + 1 - first))
              starts chunks := by
  have plain : ∀ line ∈ splitLines unevenPatch.toList, ¬ SaysBinary line := by decide +kernel
  have within : ∀ line ∈ splitLines unevenPatch.toList, ∀ header,
      Header.Spelled line header → header.IsWithin := by
    have read : ∀ line ∈ splitLines unevenPatch.toList, ∀ header ∈ Header.ofLine? line,
        header.IsWithin := by
      decide +kernel
    intro line member header spelled
    exact read line member header (Header.ofLine?_spelled spelled)
  exact ⟨plain, within, parse_tells plain within⟩

end PatchReview.Patch
