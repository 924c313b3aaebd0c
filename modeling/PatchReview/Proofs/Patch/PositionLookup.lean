import PatchReview.Patch.ChangedFile
import PatchReview.Proofs.Assoc
import PatchReview.Proofs.Attempt
import PatchReview.Proofs.Patch.AddedRows
import PatchReview.Proofs.Patch.BinaryNotices

/-! The positions that the chunks of a patch keep, and the look-up of a line in all of them. Within
a patch positions only grow, so that of several entries for one line the last is the one that counts.
-/

namespace PatchReview

open PatchReview.Text

-----------------------------------------------------------------------------------------
-- The positions of one chunk
-----------------------------------------------------------------------------------------

namespace Patch

/-- A row is added when it starts with a plus sign. -/
theorem Row.ofLine_eq_added_iff {row : Line} : Row.ofLine row = .added ↔ ∃ text, row = '+' :: text := by
  unfold Row.ofLine
  split <;> simp_all

/-- A row is in the new file when it takes a number there, by cases on its first character. -/
theorem Row.isInNewFile_ofLine (row : Line) : (Row.ofLine row).isInNewFile = takesNumber row := by
  unfold Row.ofLine takesNumber
  split
  · rfl
  · rfl
  · rfl
  · next noPlus noMinus noSlash =>
      cases row with
      | nil => rfl
      | cons c text =>
          have minus : c ≠ '-' := fun same => noMinus text (same ▸ rfl)
          have slash : c ≠ '\\' := fun same => noSlash text (same ▸ rfl)
          simp [Row.isInNewFile, minus, slash]

/-- The number that the row after `row` takes. -/
def numberAfter (row : Line) (line : Int) : Int := if takesNumber row then line + 1 else line

/-- An added row is the first one or stands among the rows after it. -/
theorem addedAmong_cons {row : Line} {rows : List Line} {line number : Int} {before : Nat}
    : AddedAmong (row :: rows) line before number
      ↔ (∃ text, row = '+' :: text) ∧ before = 0 ∧ number = line
        ∨ ∃ later, AddedAmong rows (numberAfter row line) later number ∧ before = later + 1 := by
  constructor
  · rintro ⟨between, text, below, cut, rfl, rfl⟩
    cases between with
    | nil => exact Or.inl ⟨⟨text, (List.cons.inj cut).1⟩, rfl, by simp⟩
    | cons first more =>
        obtain ⟨rfl, rows_eq⟩ := List.cons.inj cut
        refine Or.inr ⟨more.length, ⟨more, text, below, rows_eq, rfl, ?_⟩, rfl⟩
        by_cases takes : takesNumber row
        · simp only [numberAfter, takes, if_true, List.countP_cons_of_pos]
          omega
        · simp [numberAfter, takes]
  · rintro (⟨⟨text, rfl⟩, rfl, rfl⟩ | ⟨_, ⟨between, text, below, rfl, rfl, rfl⟩, rfl⟩)
    · exact ⟨[], text, rows, rfl, rfl, by simp⟩
    · refine ⟨row :: between, text, below, rfl, rfl, ?_⟩
      by_cases takes : takesNumber row
      · simp only [numberAfter, takes, if_true, List.countP_cons_of_pos]
        omega
      · simp [numberAfter, takes]

/-- One row of a chunk adds at most one position, and moves on. -/
theorem addedAt_cons (line position : Int) (row : Line) (rows : List Line)
    : addedAt line position (row :: rows)
      = (if Row.ofLine row = .added then [(line, .number position)] else [])
        ++ addedAt (numberAfter row line) (position + 1) rows := by
  rw [addedAt, Row.isInNewFile_ofLine]
  split <;> simp_all [numberAfter]

/-- The positions of rows are those of the added ones among them, by induction on the rows. -/
theorem mem_addedAt_iff {line position : Int} {rows : List Line} {number : Int} {found : Ordinal}
    : (number, found) ∈ addedAt line position rows
      ↔ ∃ before, AddedAmong rows line before number ∧ found = .number (position + before) := by
  induction rows generalizing line position with
  | nil => simp [addedAt, AddedAmong]
  | cons row rows ih =>
      simp only [addedAt_cons, List.mem_append, ih, addedAmong_cons]
      constructor
      · rintro (first | ⟨before, row, rfl⟩)
        · split at first
          · next added =>
              obtain ⟨rfl, rfl⟩ := by simpa using first
              exact ⟨0, Or.inl ⟨Row.ofLine_eq_added_iff.mp added, rfl, rfl⟩, by simp⟩
          · simp at first
        · exact ⟨before + 1, Or.inr ⟨before, row, rfl⟩, congrArg Ordinal.number (by omega)⟩
      · rintro ⟨_, ⟨added, rfl, rfl⟩ | ⟨later, row, rfl⟩, rfl⟩
        · exact Or.inl (by simp [Row.ofLine_eq_added_iff.mpr added])
        · exact Or.inr ⟨later, row, congrArg Ordinal.number (by omega)⟩

/-- An added row has no smaller number than the first row, and no smaller position. -/
theorem AddedAmong.le {rows : List Line} {line number : Int} {before : Nat}
    (row : AddedAmong rows line before number)
    : line ≤ number ∧ before < rows.length := by
  obtain ⟨between, text, below, rfl, rfl, rfl⟩ := row
  refine ⟨by omega, ?_⟩
  simp only [List.length_append, List.length_cons]
  omega

/-- Lines and positions grow together from entry to entry. -/
def Ascending (entries : List (Int × Ordinal)) : Prop :=
  entries.Pairwise fun earlier later => earlier.1 < later.1 ∧ earlier.2.value < later.2.value

/-- The positions of rows are ascending, by induction on the rows. -/
theorem addedAt_ascending (line position : Int) (rows : List Line)
    : Ascending (addedAt line position rows) := by
  induction rows generalizing line position with
  | nil => exact .nil
  | cons row rows ih =>
      rw [addedAt_cons]
      split
      · next added =>
          obtain ⟨text, rfl⟩ := Row.ofLine_eq_added_iff.mp added
          refine List.pairwise_cons.mpr ⟨?_, ih _ _⟩
          rintro ⟨number, found⟩ member
          obtain ⟨before, row, rfl⟩ := mem_addedAt_iff.mp member
          have least := row.le.1
          have takes : takesNumber ('+' :: text) = true := rfl
          simp only [numberAfter, takes, if_true] at least
          simp only [Ordinal.value]
          omega
      · exact ih _ _

/-- No line occurs twice among ascending entries. -/
theorem Ascending.nodup_keys {entries : List (Int × Ordinal)} (ascending : Ascending entries)
    : (Assoc.keys entries).Nodup :=
  List.pairwise_map.mpr (ascending.imp fun grows => Int.ne_of_lt grows.1)

-----------------------------------------------------------------------------------------
-- The chunks of a patch
-----------------------------------------------------------------------------------------

/-- A number is read from digits within the limit, as what they spell. -/
theorem Header.numberOf_eq_ok_iff {digits : List Nat} {number : Nat}
    : Header.numberOf digits = .ok number
      ↔ digits.length ≤ Integer.maxDigits ∧ number = digitsValue digits := by
  unfold Header.numberOf
  split
  · next long => simp; omega
  · next within => simp [Nat.le_of_not_lt within, eq_comm]

/-- A count that is left out is one. -/
def Header.countValue (count : Option (List Nat)) : Nat := (count.map digitsValue).getD 1

/-- A number that may be left out is within the digit limit. -/
def Header.CountWithin (count : Option (List Nat)) : Prop :=
  ∀ digits ∈ count, digits.length ≤ Integer.maxDigits

instance (count : Option (List Nat)) : Decidable (Header.CountWithin count) :=
  inferInstanceAs (Decidable (∀ digits ∈ count, digits.length ≤ Integer.maxDigits))

/-- The numbers of a header are within the digit limit. -/
structure Header.IsWithin (header : Header) : Prop where
  oldStart : header.oldStart.length ≤ Integer.maxDigits
  oldLines : Header.CountWithin header.oldLines
  newStart : header.newStart.length ≤ Integer.maxDigits
  newLines : Header.CountWithin header.newLines

instance (header : Header) : Decidable header.IsWithin :=
  decidable_of_iff
    (header.oldStart.length ≤ Integer.maxDigits ∧ Header.CountWithin header.oldLines
      ∧ header.newStart.length ≤ Integer.maxDigits ∧ Header.CountWithin header.newLines)
    ⟨fun ⟨oldStart, oldLines, newStart, newLines⟩ => ⟨oldStart, oldLines, newStart, newLines⟩,
      fun within => ⟨within.oldStart, within.oldLines, within.newStart, within.newLines⟩⟩

theorem Header.countOf_eq_ok_iff {count : Option (List Nat)} {number : Nat}
    : Header.countOf count = .ok number ↔ CountWithin count ∧ number = countValue count := by
  cases count with
  | none => simp [countOf, CountWithin, countValue, eq_comm]
  | some digits => simp [countOf, numberOf_eq_ok_iff, CountWithin, countValue]

/-- A section makes a chunk when the numbers of its header are within the limit, and then this one. -/
theorem Section.chunk_eq_ok_iff {part : Section} {position : Int} {chunk : Chunk}
    : part.chunk position = .ok chunk
      ↔ part.header.IsWithin
        ∧ chunk = {
            oldStart := digitsValue part.header.oldStart
            oldLines := Header.countValue part.header.oldLines
            newStart := digitsValue part.header.newStart
            newLines := Header.countValue part.header.newLines
            content := String.ofList (joinLines part.rows)
            positions := addedAt (digitsValue part.header.newStart) position part.rows } := by
  simp only [Section.chunk, Except.bind_eq_ok_iff, Header.numberOf_eq_ok_iff,
    Header.countOf_eq_ok_iff]
  constructor
  · intro read
    obtain ⟨_, ⟨oldStart, rfl⟩, _, ⟨oldLines, rfl⟩, _, ⟨newStart, rfl⟩, _, ⟨newLines, rfl⟩, made⟩ := read
    exact ⟨⟨oldStart, oldLines, newStart, newLines⟩, (Except.ok.inj made).symm⟩
  · intro parts
    obtain ⟨within, rfl⟩ := parts
    exact ⟨_, ⟨within.oldStart, rfl⟩, _, ⟨within.oldLines, rfl⟩, _, ⟨within.newStart, rfl⟩, _,
      ⟨within.newLines, rfl⟩, rfl⟩

/-- The chunk of a section has the positions of its rows, the first with the number that the header
gives.
-/
theorem Section.chunk_positions {part : Section} {position : Int} {chunk : Chunk}
    (read : part.chunk position = .ok chunk)
    : chunk.positions = addedAt (digitsValue part.header.newStart) position part.rows := by
  rw [(Section.chunk_eq_ok_iff.mp read).2]

/-- The chunks of sections are that of the first one and those of the rest, which starts behind its
rows and one more header.
-/
theorem chunksFrom_cons_eq_ok_iff {position : Int} {part : Section} {rest : List Section}
    {chunks : List Chunk}
    : chunksFrom position (part :: rest) = .ok chunks
      ↔ ∃ chunk later,
          part.chunk position = .ok chunk
          ∧ chunksFrom (position + part.rows.length + 1) rest = .ok later
          ∧ chunks = chunk :: later := by
  simp only [chunksFrom, Except.bind_eq_ok_iff]
  constructor
  · rintro ⟨chunk, first, later, others, made⟩
    exact ⟨chunk, later, first, others, by cases made; rfl⟩
  · rintro ⟨chunk, later, first, others, rfl⟩
    exact ⟨chunk, first, later, others, rfl⟩

/-- Sections make chunks when the numbers of all their headers are within the limit, by induction on the
sections.
-/
theorem exists_chunksFrom_of_within {parts : List Section}
    (within : ∀ part ∈ parts, part.header.IsWithin) (position : Int)
    : ∃ chunks, chunksFrom position parts = .ok chunks := by
  induction parts generalizing position with
  | nil => exact ⟨[], rfl⟩
  | cons part rest ih =>
      obtain ⟨chunk, first⟩ : ∃ chunk, part.chunk position = .ok chunk :=
        ⟨_, Section.chunk_eq_ok_iff.mpr ⟨within part (by simp), rfl⟩⟩
      obtain ⟨later, others⟩ := ih (fun other member => within other (List.mem_cons_of_mem part member))
        (position + part.rows.length + 1)
      exact ⟨_, chunksFrom_cons_eq_ok_iff.mpr ⟨_, later, first, others, rfl⟩⟩

/-- All entries that chunks have for lines, in order. -/
def entriesOf (chunks : List Chunk) : List (Int × Ordinal) := chunks.flatMap Chunk.positions

/-- The entries of the chunks of sections are the added rows, each under its number and with its
distance from the first header, by induction on the sections.
-/
theorem mem_entriesOf_chunksFrom {parts : List Section} {position : Int} {chunks : List Chunk}
    (read : chunksFrom position parts = .ok chunks) {number : Int} {found : Ordinal}
    : (number, found) ∈ entriesOf chunks
      ↔ ∃ distance, SectionRow parts distance number ∧ found = .number (position - 1 + distance) := by
  induction parts generalizing position chunks with
  | nil =>
      cases read
      simp [entriesOf, SectionRow]
  | cons part rest ih =>
      obtain ⟨chunk, later, first, others, rfl⟩ := chunksFrom_cons_eq_ok_iff.mp read
      have inLater := ih others
      simp only [entriesOf, List.flatMap_cons, List.mem_append, Section.chunk_positions first,
        mem_addedAt_iff] at inLater ⊢
      rw [inLater]
      constructor
      · rintro (⟨before, row, rfl⟩ | ⟨distance, row, rfl⟩)
        · exact ⟨before + 1, Or.inl ⟨before, row, rfl⟩, congrArg Ordinal.number (by omega)⟩
        · exact ⟨part.rows.length + 1 + distance, Or.inr ⟨distance, row, rfl⟩, congrArg Ordinal.number (by omega)⟩
      · rintro ⟨_, ⟨before, row, rfl⟩ | ⟨distance, row, rfl⟩, rfl⟩
        · exact Or.inl ⟨before, row, congrArg Ordinal.number (by omega)⟩
        · exact Or.inr ⟨distance, row, congrArg Ordinal.number (by omega)⟩

/-- Positions grow from entry to entry. -/
def Rising (entries : List (Int × Ordinal)) : Prop :=
  entries.Pairwise fun earlier later => earlier.2.value < later.2.value

/-- The entries of the chunks of sections rise, since every section stands below the one before. -/
theorem rising_entriesOf_chunksFrom {parts : List Section} {position : Int} {chunks : List Chunk}
    (read : chunksFrom position parts = .ok chunks)
    : Rising (entriesOf chunks) := by
  induction parts generalizing position chunks with
  | nil =>
      cases read
      exact .nil
  | cons part rest ih =>
      obtain ⟨chunk, later, first, others, rfl⟩ := chunksFrom_cons_eq_ok_iff.mp read
      refine List.pairwise_append.mpr ⟨?_, ih others, ?_⟩
      · rw [Section.chunk_positions first]
        exact (addedAt_ascending _ _ _).imp And.right
      · rintro ⟨number, found⟩ earlier ⟨number', found'⟩ member
        rw [Section.chunk_positions first] at earlier
        obtain ⟨before, row, rfl⟩ := mem_addedAt_iff.mp earlier
        obtain ⟨distance, -, rfl⟩ := (mem_entriesOf_chunksFrom others).mp member
        have within := row.le.2
        simp only [Ordinal.value]
        omega

/-- No chunk of sections has two entries for one line. -/
theorem nodup_keys_chunksFrom {parts : List Section} {position : Int} {chunks : List Chunk}
    (read : chunksFrom position parts = .ok chunks)
    : ∀ chunk ∈ chunks, (Assoc.keys chunk.positions).Nodup := by
  induction parts generalizing position chunks with
  | nil =>
      cases read
      simp
  | cons part rest ih =>
      obtain ⟨chunk, later, first, others, rfl⟩ := chunksFrom_cons_eq_ok_iff.mp read
      intro other member
      rcases List.mem_cons.mp member with rfl | below
      · rw [Section.chunk_positions first]
        exact (addedAt_ascending _ _ _).nodup_keys
      · exact ih others other below

end Patch

-----------------------------------------------------------------------------------------
-- Looking a line up
-----------------------------------------------------------------------------------------

namespace ChangedFile

open PatchReview.Patch

/-- The last chunk that has an entry for a line gives its position. -/
theorem positionFor_eq_some_iff {file : ChangedFile} {line : Int} {found : Ordinal}
    : file.positionFor line = some found
      ↔ ∃ before chunk after,
          file.chunks = before ++ chunk :: after
          ∧ Assoc.get? line chunk.positions = some found
          ∧ ∀ later ∈ after, Assoc.get? line later.positions = none := by
  rw [positionFor, List.findSome?_eq_some_iff]
  constructor
  · rintro ⟨after, chunk, before, cut, taken, fresh⟩
    refine ⟨before.reverse, chunk, after.reverse, ?_, taken, ?_⟩
    · simpa using congrArg List.reverse cut
    · intro later member
      exact fresh later (List.mem_reverse.mp member)
  · rintro ⟨before, chunk, after, cut, taken, fresh⟩
    refine ⟨after.reverse, chunk, before.reverse, by simp [cut], taken, ?_⟩
    intro later member
    exact fresh later (List.mem_reverse.mp member)

/-- A line has no position when no chunk has an entry for it. -/
theorem positionFor_eq_none_iff {file : ChangedFile} {line : Int}
    : file.positionFor line = none ↔ ∀ found, (line, found) ∉ entriesOf file.chunks := by
  simp only [positionFor, List.findSome?_eq_none_iff, List.mem_reverse, Assoc.get?_eq_none_iff,
    entriesOf, List.mem_flatMap, not_exists, not_and]
  exact ⟨fun absent found chunk member => absent chunk member found,
    fun absent chunk member found => absent found chunk member⟩

/-- Entries that rise have no two positions of one value. -/
private theorem rising_inj {entries : List (Int × Ordinal)} (rising : Rising entries)
    {one two : Int × Ordinal} (first : one ∈ entries) (second : two ∈ entries)
    (same : one.2.value = two.2.value)
    : one = two := by
  let Differ (one two : Int × Ordinal) : Prop := one.2.value = two.2.value → one = two
  have upward : entries.Pairwise Differ := rising.imp fun grows same => by omega
  have downward : entries.Pairwise (flip Differ) := rising.imp fun grows same => by omega
  exact List.Pairwise.forall_of_forall_of_flip (fun _ _ _ => rfl) upward downward first second same

/-- Where entries rise and no chunk repeats a line, the position of a line is the greatest that an
entry has for it. Witness: the entry of the last chunk that has one; the entries of the chunks
before it stand below.
-/
theorem positionFor_eq_some_iff_greatest {file : ChangedFile}
    (distinct : ∀ chunk ∈ file.chunks, (Assoc.keys chunk.positions).Nodup)
    (rising : Rising (entriesOf file.chunks)) {line : Int} {found : Ordinal}
    : file.positionFor line = some found
      ↔ (line, found) ∈ entriesOf file.chunks
        ∧ ∀ other, (line, other) ∈ entriesOf file.chunks → other.value ≤ found.value := by
  have greatest {found : Ordinal} (looked : file.positionFor line = some found)
      : (line, found) ∈ entriesOf file.chunks
        ∧ ∀ other, (line, other) ∈ entriesOf file.chunks → other.value ≤ found.value := by
    obtain ⟨before, chunk, after, cut, taken, fresh⟩ := positionFor_eq_some_iff.mp looked
    have member : (line, found) ∈ chunk.positions := Assoc.mem_of_get? taken
    simp only [entriesOf, cut, List.flatMap_append, List.flatMap_cons] at rising ⊢
    refine ⟨by simp [member], ?_⟩
    intro other entry
    simp only [List.mem_append, List.mem_flatMap] at entry
    rcases entry with above | here | ⟨later, below, entry⟩
    · have grows := (List.pairwise_append.mp rising).2.2 _ (List.mem_flatMap.mpr above) (line, found)
        (by simp [member])
      exact Int.le_of_lt grows
    · have same := (Assoc.get?_eq_some_iff_mem (distinct chunk (by simp [cut]))).mpr here
      exact Int.le_of_eq (by rw [Option.some.inj (same.symm.trans taken)])
    · exact absurd entry (Assoc.get?_eq_none_iff.mp (fresh later below) other)
  refine ⟨greatest, ?_⟩
  rintro ⟨entry, bound⟩
  cases looked : file.positionFor line with
  | none => exact absurd entry (positionFor_eq_none_iff.mp looked found)
  | some other =>
      obtain ⟨entry', bound'⟩ := greatest looked
      have same : other.value = found.value := Int.le_antisymm (bound other entry') (bound' found entry)
      obtain ⟨-, rfl⟩ := Prod.mk.inj (rising_inj rising entry' entry same)
      rfl

-----------------------------------------------------------------------------------------
-- The look-up in a patch
-----------------------------------------------------------------------------------------

/-- Whoever asks a patch for a line gets the distance from its first header of the last added row
that has the number, whatever the file is beyond its chunks. Witness: the entries of the chunks are
the added rows of the sections and rise with their distances.
-/
theorem positionFor_parse {patch : String} {file : ChangedFile}
    (plain : ∀ line ∈ splitLines patch.toList, ¬ SaysBinary line)
    (read : Patch.parse patch = .ok file.chunks) {line : Int} {found : Ordinal}
    : file.positionFor line = some found
      ↔ ∃ index first,
          LastAddedRow (splitLines patch.toList) index line
          ∧ FirstHeader (splitLines patch.toList) first
          ∧ found = .number ((index : Int) - first) := by
  rw [parse_of_not_saysBinary plain] at read
  rw [positionFor_eq_some_iff_greatest (nodup_keys_chunksFrom read) (rising_entriesOf_chunksFrom read)]
  simp only [mem_entriesOf_chunksFrom read]
  constructor
  · rintro ⟨⟨distance, row, rfl⟩, greatest⟩
    have added := addedRow_sections.mpr ⟨distance, row, rfl⟩
    refine ⟨_, _, ⟨added, ?_⟩, added.firstHeader, congrArg Ordinal.number (by omega)⟩
    intro other row'
    obtain ⟨distance', found', rfl⟩ := addedRow_sections.mp row'
    have below := greatest _ ⟨distance', found', rfl⟩
    simp only [Ordinal.value] at below
    omega
  · rintro ⟨index, first, ⟨added, last⟩, header, rfl⟩
    obtain ⟨distance, row, rfl⟩ := addedRow_sections.mp added
    obtain rfl := header.unique added.firstHeader
    refine ⟨⟨distance, row, congrArg Ordinal.number (by omega)⟩, ?_⟩
    rintro _ ⟨distance', row', rfl⟩
    have below := last _ (addedRow_sections.mpr ⟨distance', row', rfl⟩)
    simp only [Ordinal.value]
    omega

/-- A line has a position just when some added row has its number. -/
theorem positionFor_parse_isSome {patch : String} {file : ChangedFile}
    (plain : ∀ line ∈ splitLines patch.toList, ¬ SaysBinary line)
    (read : Patch.parse patch = .ok file.chunks) {line : Int}
    : (file.positionFor line).isSome ↔ ∃ index, AddedRow (splitLines patch.toList) index line := by
  constructor
  · intro present
    obtain ⟨found, looked⟩ := Option.isSome_iff_exists.mp present
    obtain ⟨index, -, row, -, -⟩ := (positionFor_parse plain read).mp looked
    exact ⟨index, row.1⟩
  · rintro ⟨_, row⟩
    obtain ⟨distance, row, -⟩ := addedRow_sections.mp row
    cases looked : file.positionFor line with
    | some found => rfl
    | none =>
        rw [parse_of_not_saysBinary plain] at read
        have entry := (mem_entriesOf_chunksFrom read).mpr ⟨distance, row, rfl⟩
        exact absurd entry (positionFor_eq_none_iff.mp looked _)

end ChangedFile

end PatchReview
