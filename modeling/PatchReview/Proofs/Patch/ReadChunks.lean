import PatchReview.Proofs.Number.Numerals
import PatchReview.Proofs.Patch.Stretches

/-! Chunks that are read from patches. Their numbers are short, and their positions are numbers from one on,
under lines that differ.
-/

namespace PatchReview

open PatchReview.Text

/-- A chunk as patches give it: its numbers are short, it has positions for lines alone, these are numbers
from one on, and no line has two.
-/
structure Chunk.IsRead (chunk : Chunk) : Prop where
  oldStart : Integer.IsShort chunk.oldStart
  oldLines : Integer.IsShort chunk.oldLines
  newStart : Integer.IsShort chunk.newStart
  newLines : Integer.IsShort chunk.newLines
  distinct : (Assoc.keys chunk.positions).Nodup
  numbered : ∀ entry ∈ chunk.positions, ∃ position, entry.2 = .number position ∧ 0 < position
  others : chunk.others = []

namespace Patch

/-- Digits that are spelled within the limit have a short value. -/
theorem isShort_of_spelled {text : List Char} {digits : List Nat} (spelled : Header.NumberSpelled text digits)
    (within : digits.length ≤ Integer.maxDigits)
    : Integer.IsShort (digitsValue digits : Nat) := by
  have small : ∀ digit ∈ digits, digit < 10 := by
    intro digit member
    rw [← spelled.2.2] at member
    obtain ⟨c, _, value⟩ := List.mem_filterMap.mp member
    exact Numeral.lt_of_digitValue? value
  have bound := Numeral.digitsValue_lt small
  exact Nat.lt_of_lt_of_le bound (Nat.pow_le_pow_right (by decide) within)

theorem isShort_of_countSpelled {text : List Char} {count : Option (List Nat)}
    (spelled : Header.CountSpelled text count) (within : Header.CountWithin count)
    : Integer.IsShort (Header.countValue count : Nat) := by
  cases spelled with
  | absent => exact Nat.one_lt_pow (by decide) (by decide)
  | given number => exact isShort_of_spelled number (within _ rfl)

/-- The chunk of a section with a spelled header is as patches give it. -/
theorem isRead_of_chunk {part : Section} {position : Int} {chunk : Chunk}
    (spelled : ∃ line, Header.Spelled line part.header) (positive : 0 < position)
    (read : part.chunk position = .ok chunk)
    : chunk.IsRead := by
  obtain ⟨within, rfl⟩ := Section.chunk_eq_ok_iff.mp read
  obtain ⟨line, spelled⟩ := spelled
  cases spelled with
  | line _ _ _ oldAt oldCount newAt newCount =>
      refine {
        oldStart := isShort_of_spelled oldAt within.oldStart
        oldLines := isShort_of_countSpelled oldCount within.oldLines
        newStart := isShort_of_spelled newAt within.newStart
        newLines := isShort_of_countSpelled newCount within.newLines
        distinct := (addedAt_ascending _ _ _).nodup_keys
        numbered := ?_
        others := rfl }
      intro entry member
      obtain ⟨before, _, found⟩ := mem_addedAt_iff.mp member
      exact ⟨position + before, found, by omega⟩

/-- The chunks of sections with spelled headers are as patches give them, by induction on the sections. -/
theorem isRead_of_chunksFrom {parts : List Section} {position : Int} {chunks : List Chunk}
    (spelled : ∀ part ∈ parts, ∃ line, Header.Spelled line part.header) (positive : 0 < position)
    (read : chunksFrom position parts = .ok chunks)
    : ∀ chunk ∈ chunks, chunk.IsRead := by
  induction parts generalizing position chunks with
  | nil =>
      cases read
      exact List.forall_mem_nil _
  | cons part rest ih =>
      obtain ⟨chunk, later, first, others, rfl⟩ := chunksFrom_cons_eq_ok_iff.mp read
      obtain ⟨here, behind⟩ := List.forall_mem_cons.mp spelled
      exact List.forall_mem_cons.mpr
        ⟨isRead_of_chunk here positive first, ih behind (by omega) others⟩

/-- All chunks of a patch are as patches give them. -/
theorem isRead_of_parse {patch : String} {chunks : List Chunk} (read : parse patch = .ok chunks)
    : ∀ chunk ∈ chunks, chunk.IsRead := by
  unfold parse at read
  dsimp only at read
  split at read
  · cases read
    exact List.forall_mem_nil _
  · obtain ⟨_, _, _, laid⟩ := laid_sections (splitLines patch.toList)
    refine isRead_of_chunksFrom ?_ (by decide) read
    intro part member
    obtain ⟨line, _, spelled⟩ := laid.spelled part member
    exact ⟨line, spelled⟩

end Patch

end PatchReview
