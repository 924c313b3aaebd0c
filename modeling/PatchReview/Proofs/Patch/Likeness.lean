import Mathlib.Data.List.Forall2
import PatchReview.Proofs.Patch.Stretches

/-! What chunks depend on. Of a row only its first character counts for the numbers and the positions of
chunks, but for a notice about binary files: that one counts wherever in a patch it stands.
-/

namespace PatchReview

/-- A chunk as far as it places lines. -/
def Chunk.withoutContent (chunk : Chunk) : Chunk := { chunk with content := "" }

namespace Patch

open PatchReview.Text

-----------------------------------------------------------------------------------------
-- Lines that look alike
-----------------------------------------------------------------------------------------

/-- (Alike first second) says of two lines that they are the same header, or rows with the same first
character.
-/
inductive Alike : Line → Line → Prop
  | header {first second header} (spelled : Header.Spelled first header)
    (again : Header.Spelled second header)
    : Alike first second
  | row {first second} (plain : IsPlain first) (plainToo : IsPlain second)
    (head : first.head? = second.head?)
    : Alike first second

/-- Two rows start with the same character, or both are empty. -/
abbrev SameHead (first second : Line) : Prop := first.head? = second.head?

/-- Two sections have the same header above rows that start alike. -/
structure AlikeSections (first second : Section) : Prop where
  header : first.header = second.header
  rows : List.Forall₂ SameHead first.rows second.rows

/-- A line says of binary files that they differ. -/
def HasNotice (lines : List Line) : Prop := ∃ line ∈ lines, SaysBinary line

/-- Lines that look alike have headers at the same places. -/
theorem forall_isPlain_iff {lines others : List Line} (alike : List.Forall₂ Alike lines others)
    : (∀ line ∈ lines, IsPlain line) ↔ ∀ line ∈ others, IsPlain line := by
  induction alike with
  | nil => simp
  | cons here _ ih =>
      rw [List.forall_mem_cons, List.forall_mem_cons, ih]
      apply and_congr_left
      intro
      cases here with
      | header spelled again =>
          exact ⟨fun plain => absurd spelled (plain _), fun plain => absurd again (plain _)⟩
      | row plain plainToo _ => exact ⟨fun _ => plainToo, fun _ => plain⟩

/-- Lines that look alike have alike sections, by induction on the lines. -/
theorem alike_sections {lines others : List Line} (alike : List.Forall₂ Alike lines others)
    : List.Forall₂ SameHead (sections lines).1 (sections others).1
      ∧ List.Forall₂ AlikeSections (sections lines).2 (sections others).2 := by
  induction alike with
  | nil => exact ⟨.nil, .nil⟩
  | @cons first second _ _ here _ ih =>
      obtain ⟨lead, later⟩ := ih
      cases here with
      | header spelled again =>
          simp only [sections, Header.ofLine?_spelled spelled, Header.ofLine?_spelled again]
          exact ⟨.nil, .cons ⟨rfl, lead⟩ later⟩
      | row plain plainToo head =>
          simp only [sections, Header.ofLine?_eq_none_iff.mpr plain,
            Header.ofLine?_eq_none_iff.mpr plainToo]
          exact ⟨.cons head lead, later⟩

-----------------------------------------------------------------------------------------
-- Chunks without their contents
-----------------------------------------------------------------------------------------

/-- The kind of a row is told by its first character. -/
theorem Row.ofLine_congr {first second : Line} (head : SameHead first second)
    : Row.ofLine first = Row.ofLine second := by
  cases first with
  | nil =>
      have empty : second = [] := List.head?_eq_none_iff.mp head.symm
      rw [empty]
  | cons c text =>
      obtain ⟨rest, rfl⟩ := List.head?_eq_some_iff.mp head.symm
      unfold Row.ofLine
      split <;> split <;> simp_all

/-- Rows that start alike have the same positions, by induction on the rows. -/
theorem addedAt_congr {rows others : List Line} (alike : List.Forall₂ SameHead rows others)
    (line position : Int)
    : addedAt line position rows = addedAt line position others := by
  induction alike generalizing line position with
  | nil => rfl
  | cons head _ ih => simp only [addedAt, Row.ofLine_congr head, ih]

/-- Alike sections make the same chunk up to its content, or fail alike. -/
theorem AlikeSections.chunk {part other : Section} (alike : AlikeSections part other) (position : Int)
    : (part.chunk position).map Chunk.withoutContent
      = (other.chunk position).map Chunk.withoutContent := by
  unfold Section.chunk
  rw [alike.header]
  cases Header.numberOf other.header.oldStart with
  | error fault => rfl
  | ok oldStart =>
      cases Header.countOf other.header.oldLines with
      | error fault => rfl
      | ok oldLines =>
          cases Header.numberOf other.header.newStart with
          | error fault => rfl
          | ok newStart =>
              cases Header.countOf other.header.newLines with
              | error fault => rfl
              | ok newLines =>
                  have positions := addedAt_congr alike.rows newStart position
                  show Except.ok (Chunk.withoutContent _) = Except.ok (Chunk.withoutContent _)
                  simp only [Chunk.withoutContent, positions]

/-- Chunks are read without their contents section by section. -/
theorem chunksFrom_cons_withoutContent (position : Int) (part : Section) (rest : List Section)
    : (chunksFrom position (part :: rest)).map (List.map Chunk.withoutContent)
      = (part.chunk position).map Chunk.withoutContent >>= fun chunk =>
          ((chunksFrom (position + part.rows.length + 1) rest).map
            (List.map Chunk.withoutContent)).map (List.cons chunk) := by
  rw [chunksFrom]
  cases part.chunk position with
  | error fault => rfl
  | ok chunk => cases chunksFrom (position + part.rows.length + 1) rest <;> rfl

/-- Alike sections make the same chunks up to their contents, or fail alike, by induction on the
sections.
-/
theorem chunksFrom_congr {parts others : List Section} (alike : List.Forall₂ AlikeSections parts others)
    (position : Int)
    : (chunksFrom position parts).map (List.map Chunk.withoutContent)
      = (chunksFrom position others).map (List.map Chunk.withoutContent) := by
  induction alike generalizing position with
  | nil => rfl
  | cons here _ ih =>
      rw [chunksFrom_cons_withoutContent, chunksFrom_cons_withoutContent, here.chunk, ih,
        here.rows.length_eq]

-----------------------------------------------------------------------------------------
-- Patches that look alike
-----------------------------------------------------------------------------------------

/-- Lines without a header have no section, by induction on the lines. -/
theorem sections_eq_nil_iff {lines : List Line}
    : (sections lines).2 = [] ↔ ∀ line ∈ lines, IsPlain line := by
  induction lines with
  | nil => simp [sections]
  | cons line rest ih =>
      rw [List.forall_mem_cons]
      cases read : Header.ofLine? line with
      | none =>
          have plain := Header.ofLine?_eq_none_iff.mp read
          simp only [sections, read, ih]
          exact ⟨fun later => ⟨plain, later⟩, And.right⟩
      | some header =>
          have spelled := Header.spelled_of_ofLine? read
          simp only [sections, read, reduceCtorEq, false_iff, not_and]
          intro plain
          exact absurd spelled (plain header)

/-- Only from no sections no chunk is read. -/
theorem chunksFrom_eq_nil_iff {position : Int} {parts : List Section}
    : chunksFrom position parts = .ok [] ↔ parts = [] := by
  cases parts with
  | nil => simp [chunksFrom]
  | cons part rest => simp [chunksFrom_cons_eq_ok_iff]

/-- A patch with a notice has no chunks. -/
theorem parse_of_hasNotice {patch : String} (notice : HasNotice (splitLines patch.toList))
    : parse patch = .ok [] := by
  obtain ⟨line, member, told⟩ := notice
  have found : (splitLines patch.toList).any isBinaryNotice = true :=
    List.any_eq_true.mpr ⟨line, member, isBinaryNotice_iff.mpr told⟩
  simp [parse, found]

theorem parse_of_not_hasNotice {patch : String} (plain : ¬ HasNotice (splitLines patch.toList))
    : parse patch = chunksFrom 1 (sections (splitLines patch.toList)).2 :=
  parse_of_not_saysBinary fun line member told => plain ⟨line, member, told⟩

/-- A patch is read without a chunk when it has a notice or no header. -/
theorem parse_eq_nil_iff {patch : String}
    : parse patch = .ok []
      ↔ HasNotice (splitLines patch.toList) ∨ ∀ line ∈ splitLines patch.toList, IsPlain line := by
  by_cases notice : HasNotice (splitLines patch.toList)
  · simp [parse_of_hasNotice notice, notice]
  · rw [parse_of_not_hasNotice notice, chunksFrom_eq_nil_iff, sections_eq_nil_iff]
    simp [notice]

theorem map_withoutContent_eq_nil_iff {result : Except Integer.Fault (List Chunk)}
    : result.map (List.map Chunk.withoutContent) = .ok [] ↔ result = .ok [] := by
  cases result <;> simp [Except.map]

/-- A patch with a notice is placed as one without it only where there is nothing to place. -/
theorem parse_eq_notice_iff {patch other : String} (notice : HasNotice (splitLines patch.toList))
    (plain : ¬ HasNotice (splitLines other.toList))
    : (parse other).map (List.map Chunk.withoutContent)
        = (parse patch).map (List.map Chunk.withoutContent)
      ↔ ∀ line ∈ splitLines other.toList, IsPlain line := by
  have empty : (parse patch).map (List.map Chunk.withoutContent) = .ok [] :=
    map_withoutContent_eq_nil_iff.mpr (parse_of_hasNotice notice)
  rw [empty, map_withoutContent_eq_nil_iff, parse_eq_nil_iff]
  simp [plain]

/-- Patches whose lines look alike are read to the same chunks up to their contents, or fail alike, unless
one of them has a notice, the other has none and there are headers. A patch with a header is read without
a chunk exactly when one of its lines is a notice.
-/
theorem parse_congr_iff {patch other : String}
    (alike : List.Forall₂ Alike (splitLines patch.toList) (splitLines other.toList))
    : ((parse patch).map (List.map Chunk.withoutContent)
          = (parse other).map (List.map Chunk.withoutContent)
        ↔ (∀ line ∈ splitLines patch.toList, IsPlain line)
          ∨ (HasNotice (splitLines patch.toList) ↔ HasNotice (splitLines other.toList)))
      ∧ ((∃ line ∈ splitLines patch.toList, IsHeader line) →
          (parse patch = .ok [] ↔ HasNotice (splitLines patch.toList))) := by
  have plain_iff := forall_isPlain_iff alike
  refine ⟨?_, ?_⟩
  · by_cases notice : HasNotice (splitLines patch.toList) <;>
      by_cases noticeToo : HasNotice (splitLines other.toList)
    · simp [parse_of_hasNotice notice, parse_of_hasNotice noticeToo, notice, noticeToo]
    · rw [eq_comm, parse_eq_notice_iff notice noticeToo, plain_iff]
      simp [notice, noticeToo]
    · rw [parse_eq_notice_iff noticeToo notice]
      simp [notice, noticeToo]
    · rw [parse_of_not_hasNotice notice, parse_of_not_hasNotice noticeToo]
      have same := chunksFrom_congr (alike_sections alike).2 1
      simp [same, notice, noticeToo]
  · intro header
    obtain ⟨line, member, header, spelled⟩ := header
    rw [parse_eq_nil_iff]
    apply or_iff_left
    intro plain
    exact plain line member header spelled

/-- A patch whose added row says what a notice says. -/
def noticeRow : String := "@@ -0,0 +1 @@\n+Binary files a and b differ"

/-- The same patch with another text in the row. -/
def textRow : String := "@@ -0,0 +1 @@\n+x"

/-- The two patches look alike. -/
theorem alike_noticeRow
    : List.Forall₂ Alike (splitLines noticeRow.toList) (splitLines textRow.toList) := by
  have spelled : Header.Spelled "@@ -0,0 +1 @@".toList ⟨[0], some [0], [1], none⟩ :=
    Header.spelled_of_ofLine? (by decide +kernel)
  have lines : splitLines noticeRow.toList
      = ["@@ -0,0 +1 @@".toList, "+Binary files a and b differ".toList] := by
    decide +kernel
  have others : splitLines textRow.toList = ["@@ -0,0 +1 @@".toList, "+x".toList] := by decide +kernel
  rw [lines, others]
  exact .cons (.header spelled spelled)
    (.cons (.row (isPlain_cons (by decide)) (isPlain_cons (by decide)) rfl) .nil)

theorem parse_congr_noticeRow
    : List.Forall₂ Alike (splitLines noticeRow.toList) (splitLines textRow.toList)
      ∧ ((parse noticeRow).map (List.map Chunk.withoutContent)
            = (parse textRow).map (List.map Chunk.withoutContent)
          ↔ (∀ line ∈ splitLines noticeRow.toList, IsPlain line)
            ∨ (HasNotice (splitLines noticeRow.toList) ↔ HasNotice (splitLines textRow.toList)))
      ∧ ((∃ line ∈ splitLines noticeRow.toList, IsHeader line) →
          (parse noticeRow = .ok [] ↔ HasNotice (splitLines noticeRow.toList))) :=
  ⟨alike_noticeRow, parse_congr_iff alike_noticeRow⟩

/-- The text of an added row takes all chunks from a patch. -/
theorem not_parse_congr_noticeRow
    : List.Forall₂ Alike (splitLines noticeRow.toList) (splitLines textRow.toList)
      ∧ (parse noticeRow).map (List.map Chunk.withoutContent)
        ≠ (parse textRow).map (List.map Chunk.withoutContent) := by
  refine ⟨alike_noticeRow, fun same => ?_⟩
  have counts : ((parse noticeRow).map (List.map Chunk.withoutContent)).map List.length
      ≠ ((parse textRow).map (List.map Chunk.withoutContent)).map List.length := by
    decide +kernel
  exact counts (congrArg (Except.map List.length) same)

end Patch

end PatchReview
