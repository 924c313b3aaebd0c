import PatchReview.Proofs.Linter.EngineRuns
import PatchReview.Proofs.Linter.Reviews
import PatchReview.Proofs.Patch.PositionLookup

/-! What a linter makes of findings, whatever they are: it always finishes a review, since the positions of
valid chunks and the lines of admitted findings count from one. The review has the violations that are gathered
from the findings on lines with a position, and other findings leave nothing.
-/

namespace PatchReview

variable {σ : Type}

-----------------------------------------------------------------------------------------
-- Positions of valid chunks
-----------------------------------------------------------------------------------------

/-- A chunk is valid when it can be made of numbers and positions. -/
def Chunk.IsValid (chunk : Chunk) : Prop :=
  ∃ oldStart oldLines newStart newLines content positions others,
    Chunk.ofNumbers oldStart oldLines newStart newLines content positions others = .ok chunk

/-- The positions of a valid chunk count from one. -/
theorem Chunk.IsValid.position_pos {chunk : Chunk} (valid : chunk.IsValid) {line : Int} {position : Ordinal}
    (found : Assoc.get? line chunk.positions = some position)
    : 0 < position.value := by
  obtain ⟨_, _, _, _, _, positions, _, made⟩ := valid
  unfold Chunk.ofNumbers at made
  split at made
  · cases made
  split at made
  · cases made
  split at made
  · cases made
  · next counted =>
      -- Had one of the positions not counted from one, the chunk would have been refused.
      cases made
      simp only [Bool.or_eq_true, List.any_eq_true, decide_eq_true_eq, not_or, not_exists, not_and] at counted
      exact Int.not_le.mp (counted.1 (line, position) (Assoc.mem_of_get? found))

/-- So do the positions that a file of valid chunks has for lines. -/
theorem ChangedFile.position_pos {file : ChangedFile} (valid : ∀ chunk ∈ file.chunks, chunk.IsValid)
    {line : Int} {position : Ordinal} (found : file.positionFor line = some position)
    : 0 < position.value := by
  obtain ⟨before, chunk, after, cut, taken, -⟩ := positionFor_eq_some_iff.mp found
  exact (valid chunk (by simp [cut])).position_pos taken

-----------------------------------------------------------------------------------------
-- Recorded findings
-----------------------------------------------------------------------------------------

namespace FileReview

variable {positionFor : Int → Option Ordinal}

/-- A line from one on gets a violation at a position from one on. -/
theorem exists_place {line position : Ordinal} (counted : 0 < line.value) (placed : 0 < position.value)
    (review : FileReview)
    : ∃ next, review.place line position = .ok next := by
  by_cases known : line.value ∈ review.violations.map (·.line.value)
  · exact ⟨review, place_of_mem known position⟩
  · rw [place_of_not_mem known, Violation.ofParts, if_neg (Int.not_le.mpr counted),
      if_neg (Int.not_le.mpr placed)]
    exact ⟨_, rfl⟩

/-- A finding on a line from one on is recorded at any such position, or at none. -/
theorem exists_addFinding {finding : Finding} {position : Option Ordinal} (counted : 0 < finding.line.value)
    (placed : ∀ found, position = some found → 0 < found.value) (review : FileReview)
    : ∃ next, review.addFinding finding position = .ok next := by
  cases position with
  | none => exact ⟨review, rfl⟩
  | some position =>
      obtain ⟨next, put⟩ := exists_place counted (placed position rfl) review
      exact ⟨_, by rw [addFinding, put]; rfl⟩

/-- Findings on lines from one on are all recorded, by induction on the findings. -/
theorem exists_addFindings {found : List Finding} (counted : ∀ finding ∈ found, 0 < finding.line.value)
    (placed : ∀ line position, positionFor line = some position → 0 < position.value) (review : FileReview)
    : ∃ result, review.addFindings positionFor found = .ok result := by
  induction found generalizing review with
  | nil => exact ⟨review, rfl⟩
  | cons finding rest ih =>
      obtain ⟨here, later⟩ := List.forall_mem_cons.mp counted
      obtain ⟨next, added⟩ := exists_addFinding here (placed finding.line.value) review
      obtain ⟨result, others⟩ := ih later next
      exact ⟨result, Except.bind_eq_ok_iff.mpr ⟨next, added, others⟩⟩

/-- Findings on lines without a position can be left out, by induction on the findings. -/
theorem addFindings_filter (found : List Finding) (review : FileReview)
    : review.addFindings positionFor (found.filter fun finding => (positionFor finding.line.value).isSome)
      = review.addFindings positionFor found := by
  induction found generalizing review with
  | nil => rfl
  | cons finding rest ih =>
      cases present : positionFor finding.line.value with
      | none =>
          rw [List.filter_cons_of_neg (by simp [present]), ih, addFindings, present]
          rfl
      | some position =>
          rw [List.filter_cons_of_pos (by simp [present]), addFindings, addFindings]
          exact bind_congr fun next => ih next

/-- Where no line has a position, nothing is gathered. -/
theorem Gathers.eq_nil {filename : Json} {found : List Finding} {violations : List Violation}
    (gathers : Gathers positionFor filename found violations) (none : ∀ line, positionFor line = none)
    : violations = [] := by
  have lines := gathers.lines
  simpa [placedLines, none] using lines

end FileReview

-----------------------------------------------------------------------------------------
-- Concluded reviews
-----------------------------------------------------------------------------------------

/-- (review.Builds linter file found) says of a review that it is the linter's for the file, complete and kept,
with the violations that are gathered from what was found: for each line that has a position, in the order in
which the lines were first found, at that position and with the messages found on it, each once.
-/
structure FileReview.Builds (review : FileReview) (linter : Linter) (file : ChangedFile)
    (found : List Finding)
    : Prop where
  finishes : review.Finishes linter file
  gathers : FileReview.Gathers file.positionFor (.str file.filename) found review.violations
  none : file.chunks = [] → review.violations = []

/-- (Concludes linter outside file found) says what a linter does with findings: it builds a review and keeps
it, and takes no notice of findings on lines without a position.
-/
structure Linter.Concludes (linter : Linter) (outside : Outside σ) (file : ChangedFile)
    (found : List Finding)
    : Prop where
  /-- A review of the file does this with what the engine found. -/
  reviewed : ∀ session reached, (linter.findings outside file).on session.outside = (.ok found, reached) →
    (linter.review outside file).on session
      = (linter.conclude outside file found).on ⟨reached, session.store⟩
  built : ∀ session, ∃ review after,
    (linter.conclude outside file found).on session = (.ok review, after)
    ∧ review.Builds linter file found
    ∧ after.store = session.store.save review.key review
  unmapped : linter.conclude outside file found
    = linter.conclude outside file
        (found.filter fun finding => (file.positionFor finding.line.value).isSome)
  /-- The last chunk that has a position for a line gives it. -/
  positioned : ∀ line position, file.positionFor line = some position
    ↔ ∃ before chunk after,
        file.chunks = before ++ chunk :: after
        ∧ Assoc.get? line chunk.positions = some position
        ∧ ∀ later ∈ after, Assoc.get? line later.positions = none

/-- A linter concludes its review of a file of valid chunks, whatever was found. -/
theorem Linter.concludes_of_valid {linter : Linter} {outside : Outside σ} {file : ChangedFile}
    {found : List Finding} {filename : String} {content : Json} {chunks : List Chunk} {status : FileStatus}
    (made : ChangedFile.ofParts filename content chunks status = .ok file)
    (valid : ∀ chunk ∈ chunks, chunk.IsValid) (admitted : ∀ finding ∈ found, finding.IsAdmitted)
    : linter.Concludes outside file found := by
  have same : file.chunks = chunks := by
    unfold ChangedFile.ofParts at made
    split at made
    · cases made
    · cases made
      rfl
  subst same
  refine ⟨?_, fun session => ?_, ?_, fun _ _ => ChangedFile.positionFor_eq_some_iff⟩
  · intro session reached ran
    rw [review_eq, Attempt.on_bind, Attempt.on_outside, ran]
  · obtain ⟨gathered, recorded⟩ := FileReview.exists_addFindings
      (fun finding member => (Finding.isAdmitted_iff.mp (admitted finding member)).1)
      (fun _ _ => ChangedFile.position_pos valid)
      (FileReview.start (.str file.filename) linter.kind.name)
    obtain ⟨review, after, concluded, violations, finishes, kept⟩ := on_conclude recorded outside session
    obtain ⟨-, gathers⟩ := FileReview.gathers_addFindings recorded
    rw [← violations] at gathers
    refine ⟨review, after, concluded, ⟨finishes, gathers, fun empty => gathers.eq_nil ?_⟩, kept⟩
    intro line
    simp [ChangedFile.positionFor, empty]
  · rw [conclude, conclude, FileReview.addFindings_filter]

/-- Chunks that both have a position for the second line. -/
def overlappingChunks : List Chunk :=
  [⟨0, 0, 1, 2, "", [(1, .number 1), (2, .number 2)], []⟩, ⟨1, 0, 2, 1, "", [(2, .number 5)], []⟩]

/-- Findings on the second line, on one without a position, on the first and on the second again. -/
def mixedFindings : List Finding :=
  [⟨.number 2, [.str "m"], .null, .null⟩, ⟨.number 7, [.str "u"], .null, .null⟩,
    ⟨.truth true, [.str "n"], .null, .null⟩, ⟨.number 2, [.str "k", .str "m"], .null, .null⟩]

/-- A file with these chunks, a linter without a pointer document, and a world in which all fails. -/
def overlappingFile : ChangedFile := ⟨"a.coffee", .str "x", overlappingChunks, .added⟩

def unpointedLinter : Linter where
  kind := .coffeeScript
  switches := .empty
  build := ⟨.str "o/r", "abc", ⟨"o", false, .null⟩, none⟩
  engine := .standard
  pointer := none

def failingOutside : Outside Unit where
  host := {
    pullRequest := fun _ _ => throw .endless
    changedFiles := fun _ _ => throw .endless
    branchHead := fun _ => throw .endless
    fetchFile := fun _ _ _ => throw .endless }
  runEngine _ := return .absent
  now := return 0

theorem concludes_mixedFindings
    : (∀ chunk ∈ overlappingChunks, chunk.IsValid)
      ∧ (∀ finding ∈ mixedFindings, finding.IsAdmitted)
      ∧ unpointedLinter.Concludes failingOutside overlappingFile mixedFindings := by
  have valid : ∀ chunk ∈ overlappingChunks, chunk.IsValid := by
    refine List.forall_mem_cons.mpr ⟨?_, List.forall_mem_singleton.mpr ?_⟩
    · exact ⟨0, 0, 1, 2, "", [(1, .number 1), (2, .number 2)], [], rfl⟩
    · exact ⟨1, 0, 2, 1, "", [(2, .number 5)], [], rfl⟩
  have admitted : ∀ finding ∈ mixedFindings, finding.IsAdmitted := by
    simp [mixedFindings, Finding.isAdmitted_iff, Ordinal.value]
  have made : ChangedFile.ofParts "a.coffee" (.str "x") overlappingChunks .added = .ok overlappingFile := rfl
  exact ⟨valid, admitted, Linter.concludes_of_valid made valid admitted⟩

end PatchReview
