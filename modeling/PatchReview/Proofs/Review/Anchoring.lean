import PatchReview.Proofs.Patch.PositionLookup
import PatchReview.Proofs.Review.Violations

/-! Violations stand on the added rows of a patch: each on a line that was reported and that the patch
adds, at the place of the last row that adds it.
-/

namespace PatchReview

open PatchReview.Patch PatchReview.Text

/-- The messages reported for a line, in order. -/
def messagesFor (line : Int) (reports : List (Int × Json)) : List Json :=
  (reports.filter (·.1 == line)).map Prod.snd

/-- (Anchored lines reports violations) says what violations there are when `reports` is reported about
a file whose patch has these lines.
-/
structure Anchored (lines : List Line) (reports : List (Int × Json)) (violations : List Violation)
    : Prop where
  /-- There is a violation on the lines that are reported and added, and on no others. -/
  onLine : ∀ number,
    (∃ violation ∈ violations, violation.line.value = number)
      ↔ (∃ message, (number, message) ∈ reports) ∧ ∃ index, AddedRow lines index number
  /-- A violation stands as far below the first header as the last row that adds its line. -/
  position : ∀ violation ∈ violations,
    ∃ index first,
      LastAddedRow lines index violation.line.value
      ∧ FirstHeader lines first
      ∧ violation.position = .number ((index : Int) - first)
  /-- No line has two violations. -/
  single : (violations.map (·.line.value)).Nodup
  /-- The violations stand in the order in which their lines were first reported. -/
  order : List.Sublist (violations.map (·.line.value)) (reports.map Prod.fst).eraseDups
  /-- A violation has the messages reported for its line, each once and in the order of arrival. -/
  messages : ∀ violation ∈ violations,
    violation.messages = (messagesFor violation.line.value reports).eraseDups

/-- What findings say is what was reported, line by line. -/
theorem messagesOn_eq_messagesFor {found : List Finding} {reports : List (Int × Json)}
    (same : found.map (fun finding => (finding.line.value, finding.messages))
      = reports.map fun report => (report.1, [report.2]))
    (line : Int)
    : FileReview.messagesOn line found = messagesFor line reports := by
  induction found generalizing reports with
  | nil =>
      obtain rfl := List.map_eq_nil_iff.mp same.symm
      rfl
  | cons finding rest ih =>
      cases reports with
      | nil => cases same
      | cons report later =>
          obtain ⟨here, below⟩ := List.cons.inj same
          obtain ⟨line_eq, messages_eq⟩ := Prod.mk.inj here
          have others := ih below
          simp only [FileReview.messagesOn, messagesFor, List.filter_cons, line_eq] at others ⊢
          by_cases taken : (report.1 == line) = true
          · simp only [taken, if_true, List.flatMap_cons, messages_eq, others, List.map_cons,
              List.singleton_append]
          · simp only [taken, Bool.false_eq_true, if_false, others]

/-- Violations gathered from findings about a file stand on its patch. Witness: a line has a position
just when it is added, and then that of the last row that adds it.
-/
theorem anchored_of_gathers {patch : String} {file : ChangedFile} {filename : Json}
    {found : List Finding} {reports : List (Int × Json)} {violations : List Violation}
    (plain : ∀ line ∈ splitLines patch.toList, ¬ SaysBinary line)
    (read : Patch.parse patch = .ok file.chunks)
    (same : found.map (fun finding => (finding.line.value, finding.messages))
      = reports.map fun report => (report.1, [report.2]))
    (gathered : FileReview.Gathers file.positionFor filename found violations)
    : Anchored (splitLines patch.toList) reports violations := by
  have lines_eq : found.map (·.line.value) = reports.map Prod.fst := by
    simpa [Function.comp_def] using congrArg (List.map Prod.fst) same
  have lines : violations.map (·.line.value)
      = (reports.map Prod.fst).eraseDups.filter fun line => (file.positionFor line).isSome := by
    rw [gathered.lines, FileReview.placedLines, lines_eq]
  refine ⟨?_, ?_, ?_, ?_, ?_⟩
  · intro number
    have among : (∃ violation ∈ violations, violation.line.value = number)
        ↔ number ∈ violations.map (·.line.value) := by
      simp
    rw [among, lines, List.mem_filter, List.mem_eraseDups,
      ChangedFile.positionFor_parse_isSome plain read]
    simp
  · intro violation member
    exact (ChangedFile.positionFor_parse plain read).mp (gathered.agree violation member).placed
  · rw [lines]
    exact (nodup_eraseDups _).filter _
  · rw [lines]
    exact List.filter_sublist
  · intro violation member
    rw [(gathered.agree violation member).messages, messagesOn_eq_messagesFor same]

end PatchReview
