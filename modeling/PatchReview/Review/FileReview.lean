import PatchReview.Review.Finding

/-!
File reviews: the violations one linter found on the changed lines of one file. A line has at most
one violation, which gathers the messages of all findings on it.
-/

namespace PatchReview

/-- The messages on one changed line, with its position in the patch. The file is named as the
review names it. -/
structure Violation where
  filename : Json
  line : Ordinal
  position : Ordinal
  messages : List Json

namespace Violation

/-- A violation without messages on a line and at a position from one on. -/
def ofParts (filename : Json) (line position : Ordinal) : Except Refusal Violation :=
  if line.value ≤ 0 then .error .findingLine
  else if position.value ≤ 0 then .error .violationPosition
  else .ok ⟨filename, line, position, []⟩

/-- Puts a message at the end unless an equal one is there. -/
def addMessage (messages : List Json) (message : Json) : List Json :=
  if messages.any (Json.same message) then messages else messages ++ [message]

/-- Adds messages in order, each once. -/
def addMessages (violation : Violation) (messages : List Json) : Violation :=
  { violation with messages := messages.foldl addMessage violation.messages }

/-- The fields of a violation. -/
def form : Form Json :=
  [("filename", none), ("line_number", none), ("patch_position", none),
    ("messages", some (.arr []))]

/-- The filled form of a violation given as plain values. -/
def fillIn (given : Json.Fields) : Except Failure Json.Fields := do
  let fields ← form.fill given
  if ← (Json.getD fields "line_number" .null).isAtMost 0 then throw (.refused .findingLine)
  if ← (Json.getD fields "patch_position" .null).isAtMost 0 then
    throw (.refused .violationPosition)
  return fields

/-- A violation as JSON. -/
def toJson (violation : Violation) : Json := .obj [
  ("filename", violation.filename), ("line_number", violation.line.toJson),
  ("patch_position", violation.position.toJson), ("messages", .arr violation.messages)]

end Violation

/-- The review of one file by one linter, both named as the caller does. -/
structure FileReview where
  filename : Json
  linter : Json
  violations : List Violation
  /-- When the review was complete, in seconds. -/
  completedAt : Option Int
  persisted : Bool

namespace FileReview

/-- A review under way without violations. -/
def start (filename linter : Json) : FileReview := ⟨filename, linter, [], none, false⟩

/-- Whether the review is complete. -/
def isCompleted (review : FileReview) : Bool := review.completedAt.isSome

/-- The violation on a line. -/
def violationAt (review : FileReview) (line : Int) : Option Violation :=
  review.violations.find? fun violation => violation.line.value == line

/-- Adds messages to the violation on a line. -/
def extend (line : Int) (messages : List Json) (violations : List Violation) : List Violation :=
  violations.map fun violation =>
    if violation.line.value == line then violation.addMessages messages else violation

/-- Makes sure that there is a violation on a line. A new one goes to the end. -/
def place (review : FileReview) (line position : Ordinal) : Except Refusal FileReview :=
  match review.violationAt line.value with
  | some _ => .ok review
  | none => do
      let violation ← Violation.ofParts review.filename line position
      return { review with violations := review.violations ++ [violation] }

/-- Records a finding at its patch position. A finding without one is dropped. The position of a
line is the one it was first recorded with. -/
def addFinding (review : FileReview) (finding : Finding) (position : Option Ordinal)
    : Except Refusal FileReview :=
  match position with
  | none => .ok review
  | some position => do
      let placed ← review.place finding.line position
      return { placed with
        violations := extend finding.line.value finding.messages placed.violations }

/-- Records findings in order, each at the position of its line. -/
def addFindings (positionFor : Int → Option Ordinal)
    : FileReview → List Finding → Except Refusal FileReview
  | review, [] => .ok review
  | review, finding :: rest => do
      let review ← review.addFinding finding (positionFor finding.line.value)
      addFindings positionFor review rest

/-- Adds messages to the violation at an index. -/
def addMessagesAt (review : FileReview) (index : Nat) (messages : List Json) : FileReview :=
  { review with violations := review.violations.modify index (·.addMessages messages) }

/-- Records a finding given as plain values. When its messages are no list, its line still gets a
violation, which stays without them. -/
def addGiven (review : FileReview) (given : Json.Fields) (position : Json)
    : Except Failure Unit × FileReview :=
  match Finding.fillIn given with
  | .error failure => (.error failure, review)
  | .ok fields =>
      if position.same .null then (.ok (), review)
      else
        let numberOf := fun (value : Json) => (Ordinal.ofJson? value).getD (.number 0)
        let line := numberOf (Json.getD fields "line_number" .null)
        let placed : Except Failure FileReview := match review.violationAt line.value with
          | some _ => .ok review
          | none => do
              let _ ← position.isAtMost 0
              (review.place line (numberOf position)).mapError .refused
        match placed with
        | .error failure => (.error failure, review)
        | .ok placed =>
            match (Json.getD fields "messages" .null).items with
            | .error failure => (.error failure, placed)
            | .ok messages =>
                (.ok (), { placed with violations := extend line.value messages placed.violations })

/-- A complete review. -/
def complete (review : FileReview) (now : Int) : FileReview :=
  { review with completedAt := some now }

/-- A review that is kept. -/
def persist (review : FileReview) : FileReview := { review with persisted := true }

/-- A review as JSON. -/
def toJson (review : FileReview) : Json := .obj [
  ("filename", review.filename), ("linter_name", review.linter),
  ("completed", .bool review.isCompleted), ("persisted", .bool review.persisted),
  ("violations", .arr (review.violations.map Violation.toJson))]

end FileReview

end PatchReview
