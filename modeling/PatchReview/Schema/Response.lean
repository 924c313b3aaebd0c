import PatchReview.Review.FileReview
import PatchReview.Schema.Rule

/-!
Reviews as they are answered. A review is checked before it is answered: its lines and positions
are numbers from one on, and its messages are texts.
-/

namespace PatchReview

/-- A violation as it is answered. -/
structure ViolationResponse where
  filename : String
  line : Int
  position : Int
  messages : List String
  deriving DecidableEq, Repr

namespace ViolationResponse

/-- Numbers from one on. -/
def positive : Rule Int := fun v => (Rule.whole v).ensure (0 < ·) .reportedNumber

/-- Checks the fields of a violation. -/
def ofFields (fields : Json.Fields) : Checked ViolationResponse :=
  (Checked.ok mk).and (Rule.required fields "filename" Rule.text)
  |>.and (Rule.required fields "line_number" positive)
  |>.and (Rule.required fields "patch_position" positive)
  |>.and (Rule.required fields "messages" (Rule.list Rule.text))

/-- Checks a violation. -/
def ofViolation (violation : Violation) : Checked ViolationResponse :=
  ofFields [("filename", violation.filename), ("line_number", violation.line.toJson),
    ("patch_position", violation.position.toJson), ("messages", .arr violation.messages)]

/-- A checked violation as JSON. -/
def toJson (response : ViolationResponse) : Json := .obj [
  ("filename", .str response.filename), ("line_number", .int response.line),
  ("patch_position", .int response.position),
  ("messages", .arr (response.messages.map Json.str))]

end ViolationResponse

/-- A review as it is answered. -/
structure ReviewResponse where
  filename : String
  linter : String
  completed : Bool
  persisted : Bool
  completedAt : Option Calendar.Moment
  violations : List ViolationResponse
  deriving DecidableEq, Repr

namespace ReviewResponse

/-- Checks the fields of a review. -/
def ofFields (fields : Json.Fields) : Checked ReviewResponse :=
  (Checked.ok mk).and (Rule.required fields "filename" Rule.text)
  |>.and (Rule.required fields "linter_name" Rule.text)
  |>.and (Rule.required fields "completed" Rule.truth)
  |>.and (Rule.required fields "persisted" Rule.truth)
  |>.and (Rule.withDefault fields "completed_at" none (Rule.optional Rule.moment))
  |>.and (Rule.withDefault fields "violations" []
    (Rule.list (Rule.object "ViolationResponse" ViolationResponse.ofFields)))

/-- Checks violations in order. The first one with a fault ends the check. -/
def violationsOf : List Violation → Checked (List ViolationResponse)
  | [] => .ok []
  | violation :: rest =>
      match ViolationResponse.ofViolation violation with
      | .faulty errors => .faulty errors
      | .ok first => (violationsOf rest).map (first :: ·)

/-- Checks the names of a review whose violations are checked. -/
def withNames (review : FileReview) (violations : List ViolationResponse)
    : Checked ReviewResponse :=
  let moment := review.completedAt.map fun seconds => Calendar.Instant.moment ⟨seconds⟩
  let build := fun (filename linter : String) => (⟨filename, linter, review.isCompleted,
    review.persisted, moment, violations⟩ : ReviewResponse)
  (Checked.ok build).and ((Rule.text review.filename).within "filename")
  |>.and ((Rule.text review.linter).within "linter_name")

/-- Checks a review. Its violations come first. -/
def ofReview (review : FileReview) : Checked ReviewResponse :=
  match violationsOf review.violations with
  | .faulty errors => .faulty errors
  | .ok violations => withNames review violations

/-- Checks reviews in order. The first one with a fault ends the check. -/
def ofReviews : List FileReview → Checked (List ReviewResponse)
  | [] => .ok []
  | review :: rest =>
      match ofReview review with
      | .faulty errors => .faulty errors
      | .ok first => (ofReviews rest).map (first :: ·)

/-- A checked review as JSON. -/
def toJson (response : ReviewResponse) : Json := .obj [
  ("filename", .str response.filename), ("linter_name", .str response.linter),
  ("completed", .bool response.completed), ("persisted", .bool response.persisted),
  ("completed_at", .ofOption (fun moment => .str (TimeText.write moment)) response.completedAt),
  ("violations", .arr (response.violations.map ViolationResponse.toJson))]

end ReviewResponse

end PatchReview
