import PatchReview.Form
import PatchReview.Json.Access
import PatchReview.Ordinal

/-!
Findings: what a lint engine reports about one line of a file.
-/

namespace PatchReview

/-- A finding. Its rule and level are whatever the engine says. -/
structure Finding where
  line : Ordinal
  messages : List Json
  rule : Json
  level : Json

namespace Finding

/-- A finding on a line from one on, with at least one message. -/
def ofParts (line : Ordinal) (messages : List Json) (rule level : Json)
    : Except Refusal Finding :=
  if line.value ≤ 0 then .error .findingLine
  else if messages.isEmpty then .error .findingMessages
  else .ok ⟨line, messages, rule, level⟩

/-- The fields of a finding. -/
def form : Form Json :=
  [("line_number", none), ("messages", none), ("rule", some .null), ("level", some .null)]

/-- The messages of a finding given as one value: a text is a single message. -/
def messagesOf : Json → Json
  | .str s => .arr [.str s]
  | value => value

/-- The filled form of a finding given as plain values. -/
def fillIn (given : Json.Fields) : Except Failure Json.Fields := do
  let fields ← form.fill given
  if ← (Json.getD fields "line_number" .null).isAtMost 0 then throw (.refused .findingLine)
  let messages := messagesOf (Json.getD fields "messages" .null)
  if !messages.isTruthy then throw (.refused .findingMessages)
  return Assoc.set "messages" messages fields

/-- A finding as JSON. -/
def toJson (finding : Finding) : Json := .obj [
  ("line_number", finding.line.toJson), ("messages", .arr finding.messages),
  ("rule", finding.rule), ("level", finding.level)]

end Finding

end PatchReview
