import PatchReview.Review.Finding

/-!
What a lint engine reports, read into findings. An entry is usable when it is an object that names
a line from one on and has a message; other entries are passed over.
-/

namespace PatchReview.Report

/-- The first of two values that says something, or else the second. -/
def either (first second : Json) : Json := if first.isTruthy then first else second

/-- The line of an entry: what it says under `lineNumber`, or under `line` when it has no such
field. -/
def lineOf (fields : Json.Fields) : Option Ordinal :=
  let value := Json.getD fields "lineNumber" (Json.getD fields "line" .null)
  (Ordinal.ofJson? value).filter fun line => 0 < line.value

/-- The message of an entry, or its reason. -/
def messageOf (fields : Json.Fields) : Option Json :=
  let value := either (Json.getD fields "message" .null) (Json.getD fields "reason" .null)
  if value.isTruthy then some value else none

/-- A message with its context, if that is wanted and there is one. -/
def withContext (wanted : Bool) (fields : Json.Fields) (message : Json) : Json :=
  let context := Json.getD fields "context" .null
  if wanted && context.isTruthy then .str (message.display ++ ": " ++ context.display) else message

/-- The finding of an entry, if the entry is usable. -/
def finding? (withContexts : Bool) : Json → Option Finding
  | .obj fields => do
      let line ← lineOf fields
      let message ← messageOf fields
      return {
        line
        messages := [withContext withContexts fields message]
        rule := either (Json.getD fields "rule" .null) (Json.getD fields "name" .null)
        level := Json.getD fields "level" .null }
  | _ => none

/-- The findings of entries, in order. -/
def findings (withContexts : Bool) (entries : List Json) : List Finding :=
  entries.filterMap (finding? withContexts)

/-- The entries of a report: those of all its lists, in order. -/
def entries (report : Json.Fields) : List Json :=
  report.flatMap fun field =>
    match field.2 with
    | .arr items => items
    | _ => []

end PatchReview.Report
