import PatchReview.Datum
import PatchReview.Form
import PatchReview.Host
import PatchReview.Json.Printer
import PatchReview.Linter.Report
import PatchReview.Text.Blank

/-!
The lint engine: an external program that reads source text and writes a report in JSON. It is
told its configuration in a file. An exit code other than zero is no fault as long as there is a
report.

Texts hold whole characters only, so that a source that is a text can always be handed over.
-/

namespace PatchReview

open PatchReview.Text

/-- The engine's program, the seconds it has, and whether contexts belong to messages. The first
two are what the settings say, whatever that is. The brackets of a report may be open together as
far as the calls of its reader may nest. -/
structure Engine where
  executable : Datum
  timeout : Datum
  withContexts : Bool
  nesting : Nat

namespace Engine

variable {σ : Type}

/-- How far calls may nest where nothing else is set: a thousand deep, of which some are open. -/
def usualNesting : Nat := 950

/-- The engine without settings. -/
def standard : Engine := ⟨.text "coffeelint", .whole 30, false, usualNesting⟩

/-- The fields of an engine. -/
def form : Form Json :=
  [("executable", some (.str "coffeelint")), ("timeout_seconds", some (.int 30)),
    ("include_context", some (.bool false))]

/-- An engine given as plain values. -/
def ofFields (given : Json.Fields) : Except Failure Engine := do
  let fields ← form.fill given
  return {
    executable := .ofJson (Json.getD fields "executable" .null)
    timeout := .ofJson (Json.getD fields "timeout_seconds" .null)
    withContexts := (Json.getD fields "include_context" .null).isTruthy
    nesting := usualNesting }

/-- The command of a run, up to the file that holds the configuration. -/
def command (engine : Engine) : List Datum :=
  engine.executable :: ["--stdin", "--reporter", "raw", "-f"].map .text

/-- A configuration as the engine gets it. What stands for nothing is an empty one. -/
def configOf (config : Json) : Json := if config.isTruthy then config else .obj []

/-- Writes the file of a configuration. -/
def writeConfig (config : Json) : Except Failure String :=
  (configOf config).write.mapError .number

/-- A run on a source text. -/
def invocation (engine : Engine) (source config : Json) : Invocation Datum := {
  command := engine.command
  input := source
  timeout := engine.timeout
  configText := (configOf config).print }

/-- The report that a run which ended gives. The output has to be a text. A blank one is an empty
report, and an empty report needs the exit code zero. What is no JSON is the engine's fault, but
neither a number that is too long nor brackets that nest too deep. -/
def report (engine : Engine) (output code complaint : Json) : Except Failure Json.Fields := do
  let fail := fun fault => Failure.engine fault code complaint
  let text ← output.textFor "strip"
  let value ←
    if isBlankText text then pure (Json.obj [])
    else match Json.parseWithin (some engine.nesting) text with
      | .ok value => pure value
      | .error (.malformed problem place) => throw (fail (.unparseable problem place))
      | .error fault => throw (.ofJson fault)
  match value with
  | .obj [] => if code.same (.int 0) then return [] else throw (fail (.exitCode code))
  | .obj fields => return fields
  | _ => throw (fail .unexpected)

/-- The findings that the end of a run gives. -/
def findings (engine : Engine) : Outcome → Except Failure (List Finding)
  | .absent => .error (.engine (.absent engine.executable.display) .null (.str ""))
  | .timedOut => .error (.engine (.timedOut engine.timeout.display) .null (.str ""))
  | .forbidden => .error (.forbidden engine.executable.display)
  | .finished output code complaint => do
      let fields ← engine.report output code complaint
      return Report.findings engine.withContexts (Report.entries fields)

/-- Lints a source text under a configuration, which is written before the engine runs. -/
def lint (engine : Engine) (run : Invocation Datum → StateM σ Outcome)
    (source config : Json) : Attempt σ (List Finding) := do
  let _ ← Attempt.ofExcept (writeConfig config)
  let outcome ← Attempt.ofState (run (engine.invocation source config))
  Attempt.ofExcept (engine.findings outcome)

end Engine

end PatchReview
