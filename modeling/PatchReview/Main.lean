import PatchReview.Recording.Document
import PatchReview.Recording.Files
import PatchReview.Service.Command
import PatchReview.Service.Route

/-!
The program. It reviews a pull request, or answers the requests of the web service, over a
recording that it reads from its input. Without a token in the environment it does not start.
-/

namespace PatchReview.Program

open PatchReview

/-- The names of the variables that are read. -/
def variableNames : List String := [
  "GITHUB_TOKEN", "GITHUB_API_URL", "GITHUB_TIMEOUT", "GITHUB_MAX_RETRIES", "COFFEELINT_PATH",
  "LINT_ENGINE_TIMEOUT", "LINT_POINTER_FILE", "LOG_LEVEL", "LOG_FORMAT", "LOG_FILE", "LOG_MAX_SIZE",
  "LOG_BACKUP_COUNT", "DEBUG", "PORT"]

/-- The variables that are set. -/
def readEnvironment : IO Settings.Environment :=
  variableNames.filterMapM fun name => do
    return (← IO.getEnv name).map fun value => (name, value)

/-- Tells what went wrong. -/
def complain (failure : Failure) : IO UInt32 := do
  IO.eprintln failure.message
  return 1

/-- The recording in a line of the input. -/
def readRecording (input : IO.FS.Stream) : IO Recording := do
  return Recording.ofJson 0 ((Json.parse (← input.getLine)).toOption.getD .null)

/-- Reviews a pull request. -/
def review (arguments : List String) : IO UInt32 := do
  match Command.plan arguments (← readEnvironment) with
  | .error failure => complain failure
  | .ok (.stop printed) =>
      IO.print printed.text
      return UInt32.ofNat printed.exit
  | .ok (.review client lint owner repository number) =>
      let recording ← readRecording (← IO.getStdin)
      let run := (Reviewer.ofSettings lint none).reviewPullRequest (Recording.served client)
        (.str repository) (.int number) owner
      let printed := Command.printRun (run.run (RecordedSession.start recording)).1
      IO.print printed.text
      return UInt32.ofNat printed.exit

/-- An answer as a line of the output. -/
def answerLine (answer : Service.Answer) : String :=
  (Json.obj [("status", .int answer.status), ("json", answer.body.getD .null)]).print

/-- Answers requests, one in each line, until the input ends. -/
partial def serve (reviewer : Reviewer) (outside : Outside (Hosting.Connection Recording))
    (state : RecordedSession) (input : IO.FS.Stream) : IO Unit := do
  let line ← input.getLine
  if line.isEmpty then return
  match Json.parse line with
  | .error fault =>
      IO.eprintln fault.message
      serve reviewer outside state input
  | .ok value =>
      let (answer, state) := (Service.respondTo reviewer outside value).on state
      match answer with
      | .ok answer => IO.println (answerLine answer)
      | .error failure => IO.eprintln failure.message
      serve reviewer outside state input

/-- Starts the web service. -/
def start : IO UInt32 := do
  match Command.start BareFiles.system (← readEnvironment) with
  | .error failure => complain failure
  | .ok start =>
      for line in Command.banner start.port do
        IO.println line
      let input ← IO.getStdin
      let recording ← readRecording input
      serve (Reviewer.ofSettings start.setup.lint none) (Recording.served start.setup.client)
        (.start recording) input
      return 0

end PatchReview.Program

/-- Starts the web service when asked to, and otherwise reviews a pull request. -/
def main (arguments : List String) : IO UInt32 :=
  match arguments with
  | ["serve"] => PatchReview.Program.start
  | arguments => PatchReview.Program.review arguments
