import PatchReview.Hosting.Client
import PatchReview.Pull.Run
import PatchReview.Settings.Manager

/-!
The two commands: one reviews a pull request and prints what it found, the other starts the web
service after telling where it will be.
-/

namespace PatchReview.Command

variable {σ : Type}

/-- What a command prints, and its exit code. -/
structure Printed where
  lines : List String
  exit : Nat
  deriving DecidableEq, Repr

/-- The text a command prints. -/
def Printed.text (printed : Printed) : String :=
  "".intercalate (printed.lines.map (· ++ "\n"))

/-- How the review command is used. -/
def usage : List String := [
  "Usage: python lint_review_demo.py <owner> <repo> <pr_number> [config_repo]",
  "Example: python lint_review_demo.py thoughtbot hound 1234 thoughtbot/guides"]

/-- What the review command is asked for. -/
structure Order where
  owner : String
  repository : String
  number : Int
  configRepository : Option String
  deriving DecidableEq, Repr

/-- Reads the arguments of the review command. There are three or four. -/
def Order.ofArguments? : List String → Option (Except Failure Order)
  | owner :: repository :: number :: rest =>
      let read := fun (style : Option String) =>
        some (((Integer.ofText number).map fun n => ⟨owner, repository, n, style⟩).mapError .number)
      match rest with
      | [] => read none
      | [style] => read (some style)
      | _ => none
  | _ => none

/-- A message as text. -/
def messageLine (message : Json) : String := "    - " ++ message.display

/-- The lines about a violation. -/
def violationLines (violation : Violation) : List String :=
  let line := violation.line.toJson.display
  let position := violation.position.toJson.display
  ("  line " ++ line ++ " (position " ++ position ++ "):") :: violation.messages.map messageLine

/-- The lines about a review. -/
def reviewLines (review : FileReview) : List String :=
  ("\n" ++ review.filename.display ++ " (" ++ review.linter.display ++ ")") ::
    (if review.violations.isEmpty then ["  no violations"]
     else review.violations.flatMap violationLines)

/-- What is printed about a run. -/
def printRun (run : Run) : Printed :=
  match run.result with
  | .failed failure => ⟨["Review failed: " ++ failure.message], 1⟩
  | .completed harvest =>
      let summary := "\nReviewed " ++ toString harvest.filesLinted ++ " of "
        ++ toString harvest.filesChanged ++ " changed files in " ++ toString run.duration ++ ".00s"
      ⟨summary :: harvest.reviews.flatMap reviewLines, 0⟩

/-- What the review command does once its arguments and its settings are read: it stops without a
token, and otherwise has a client and an owner to review with. -/
inductive Plan where
  | stop (printed : Printed)
  | review (client : Hosting.Client) (lint : LintSettings) (owner : Owner) (repository : String)
      (number : Int)

/-- Reads the arguments and the environment of the review command. The client is set up before the
owner is looked at. -/
def plan (arguments : List String) (env : Settings.Environment) : Except Failure Plan := do
  match Order.ofArguments? arguments with
  | none => return .stop ⟨usage, 1⟩
  | some order =>
      let order ← order
      let settings ← Settings.ofEnvironment env
      if !settings.host.token.isTruthy then return .stop ⟨["GITHUB_TOKEN is not set"], 1⟩
      let client ← Hosting.Client.ofSettings settings.host
      let owner ← (Owner.ofParts order.owner order.configRepository.isSome
        order.configRepository).mapError .refused
      return .review client settings.lint owner (order.owner ++ "/" ++ order.repository)
        order.number

/-- The port of the web service. -/
def portOf (env : Settings.Environment) : Except Failure Int :=
  (Integer.ofText ((Settings.valueOf? env "PORT").getD "8000")).mapError .number

/-- What is printed before the web service starts. -/
def banner (port : Int) : List String := [
  "Starting Lint Reviewer Server...",
  "Server will be available at: http://localhost:" ++ toString port,
  "API Documentation:",
  "   - Health Check: GET /api/v1/health",
  "   - Lint Pull Request: POST /api/v1/reviews/lint",
  "   - Lint File: POST /api/v1/files/lint"]

/-- What the web service works with. -/
structure Setup where
  client : Hosting.Client
  lint : LintSettings
  debug : Datum

/-- Reads the settings of the web service. -/
def setup (files : FileSystem) (env : Settings.Environment) : Except Failure Setup := do
  let manager ← SettingsManager.ofEnvironment files env
  let client ← Hosting.Client.ofSettings manager.settings.host
  return ⟨client, manager.settings.lint, manager.settings.debug⟩

/-- How the web service is started. -/
structure Start where
  setup : Setup
  host : String
  port : Int

/-- Reads the environment of the web service, its port last. -/
def start (files : FileSystem) (env : Settings.Environment) : Except Failure Start := do
  let setup ← setup files env
  let port ← portOf env
  return ⟨setup, "0.0.0.0", port⟩

end PatchReview.Command
