import PatchReview.Linter.Run

/-!
Reviewing a whole pull request: its files are listed at the head commit, those that some linter
wants are fetched and reviewed, and the reviews are gathered in the order of the files. Whatever
goes wrong makes the run a failed one; reviews that were complete before stay in the store.
-/

namespace PatchReview

variable {σ : Type}

/-- A reviewer: its linters, the engine and the pointer document they are given. -/
structure Reviewer where
  registry : Registry
  engine : Engine
  pointer : Json

namespace Reviewer

/-- A reviewer with the linters that come with the library, as settings describe it. A given engine
takes the place of the one in the settings. -/
def ofSettings (lint : LintSettings) (engine : Option Engine) : Reviewer :=
  ⟨.standard, engine.getD (Linter.engineOf lint), lint.pointerFile.toJson⟩

/-- The linters for a build, switched by its repository's document at the commit. -/
def linters (reviewer : Reviewer) (host : Host σ) (build : Build) : Attempt σ (List Linter) := do
  let switches ← Switches.load host build.repository (.str build.commit) reviewer.pointer
  return Linter.forBuild reviewer.registry reviewer.engine (some reviewer.pointer) switches build

/-- Reviews a single file of a build. -/
def reviewFile (reviewer : Reviewer) (outside : Outside σ) (build : Build) (file : ChangedFile)
    : Attempt (Session σ) (List FileReview) := do
  let linters ← (reviewer.linters outside.host build).outside
  Linter.reviewAll outside linters file

/-- A file of a pull request with its content, or nothing where there is nothing to review: the
file is removed, no linter wants it, or its content is not there or has bytes that are no text. -/
def loadFile (host : Host σ) (build : Build) (linters : List Linter) (entry : Json)
    : Attempt σ (Option ChangedFile) := do
  let name ← Attempt.ofExcept (entry.entry "filename")
  let fields ← Attempt.ofExcept (entry.fieldsFor "get")
  if (Json.getD fields "status" .null).same (.str "removed") then return none
  let wanted ← Attempt.ofExcept (linters.anyM (·.wants? name))
  if !wanted then return none
  let fetched := host.fetchFile build.repository (.str build.commit) name
  match ← Attempt.ofState fetched.outcome with
  | .error (.bytes _) => return none
  | .error failure => throw failure
  | .ok none => return none
  | .ok (some content) =>
      some <$> Attempt.ofExcept (ChangedFile.ofEntry entry content)

/-- The reviews of the files that are left, and how many of the files had something to review. -/
def reviewEntries (outside : Outside σ) (build : Build) (linters : List Linter)
    : List Json → Attempt (Session σ) (List FileReview × Nat)
  | [] => return ([], 0)
  | entry :: rest => do
      match ← (loadFile outside.host build linters entry).outside with
      | none => reviewEntries outside build linters rest
      | some file =>
          let reviews ← Linter.reviewAll outside linters file
          let (later, count) ← reviewEntries outside build linters rest
          return (reviews ++ later, count + 1)

/-- What a run that succeeded found. -/
structure Harvest where
  head : String
  reviews : List FileReview
  filesChanged : Nat
  filesLinted : Nat

/-- Reviews a pull request, or fails. -/
def harvest (reviewer : Reviewer) (outside : Outside σ) (repository number : Json)
    (owner : Owner) : Attempt (Session σ) Harvest := do
  let about ← (outside.host.pullRequest repository number).outside
  let head ← Attempt.ofExcept do (← about.entry "head").entry "sha"
  let build ← Attempt.ofExcept (Build.ofAnswers repository head owner number)
  let linters ← (reviewer.linters outside.host build).outside
  let files ← (outside.host.changedFiles repository number).outside
  let entries ← Attempt.ofExcept files.items
  let (reviews, count) ← reviewEntries outside build linters entries
  return ⟨build.commit, reviews, entries.length, count⟩

end Reviewer

/-- How a run ended. -/
inductive RunResult where
  | completed (harvest : Reviewer.Harvest)
  | failed (failure : Failure)

/-- A run over a pull request, with the seconds at which it started and ended. -/
structure Run where
  repository : Json
  number : Json
  started : Int
  ended : Int
  result : RunResult

namespace Run

/-- What a run is called: its pull request and the time it started at. -/
def identifier (run : Run) : String :=
  run.repository.display ++ "_" ++ run.number.display ++ "_" ++ toString run.started

/-- The reviews of a run. A failed one has none. -/
def reviews (run : Run) : List FileReview :=
  match run.result with
  | .completed harvest => harvest.reviews
  | .failed _ => []

/-- The word for how a run ended. -/
def status (run : Run) : String :=
  match run.result with
  | .completed _ => "completed"
  | .failed _ => "failed"

/-- How many violations the reviews of a run have. -/
def violationCount (run : Run) : Nat :=
  run.reviews.foldl (fun count review => count + review.violations.length) 0

/-- The seconds a run took. -/
def duration (run : Run) : Int := run.ended - run.started

/-- What there is to tell about a run: the commit and the counts of files, or what went wrong. -/
def metadata (run : Run) : Json :=
  match run.result with
  | .completed harvest => .obj [
      ("head_sha", .str harvest.head), ("files_changed", .int harvest.filesChanged),
      ("files_linted", .int harvest.filesLinted)]
  | .failed failure => .obj [("error", .str failure.message)]

/-- A run as JSON. -/
def toJson (run : Run) : Json := .obj [
  ("review_id", .str run.identifier), ("repository", run.repository),
  ("pr_number", run.number), ("status", .str run.status),
  ("violation_count", .int run.violationCount), ("metadata", run.metadata),
  ("file_reviews", .arr (run.reviews.map FileReview.toJson))]

end Run

/-- Reviews a pull request. The run itself does not fail. -/
def Reviewer.reviewPullRequest (reviewer : Reviewer) (outside : Outside σ)
    (repository number : Json) (owner : Owner) : StateM (Session σ) Run := do
  let started ← outside.time
  let result ← (reviewer.harvest outside repository number owner).outcome
  let ended ← outside.time
  return {
    repository, number, started, ended
    result := match result with
      | .ok harvest => .completed harvest
      | .error failure => .failed failure }

end PatchReview
