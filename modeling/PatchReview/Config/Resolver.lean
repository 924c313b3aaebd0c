import PatchReview.Config.Document
import PatchReview.Config.Switches
import PatchReview.Owner

/-!
Where a linter's configuration comes from. An owner's style repository is asked for a list of
candidates, of which the first usable one counts; the repository under review may name a file of
its own. Nothing is tried twice, and without a usable candidate the configuration is empty.
-/

namespace PatchReview

variable {σ : Type}

/-- A way to find a linter's configuration in a repository. Linters and documents are named as the
caller does. -/
inductive Candidate where
  /-- The file that the pointer document names for the linter. -/
  | pointed (linter pointer : Json)
  /-- A file of a fixed name. -/
  | fixed (path : Json)

namespace Candidate

/-- The words for a candidate. -/
def description : Candidate → String
  | pointed linter pointer => pointer.display ++ " -> " ++ linter.display
  | fixed path => "legacy " ++ path.display

/-- Fetches the configuration of a candidate. The linter's name has to be a text by the time it is
looked for. -/
def load (host : Host σ) (repository ref : Json) : Candidate → Attempt σ Json.Fields
  | pointed linter pointer => do
      let document ← Config.fetch host repository ref pointer
      let switches ← Attempt.ofExcept (Switches.ofDocument document)
      let name ← Attempt.ofExcept (linter.textFor "lower")
      match switches.configFileFor name with
      | none => throw (.configFetch (.unnamed pointer linter) repository pointer)
      | some path => Config.load host repository ref (.str path)
  | fixed path => Config.load host repository ref path

/-- The candidates for a linter: the pointer document, then the fixed files in order. -/
def forLinter (pointer linter : Json) (legacy : List Json) : List Candidate :=
  pointed linter pointer :: legacy.map fixed

/-- The configuration of the first usable candidate, or an empty one. -/
def firstUsable (host : Host σ) (repository ref : Json) : List Candidate → Attempt σ Json.Fields
  | [] => return []
  | candidate :: rest => do
      match ← Attempt.ofState (candidate.load host repository ref).outcome with
      | .ok config => return config
      | .error failure =>
          if failure.isConfig then firstUsable host repository ref rest else throw failure

end Candidate

namespace Config

/-- The configuration in an owner's style repository. It is empty when there is no such repository
or its head is not known. -/
def ofOwner (host : Host σ) (pointer : Json) (owner : Owner) (linter : Json) (legacy : List Json)
    : Attempt σ Json.Fields := do
  match owner.styleRepository? with
  | none => return []
  | some repository =>
      match ← Attempt.ofState (host.branchHead repository).outcome with
      | .error _ => return []
      | .ok ref =>
          Candidate.firstUsable host repository ref (Candidate.forLinter pointer linter legacy)

/-- The configuration that the repository under review names for a linter. It is empty when none
is named or the file is not usable. The linter's name has to be a text. -/
def ofRepository (host : Host σ) (build : Build) (switches : Switches) (linter : Json)
    : Attempt σ Json.Fields := do
  let name ← Attempt.ofExcept (linter.textFor "lower")
  match switches.configFileFor name with
  | none => return []
  | some path =>
      let attempt := Config.load host build.repository (.str build.commit) (.str path)
      match ← Attempt.ofState attempt.outcome with
      | .ok config => return config
      | .error failure => if failure.isConfig then return [] else throw failure

end Config

end PatchReview
