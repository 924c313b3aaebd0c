import PatchReview.Failure

/-!
Repository hosts, as a review sees them: four questions, each of which may fail. What a host
answers about pull requests and commits may be of any kind, and so may the content of a file. What
is asked for is not checked before: repositories, numbers, commits and paths are values.
-/

namespace PatchReview

/-- A host whose own state is of type `σ`. -/
structure Host (σ : Type) where
  /-- What the host says about a pull request of a repository. -/
  pullRequest : Json → Json → Attempt σ Json
  /-- The files a pull request changes. -/
  changedFiles : Json → Json → Attempt σ Json
  /-- The commit at the tip of a repository's default branch. -/
  branchHead : Json → Attempt σ Json
  /-- The content of a file, if it is there: of a repository, at a commit, under a path. -/
  fetchFile : Json → Json → Json → Attempt σ (Option Json)

namespace Host

variable {σ τ : Type}

/-- A host whose state is a part of a larger one. -/
def within (host : Host σ) (get : τ → σ) (set : σ → τ → τ) : Host τ where
  pullRequest := fun repository number => (host.pullRequest repository number).within get set
  changedFiles := fun repository number => (host.changedFiles repository number).within get set
  branchHead := fun repository => (host.branchHead repository).within get set
  fetchFile := fun repository ref path => (host.fetchFile repository ref path).within get set

end Host

/-- How a run of the lint engine ends: with an output, an exit code and what was written to the
error stream, or not at all. -/
inductive Outcome where
  | finished (output code complaint : Json)
  | absent
  | timedOut
  | forbidden

/-- A run of the lint engine: its command without the file that holds the configuration, what it
reads, the seconds it has, and the text of that file. -/
structure Invocation (δ : Type) where
  command : List δ
  input : Json
  timeout : δ
  configText : String

end PatchReview
