import PatchReview.Form
import PatchReview.Json.Access
import PatchReview.Text.Blank

/-!
Owners of repositories, and builds: the commits under review.
-/

namespace PatchReview

open PatchReview.Text

/-- The owner of a repository, who may keep lint configurations in a style repository. That is null
where there is none, and otherwise whatever holds a slash. -/
structure Owner where
  name : String
  configEnabled : Bool
  configRepository : Json

/-- Repositories are named with a slash between their owner and their own name. -/
def isRepositoryName (name : String) : Bool := name.toList.contains '/'

/-- Whether a plain value holds a slash: among its characters, its items or its keys. -/
def holdsSlash : Json → Except Failure Bool
  | .str name => .ok (isRepositoryName name)
  | .arr items => .ok (items.any (Json.same (.str "/")))
  | .obj fields => .ok (Assoc.get? "/" fields).isSome
  | value => .error (.misuse (.members value.kind))

namespace Owner

/-- An owner whose name shows and whose style repository, if any, is named in full. -/
def ofParts (name : String) (enabled : Bool) (repository : Option String)
    : Except Refusal Owner :=
  if isBlankText name then .error .ownerName
  else if repository.any fun r => !isRepositoryName r then .error .configRepository
  else .ok ⟨name, enabled, .ofOption .str repository⟩

/-- The style repository, where it is switched on and named. -/
def styleRepository? (owner : Owner) : Option Json :=
  if owner.configEnabled && owner.configRepository.isTruthy then some owner.configRepository
  else none

/-- Whether a style repository is to be consulted. -/
def hasConfigRepository (owner : Owner) : Bool := owner.styleRepository?.isSome

/-- The fields of an owner. -/
def form : Form Json :=
  [("name", none), ("config_enabled", some (.bool false)), ("config_repo", some .null)]

/-- Whether a value can be a style repository: it is null or holds a slash. -/
def isRepository : Json → Except Failure Bool
  | .null => .ok true
  | value => holdsSlash value

/-- An owner given as plain values. -/
def ofFields (given : Json.Fields) : Except Failure Owner := do
  let fields ← form.fill given
  let name ← (Json.getD fields "name" .null).textFor "strip"
  if isBlankText name then throw (.refused .ownerName)
  let repository := Json.getD fields "config_repo" .null
  if !(← isRepository repository) then throw (.refused .configRepository)
  return ⟨name, (Json.getD fields "config_enabled" .null).isTruthy, repository⟩

/-- An owner given as plain values, as JSON with those values in it. -/
def echo (given : Json.Fields) : Except Failure Json := do
  let fields ← form.fill given
  let enabled := Json.getD fields "config_enabled" .null
  let isNamed := (Json.getD fields "config_repo" .null).isTruthy
  let has := if enabled.isTruthy then .bool isNamed else enabled
  return .obj (Assoc.set "has_config_repo" has fields)

/-- An owner as JSON. -/
def toJson (owner : Owner) : Json := .obj [
  ("name", .str owner.name), ("config_enabled", .bool owner.configEnabled),
  ("config_repo", owner.configRepository),
  ("has_config_repo", .bool owner.hasConfigRepository)]

end Owner

/-- A commit under review. Its repository is whatever holds a slash. -/
structure Build where
  repository : Json
  commit : String
  owner : Owner
  pullRequest : Option Int

namespace Build

/-- A build whose repository is named in full, whose commit shows and whose pull request, if any,
has a positive number. -/
def ofParts (repository commit : String) (owner : Owner) (pullRequest : Option Int)
    : Except Refusal Build :=
  if !isRepositoryName repository then .error .repository
  else if isBlankText commit then .error .commit
  else if pullRequest.any (· ≤ 0) then .error .pullRequestNumber
  else .ok ⟨.str repository, commit, owner, pullRequest⟩

/-- The fields of a build, its owner apart. -/
def form : Form Json :=
  [("repository", none), ("commit_sha", none), ("owner", none), ("pr_number", some .null)]

/-- The number of a pull request given as a plain value. -/
def numberOf : Json → Except Failure (Option Int)
  | .null => .ok none
  | value => do
      if ← value.isAtMost 0 then throw (.refused .pullRequestNumber)
      return value.whole?

/-- A build of an owner from plain values. -/
def ofAnswers (repository commit : Json) (owner : Owner) (number : Json)
    : Except Failure Build := do
  if !(← holdsSlash repository) then throw (.refused .repository)
  let commit ← commit.textFor "strip"
  if isBlankText commit then throw (.refused .commit)
  return ⟨repository, commit, owner, ← numberOf number⟩

/-- A build given as plain values. Its owner comes first. -/
def ofFields (given : Json.Fields) : Except Failure Build := do
  let owner ← match Assoc.get? "owner" given with
    | some (.obj fields) => Owner.ofFields fields
    | _ => throw (.misuse .fields)
  let fields ← form.fill given
  let get := fun name => Json.getD fields name .null
  ofAnswers (get "repository") (get "commit_sha") owner (get "pr_number")

/-- A build given as plain values, as JSON with those values in it. -/
def echo (given : Json.Fields) : Except Failure Json := do
  let fields ← form.fill given
  match Json.getD fields "owner" .null with
  | .obj owner => return .obj (Assoc.set "owner" (← Owner.echo owner) fields)
  | _ => throw (.misuse .fields)

/-- A build as JSON. -/
def toJson (build : Build) : Json := .obj [
  ("repository", build.repository), ("commit_sha", .str build.commit),
  ("pr_number", .ofOption .int build.pullRequest), ("owner", build.owner.toJson)]

end Build

end PatchReview
