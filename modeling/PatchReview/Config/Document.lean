import PatchReview.Host
import PatchReview.Json.Access

/-!
Configuration documents in JSON, and how they are fetched from a host. A document has to be an
object.
-/

namespace PatchReview.Config

variable {σ : Type}

/-- The configuration a text holds. Faults name the document's repository and path. -/
def ofText (repository path : Json) (text : String) : Except Failure Json.Fields :=
  match Json.parse text with
  | .error (.malformed problem place) =>
      .error (.configParse (.json path problem place) repository path)
  | .error fault => .error (.ofJson fault)
  | .ok (.obj fields) => .ok fields
  | .ok value => .error (.configParse (.notObject path value.kind) repository path)

/-- The configuration a fetched document holds, which has to be a text. -/
def ofDocument (repository path : Json) : Json → Except Failure Json.Fields
  | .str text => ofText repository path text
  | value => .error (.misuse (.document value.kind))

/-- Fetches a document. Whatever goes wrong is a failed fetch. -/
def fetch (host : Host σ) (repository ref path : Json) : Attempt σ Json := do
  match ← Attempt.ofState (host.fetchFile repository ref path).outcome with
  | .error failure => throw (.configFetch (.failed path failure.message) repository path)
  | .ok none => throw (.configFetch (.absent path) repository path)
  | .ok (some document) => return document

/-- Fetches a configuration. -/
def load (host : Host σ) (repository ref path : Json) : Attempt σ Json.Fields := do
  let document ← fetch host repository ref path
  Attempt.ofExcept (ofDocument repository path document)

end PatchReview.Config
