import PatchReview.Encoding.Hex
import PatchReview.Recording.Basic

/-!
Recordings as JSON documents. What a document leaves out is empty; entries of the wrong kind say
nothing.
-/

namespace PatchReview

open PatchReview.Hosting

namespace Recording

/-- The commit of a pull request about which a recording says nothing. -/
def defaultPullRequest : Json := .obj [("head", .obj [("sha", .str "abc123")])]

/-- A recording that holds nothing, at an instant. -/
def empty (clock : Int) : Recording where
  files := []
  heads := []
  failing := []
  pullRequest := defaultPullRequest
  changedFiles := .arr []
  runs := []
  wire := .inOrder []
  clock
  asked := []
  invocations := []
  sent := []

/-- A question as JSON. -/
def questionToJson : Question → Json
  | .file repository ref path => .arr [.str "file", repository, ref, path]
  | .branchHead repository => .arr [.str "head", repository]
  | .pullRequest repository number => .arr [.str "pr", repository, number]
  | .changedFiles repository number => .arr [.str "files", repository, number]

/-- The content of a file. -/
def contentOfJson (content : Json) : RecordedContent :=
  match content.field? "hex" with
  | some (.str digits) => .bytes (Hex.decode digits.toList)
  | _ => .value content

/-- Where a file is. -/
def keyOfJson (parts : Json) : Except Failure FileKey := do
  let key ← parts.items
  FileKey.check key
  return key

/-- A file with its place. -/
def fileOfJson (file : Json) : Except Failure (FileKey × RecordedContent) := do
  match ← file.items with
  | [repository, ref, path, content] =>
      return (← keyOfJson (.arr [repository, ref, path]), contentOfJson content)
  | parts => throw (.parts 4 parts.length)

/-- The items of a list that may be left out. -/
def listOf : Option Json → List Json
  | some (.arr items) => items
  | _ => []

/-- The fields of an object that may be left out. -/
def objectOf : Option Json → Json.Fields
  | some (.obj fields) => fields
  | _ => []

/-- Looks at the files of a document. -/
def checkFiles (document : Json) : Except Failure Unit :=
  (listOf (document.field? "files")).forM fun file => discard (fileOfJson file)

/-- How a run of the engine ends. -/
def outcomeOfJson (value : Json) : Outcome :=
  match value.field? "raise" with
  | some (.str "not_found") => .absent
  | some (.str "timeout") => .timedOut
  | some (.str "permission") => .forbidden
  | _ =>
      let field := fun (name : String) (default : Json) => (value.field? name).getD default
      .finished (field "stdout" (.str "")) (field "returncode" (.int 0)) (field "stderr" (.str ""))

/-- A reply. Its body has to be a text, and its status a number. -/
def replyOfJson (value : Json) : Except Failure Reply := do
  let body ← ((value.field? "body").getD (.str "")).textFor "encode"
  let given := (value.field? "status").getD (.int 200)
  let some status := given.whole? | throw (.misuse (.order "int" given.kind))
  return ⟨status, objectOf (value.field? "headers"), body⟩

/-- What a server answers. -/
def responseOfJson (value : Json) : Response :=
  match value.field? "raise" with
  | some text => .error (.connection text.display)
  | none => (replyOfJson value).mapError .reply

/-- The responses of a server, under their names. -/
def routesOfJson (routes : Json) : Wire :=
  .byName ((objectOf (some routes)).map fun (name, value) => (name, responseOfJson value))

/-- The responses of a server, in order. -/
def responsesOfJson (responses : Json) : Wire :=
  .inOrder ((listOf (some responses)).map responseOfJson)

/-- Writes one part of a document into a recording. -/
def setPart (recording : Recording) (name : String) (value : Json) : Recording :=
  match name with
  | "files" =>
      let files := (listOf (some value)).filterMap fun file => (fileOfJson file).toOption
      { recording with files := Assoc.ofList files }
  | "heads" => { recording with heads := objectOf (some value) }
  | "failing" =>
      { recording with failing := (objectOf (some value)).map fun (path, m) => (path, m.display) }
  | "pr" => { recording with pullRequest := value }
  | "pr_files" => { recording with changedFiles := value }
  | "runs" => { recording with runs := (listOf (some value)).map outcomeOfJson }
  | "routes" => { recording with wire := routesOfJson value }
  | "responses" => { recording with wire := responsesOfJson value }
  | "clock" => { recording with clock := value.whole?.getD recording.clock }
  | _ => recording

/-- The recording that a document gives, at an instant unless it names one itself. -/
def ofJson (clock : Int) (document : Json) : Recording :=
  (objectOf (some document)).foldl (fun recording (name, value) => recording.setPart name value)
    (empty clock)

/-- Puts a file in. -/
def put (recording : Recording) (key : FileKey) (content : RecordedContent) : Recording :=
  { recording with files := Assoc.set key content recording.files }

/-- Takes a file out, which has to be there. -/
def delete (recording : Recording) (key : FileKey) : Except Failure Recording :=
  if (Assoc.get? key recording.files).isSome then
    .ok { recording with files := recording.files.filter fun entry => !(entry.1 == key) }
  else .error (.missingEntry key)

end Recording

end PatchReview
