import PatchReview.Patch.Parser

/-!
Files that a pull request changes, as they are at the commit under review.
-/

namespace PatchReview

open PatchReview.Text

/-- What a pull request does to a file. -/
inductive FileStatus where
  | added
  | modified
  | renamed
  | removed
  deriving DecidableEq, Repr

namespace FileStatus

/-- The word for a status. -/
def name : FileStatus → String
  | .added => "added"
  | .modified => "modified"
  | .renamed => "renamed"
  | .removed => "removed"

/-- The status a word stands for. -/
def ofName? (name : String) : Option FileStatus :=
  [added, modified, renamed, removed].find? (·.name == name)

/-- The status for a host's word. Copied files count as added, and words that are not known as
modified. -/
def ofHostName (name : String) : FileStatus :=
  if name == "copied" then .added else (ofName? name).getD .modified

/-- The status for what a host says. What cannot be a key is refused. -/
def ofAnswer (answer : Json) : Except Failure FileStatus := do
  answer.checkKey
  return match answer with
    | .str name => ofHostName name
    | _ => .modified

end FileStatus

/-- A changed file with its content at the commit under review, which is whatever the host or the
caller says it is. -/
structure ChangedFile where
  filename : String
  content : Json
  chunks : List Chunk
  status : FileStatus

namespace ChangedFile

/-- A changed file whose name shows. -/
def ofParts (filename : String) (content : Json) (chunks : List Chunk) (status : FileStatus)
    : Except Refusal ChangedFile :=
  if isBlankText filename then .error .filename else .ok ⟨filename, content, chunks, status⟩

/-- Whether the pull request removes the file. -/
def isRemoved (file : ChangedFile) : Bool := file.status == .removed

/-- Whether a chunk has a position. -/
def hasDiff (file : ChangedFile) : Bool :=
  file.chunks.any fun chunk => !chunk.positions.isEmpty || !chunk.others.isEmpty

/-- The patch position of a line of the new file, if a chunk adds it. Of several chunks that do,
the last counts. -/
def positionFor (file : ChangedFile) (line : Int) : Option Ordinal :=
  file.chunks.reverse.findSome? fun chunk => Assoc.get? line chunk.positions

/-- The patch position under a key of any kind, which has to be one that can be a key. -/
def positionUnder (file : ChangedFile) (key : Json) : Except Failure (Option Ordinal) := do
  key.checkKey
  return match key.whole? with
    | some line => file.positionFor line
    | none => file.chunks.reverse.findSome? fun chunk => Assoc.get? key chunk.others

/-- The chunks of a host's patch for a file. A patch that stands for nothing has none. -/
def chunksOf (patch : Json) : Except Failure (List Chunk) :=
  if !patch.isTruthy then .ok []
  else match patch with
    | .str text => (Patch.parse text).mapError .number
    | value => .error (.misuse (.search value.kind))

/-- A file from a host's entry for it, given its content. -/
def ofEntry (entry content : Json) : Except Failure ChangedFile := do
  let filename ← entry.entry "filename"
  let fields ← entry.fieldsFor "get"
  let chunks ← chunksOf (Json.getD fields "patch" .null)
  let status ← FileStatus.ofAnswer (Json.getD fields "status" (.str "modified"))
  let filename ← filename.textFor "strip"
  (ofParts filename content chunks status).mapError .refused

/-- The fields of a changed file. -/
def form : Form Json :=
  [("filename", none), ("content", none), ("chunks", some (.arr [])),
    ("status", some (.str "modified"))]

/-- A file given as plain values, its chunks apart. -/
def ofFields (given : Json.Fields) (chunks : List Chunk) : Except Failure ChangedFile := do
  let fields ← form.fill given
  let filename ← (Json.getD fields "filename" .null).textFor "strip"
  if isBlankText filename then throw (.refused .filename)
  let status := Json.getD fields "status" .null
  status.checkKey
  match status.str?.bind FileStatus.ofName? with
  | none => throw (.refused (.status status.display))
  | some status =>
      (ofParts filename (Json.getD fields "content" .null) chunks status).mapError .refused

/-- A file as JSON. -/
def toFields (file : ChangedFile) : Json.Fields := [
  ("filename", .str file.filename), ("content", file.content),
  ("status", .str file.status.name), ("removed", .bool file.isRemoved),
  ("has_diff", .bool file.hasDiff), ("chunks", .arr (file.chunks.map Chunk.toJson))]

end ChangedFile

end PatchReview
