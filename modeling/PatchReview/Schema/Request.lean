import PatchReview.Owner
import PatchReview.Patch.ChangedFile
import PatchReview.Schema.Rule

/-!
Requests to lint a pull request or a single file, as they are checked before anything else is
done. A checked request gives an owner, a build and a changed file.
-/

namespace PatchReview

open PatchReview.Text

/-- An owner as requests give it. -/
structure OwnerRequest where
  name : String
  configEnabled : Bool
  configRepository : Option String
  deriving DecidableEq, Repr

namespace OwnerRequest

/-- Checks the fields of an owner. -/
def ofFields (fields : Json.Fields) : Checked OwnerRequest :=
  (Checked.ok mk).and
    (Rule.required fields "name" fun v => (Rule.text v).ensure (!isBlankText ·) .ownerName)
  |>.and (Rule.withDefault fields "config_enabled" false Rule.truth)
  |>.and (Rule.withDefault fields "config_repo" none fun v =>
    (Rule.optional Rule.text v).ensure (·.all isRepositoryName) .configRepository)

/-- The owner a request gives. -/
def toOwner (request : OwnerRequest) : Except Refusal Owner :=
  Owner.ofParts request.name request.configEnabled request.configRepository

/-- A checked owner as JSON. -/
def toJson (request : OwnerRequest) : Json := .obj [
  ("name", .str request.name), ("config_enabled", .bool request.configEnabled),
  ("config_repo", .ofOption .str request.configRepository)]

end OwnerRequest

/-- A chunk as requests give it. -/
structure ChunkRequest where
  oldStart : Int
  oldLines : Int
  newStart : Int
  newLines : Int
  content : String
  positions : List (Int × Int)
  deriving DecidableEq, Repr

namespace ChunkRequest

/-- Numbers from zero on. -/
def natural (refusal : Refusal) : Rule Int := fun v => (Rule.whole v).ensure (0 ≤ ·) refusal

/-- Checks the fields of a chunk. -/
def ofFields (fields : Json.Fields) : Checked ChunkRequest :=
  (Checked.ok mk).and (Rule.required fields "old_start" (natural .lineNumber))
  |>.and (Rule.required fields "old_lines" (natural .lineCount))
  |>.and (Rule.required fields "new_start" (natural .lineNumber))
  |>.and (Rule.required fields "new_lines" (natural .lineCount))
  |>.and (Rule.withDefault fields "content" "" Rule.text)
  |>.and (Rule.withDefault fields "line_positions" [] fun v =>
    (Rule.wholeMap v).ensure (·.all (0 < ·.2)) .patchPosition)

/-- The chunk a request gives. -/
def toChunk (request : ChunkRequest) : Except Refusal Chunk :=
  Chunk.ofNumbers request.oldStart request.oldLines request.newStart request.newLines
    request.content (request.positions.map fun (line, position) => (line, .number position)) []

/-- A checked chunk as JSON. -/
def toJson (request : ChunkRequest) : Json := .obj [
  ("old_start", .int request.oldStart), ("old_lines", .int request.oldLines),
  ("new_start", .int request.newStart), ("new_lines", .int request.newLines),
  ("content", .str request.content),
  ("line_positions", .obj (request.positions.map fun (line, position) =>
    (toString line, .int position)))]

end ChunkRequest

/-- A changed file as requests give it. -/
structure FileRequest where
  filename : String
  content : String
  status : String
  chunks : List ChunkRequest
  deriving DecidableEq, Repr

namespace FileRequest

/-- Checks the fields of a changed file. -/
def ofFields (fields : Json.Fields) : Checked FileRequest :=
  (Checked.ok mk).and
    (Rule.required fields "filename" fun v => (Rule.text v).ensure (!isBlankText ·) .filename)
  |>.and (Rule.required fields "content" Rule.text)
  |>.and (Rule.withDefault fields "status" "modified" fun v =>
    (Rule.text v).ensure (fun name => (FileStatus.ofName? name).isSome) .requestStatus)
  |>.and (Rule.withDefault fields "chunks" []
    (Rule.list (Rule.object "DiffChunkRequest" ChunkRequest.ofFields)))

/-- The changed file a request gives. -/
def toChangedFile (request : FileRequest) : Except Refusal ChangedFile := do
  let chunks ← request.chunks.mapM ChunkRequest.toChunk
  match FileStatus.ofName? request.status with
  | none => throw (.status request.status)
  | some status => ChangedFile.ofParts request.filename (.str request.content) chunks status

/-- A checked file as JSON. -/
def toJson (request : FileRequest) : Json := .obj [
  ("filename", .str request.filename), ("content", .str request.content),
  ("status", .str request.status), ("chunks", .arr (request.chunks.map ChunkRequest.toJson))]

end FileRequest

/-- Checks the name of a repository. -/
def Rule.repository : Rule String := fun v => (Rule.text v).ensure isRepositoryName .repository

/-- A request to lint a pull request. -/
structure PullRequest where
  repository : String
  number : Int
  owner : OwnerRequest
  deriving DecidableEq, Repr

namespace PullRequest

/-- Checks the fields of the request. -/
def ofFields (fields : Json.Fields) : Checked PullRequest :=
  (Checked.ok mk).and (Rule.required fields "repository" Rule.repository)
  |>.and (Rule.required fields "pr_number" fun v =>
    (Rule.whole v).ensure (0 < ·) .pullRequestNumber)
  |>.and (Rule.required fields "owner" (Rule.object "OwnerRequest" OwnerRequest.ofFields))

/-- A checked request as JSON. -/
def toJson (request : PullRequest) : Json := .obj [
  ("repository", .str request.repository), ("pr_number", .int request.number),
  ("owner", request.owner.toJson)]

end PullRequest

/-- A request to lint a single file of a commit. -/
structure SingleFileRequest where
  repository : String
  commit : String
  owner : OwnerRequest
  file : FileRequest
  deriving DecidableEq, Repr

namespace SingleFileRequest

/-- Checks the fields of the request. -/
def ofFields (fields : Json.Fields) : Checked SingleFileRequest :=
  (Checked.ok mk).and (Rule.required fields "repository" Rule.repository)
  |>.and (Rule.required fields "commit_sha" fun v =>
    (Rule.text v).ensure (!isBlankText ·) .commit)
  |>.and (Rule.required fields "owner" (Rule.object "OwnerRequest" OwnerRequest.ofFields))
  |>.and (Rule.required fields "file" (Rule.object "ChangedFileRequest" FileRequest.ofFields))

/-- The build a request gives. -/
def toBuild (request : SingleFileRequest) : Except Refusal Build := do
  let owner ← request.owner.toOwner
  Build.ofParts request.repository request.commit owner none

/-- A checked request as JSON. -/
def toJson (request : SingleFileRequest) : Json := .obj [
  ("repository", .str request.repository), ("commit_sha", .str request.commit),
  ("owner", request.owner.toJson), ("file", request.file.toJson)]

end SingleFileRequest

end PatchReview
