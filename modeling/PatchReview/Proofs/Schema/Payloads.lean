import Mathlib.Data.List.Nodup
import PatchReview.Proofs.Json.RoundTrip
import PatchReview.Proofs.Patch.ReadChunks
import PatchReview.Proofs.Schema.Requests

/-! Changed files as the contents of requests. A file whose chunks are read from a patch passes the checks of
such a request, and what the request gives is the very same file.
-/

namespace PatchReview

open PatchReview.Text

-----------------------------------------------------------------------------------------
-- Chunks
-----------------------------------------------------------------------------------------

/-- A chunk as a request gives it. -/
def ChunkRequest.ofChunk (chunk : Chunk) : ChunkRequest where
  oldStart := chunk.oldStart
  oldLines := chunk.oldLines
  newStart := chunk.newStart
  newLines := chunk.newLines
  content := chunk.content
  positions := chunk.positions.map fun (line, position) => (line, position.value)

/-- The lines for which a file has positions are short. -/
def ChangedFile.HasShortLines (file : ChangedFile) : Prop :=
  ∀ chunk ∈ file.chunks, ∀ entry ∈ chunk.positions, Integer.IsShort entry.1

/-- The positions that a file has are short. -/
def ChangedFile.HasShortPositions (file : ChangedFile) : Prop :=
  ∀ chunk ∈ file.chunks, ∀ entry ∈ chunk.positions, Integer.IsShort entry.2.value

section Chunks

variable {chunk : Chunk}

theorem ChunkRequest.keys_positions_ofChunk
    : Assoc.keys (ofChunk chunk).positions = Assoc.keys chunk.positions := by
  simp [Assoc.keys, ofChunk, Function.comp_def]

theorem ChunkRequest.isValid_ofChunk (read : chunk.IsRead)
    (short : ∀ entry ∈ chunk.positions, Integer.IsShort entry.1)
    : (ofChunk chunk).IsValid where
  oldStart := Int.natCast_nonneg _
  oldLines := Int.natCast_nonneg _
  newStart := Int.natCast_nonneg _
  newLines := Int.natCast_nonneg _
  distinct := keys_positions_ofChunk ▸ read.distinct
  short := List.forall_mem_map.mpr short
  positive := by
    refine List.forall_mem_map.mpr fun entry member => ?_
    obtain ⟨position, number, positive⟩ := read.numbered entry member
    show 0 < entry.2.value
    rw [number]
    exact positive

/-- A chunk that is read from a patch is given back. -/
theorem ChunkRequest.toChunk_ofChunk (read : chunk.IsRead) : (ofChunk chunk).toChunk = .ok chunk := by
  have positions : (ofChunk chunk).positions.map (fun entry => (entry.1, Ordinal.number entry.2))
      = chunk.positions := by
    rw [ofChunk, List.map_map]
    refine (List.map_congr_left fun entry member => ?_).trans (List.map_id _)
    obtain ⟨position, number, -⟩ := read.numbered entry member
    obtain ⟨line, found⟩ := entry
    obtain rfl : found = .number position := number
    rfl
  have positive : (chunk.positions.any (·.2.value ≤ 0)) = false := by
    rw [List.any_eq_false]
    intro entry member
    obtain ⟨position, number, positive⟩ := read.numbered entry member
    simp only [number, Ordinal.value, decide_eq_true_eq]
    omega
  show Chunk.ofNumbers _ _ _ _ _ ((ofChunk chunk).positions.map fun entry => (entry.1, .number entry.2)) []
    = .ok chunk
  rw [positions, Chunk.ofNumbers, if_neg (by simp [ofChunk]), if_neg (by simp [ofChunk]), positive]
  simp [ofChunk, ← read.others]

/-- A chunk that is read from a patch is written as an exact value when its lines and positions are short. -/
theorem ChunkRequest.isExact_ofChunk (read : chunk.IsRead)
    (lines : ∀ entry ∈ chunk.positions, Integer.IsShort entry.1)
    (positions : ∀ entry ∈ chunk.positions, Integer.IsShort entry.2.value)
    : (ofChunk chunk).toJson.IsExact := by
  have keys : (Assoc.keys ((ofChunk chunk).positions.map fun entry =>
      (toString entry.1, Json.int entry.2))).Nodup := by
    have texts : Assoc.keys ((ofChunk chunk).positions.map fun entry =>
        (toString entry.1, Json.int entry.2)) = (Assoc.keys chunk.positions).map toString := by
      simp [Assoc.keys, ofChunk, Function.comp_def]
    rw [texts]
    refine List.Nodup.map_on ?_ read.distinct
    -- A line is told by its text, from which it is read again.
    intro line member other memberToo same
    obtain ⟨entry, among, rfl⟩ := List.mem_map.mp member
    obtain ⟨second, amongToo, rfl⟩ := List.mem_map.mp memberToo
    have one := WholeText.read_toString (lines entry among)
    rw [same, WholeText.read_toString (lines second amongToo)] at one
    exact (WholeText.Reading.number.inj one).symm
  refine .obj (by simp [Assoc.keys]) ?_
  simp only [List.forall_mem_cons]
  refine ⟨.int read.oldStart, .int read.oldLines, .int read.newStart, .int read.newLines, .str _,
    .obj keys ?_, List.forall_mem_nil _⟩
  refine List.forall_mem_map.mpr (List.forall_mem_map.mpr fun entry member => ?_)
  exact .int (positions entry member)

end Chunks

-----------------------------------------------------------------------------------------
-- Files
-----------------------------------------------------------------------------------------

/-- A file with a text for its content as a request gives it. -/
def FileRequest.ofFile (file : ChangedFile) (content : String) : FileRequest :=
  ⟨file.filename, content, file.status.name, file.chunks.map ChunkRequest.ofChunk⟩

theorem FileStatus.ofName?_name (status : FileStatus) : ofName? status.name = some status := by
  cases status <;> decide

section Files

variable {file : ChangedFile} {content : String}

theorem FileRequest.isValid_ofFile (shows : isBlankText file.filename = false)
    (read : ∀ chunk ∈ file.chunks, chunk.IsRead) (short : file.HasShortLines)
    : (ofFile file content).IsValid where
  filename := shows
  status := by rw [ofFile, FileStatus.ofName?_name, Option.isSome_some]
  chunks := List.forall_mem_map.mpr fun chunk member =>
    ChunkRequest.isValid_ofChunk (read chunk member) (short chunk member)

/-- A file whose chunks are read from a patch is given back. -/
theorem FileRequest.toChangedFile_ofFile (shows : isBlankText file.filename = false)
    (told : file.content = .str content) (read : ∀ chunk ∈ file.chunks, chunk.IsRead)
    : (ofFile file content).toChangedFile = .ok file := by
  have chunks : (ofFile file content).chunks.mapM ChunkRequest.toChunk = .ok file.chunks := by
    rw [ofFile, List.mapM_map]
    have each : file.chunks.mapM (ChunkRequest.toChunk ∘ ChunkRequest.ofChunk)
        = .ok (file.chunks.map id) :=
      Except.mapM_eq_ok fun chunk member => ChunkRequest.toChunk_ofChunk (read chunk member)
    rwa [List.map_id] at each
  have status : FileStatus.ofName? (ofFile file content).status = some file.status :=
    FileStatus.ofName?_name file.status
  have parts : (ofFile file content).toChangedFile
      = ChangedFile.ofParts file.filename (.str content) file.chunks file.status := by
    simp only [toChangedFile, chunks, status, bind, Except.bind]
    rfl
  rw [parts, ChangedFile.ofParts, shows, ← told]
  rfl

/-- A file whose chunks are read from a patch is written as an exact value when its lines and positions are
short.
-/
theorem FileRequest.isExact_ofFile (read : ∀ chunk ∈ file.chunks, chunk.IsRead) (lines : file.HasShortLines)
    (positions : file.HasShortPositions)
    : (ofFile file content).toJson.IsExact := by
  refine .obj (by simp [Assoc.keys]) ?_
  simp only [List.forall_mem_cons]
  refine ⟨.str _, .str _, .str _, .arr ?_, List.forall_mem_nil _⟩
  refine List.forall_mem_map.mpr (List.forall_mem_map.mpr fun chunk member => ?_)
  exact ChunkRequest.isExact_ofChunk (read chunk member) (lines chunk member) (positions chunk member)

/-- A request to lint a file whose file is written as an exact value is written as one. -/
theorem SingleFileRequest.isExact_toJson {request : SingleFileRequest} (file : request.file.toJson.IsExact)
    : request.toJson.IsExact := by
  have owner : request.owner.toJson.IsExact := by
    refine .obj (by simp [Assoc.keys]) ?_
    simp only [List.forall_mem_cons]
    refine ⟨.str _, .bool _, ?_, List.forall_mem_nil _⟩
    cases request.owner.configRepository with
    | none => exact .null
    | some repository => exact .str repository
  refine .obj (by simp [Assoc.keys]) ?_
  simp only [List.forall_mem_cons]
  exact ⟨.str _, .str _, owner, file, List.forall_mem_nil _⟩

end Files

end PatchReview
