import PatchReview.Proofs.Assoc
import PatchReview.Proofs.Schema.Checks
import PatchReview.Proofs.Schema.LineKeys
import PatchReview.Schema.Request

/-! Requests to lint a file that are written as JSON pass their check as what they were, as long as they are
valid. The lines of positions are written as texts and read as numbers again.
-/

namespace PatchReview

open PatchReview.Text

-----------------------------------------------------------------------------------------
-- Lines as keys
-----------------------------------------------------------------------------------------

/-- The text of a short number is read as the number. -/
theorem WholeText.read_toString {n : Int} (short : Integer.IsShort n)
    : WholeText.read (toString n) = .number n :=
  (read_eq_number_iff (spells_toString n)).mpr ⟨rfl, short⟩

theorem Rule.wholeText_toString {n : Int} (short : Integer.IsShort n)
    : Rule.wholeText (toString n) = .ok n := by
  rw [Rule.wholeText, WholeText.read_toString short]

/-- Positions that are written under the texts of their lines are read again, by induction on them. -/
theorem Rule.wholeEntries_toString {positions : List (Int × Int)}
    (short : ∀ entry ∈ positions, Integer.IsShort entry.1)
    : Rule.wholeEntries (positions.map fun (line, position) => (toString line, Json.int position))
      = .ok positions := by
  induction positions with
  | nil => rfl
  | cons entry rest ih =>
      obtain ⟨line, position⟩ := entry
      obtain ⟨here, later⟩ := List.forall_mem_cons.mp short
      rw [List.map_cons, wholeEntries, wholeText_toString here, ih later]
      rfl

-----------------------------------------------------------------------------------------
-- Owners and chunks
-----------------------------------------------------------------------------------------

/-- What is given for a field that may be left out is read. -/
theorem Rule.withDefault_of_get? {α : Type} {fields : Json.Fields} {name : String} {default : α}
    (rule : Rule α) (value : Json) {result : α} (given : Assoc.get? name fields = some value)
    (read : rule value = .ok result)
    : Rule.withDefault fields name default rule = .ok result := by
  rw [withDefault, given]
  exact Checked.within_eq_ok_iff.mpr read

/-- A text that shows is read where one has to. -/
theorem Rule.text_shows {text : String} (shows : isBlankText text = false) (refusal : Refusal)
    : (Rule.text (.str text)).ensure (!isBlankText ·) refusal = .ok text :=
  Checked.ensure_eq_ok_iff.mpr ⟨rfl, by simp [shows]⟩

/-- A request's owner is valid when its name shows and its style repository, if any, is named in full. -/
structure OwnerRequest.IsValid (request : OwnerRequest) : Prop where
  name : isBlankText request.name = false
  repository : request.configRepository.all isRepositoryName = true

theorem OwnerRequest.ofFields_toJson {request : OwnerRequest} (valid : request.IsValid)
    : Rule.object "OwnerRequest" ofFields request.toJson = .ok request := by
  refine Rule.object_eq_ok_iff.mpr ⟨_, rfl, ?_⟩
  have repository : ((Rule.optional Rule.text) (.ofOption .str request.configRepository)).ensure
      (·.all isRepositoryName) .configRepository = .ok request.configRepository := by
    refine Checked.ensure_eq_ok_iff.mpr ⟨?_, valid.repository⟩
    cases request.configRepository <;> rfl
  rw [ofFields, Rule.required_eq_ok_iff.mpr ⟨_, rfl, Rule.text_shows valid.name .ownerName⟩,
    Rule.withDefault_of_get? Rule.truth (.bool request.configEnabled) rfl rfl,
    Rule.withDefault_of_get? _ _ rfl repository]
  rfl

/-- A request gives an owner when its owner is valid, and then one with the parts that it names. -/
theorem OwnerRequest.toOwner_eq_ok_iff {request : OwnerRequest} {owner : Owner}
    : request.toOwner = .ok owner
      ↔ request.IsValid
        ∧ owner = ⟨request.name, request.configEnabled, .ofOption .str request.configRepository⟩ := by
  unfold toOwner Owner.ofParts
  constructor
  · intro made
    split at made
    · cases made
    · next shows =>
        split at made
        · cases made
        · next named =>
            refine ⟨⟨Bool.eq_false_iff.mpr shows, ?_⟩, (Except.ok.inj made).symm⟩
            cases given : request.configRepository with
            | none => rfl
            | some repository => simpa [given] using named
  · intro parts
    obtain ⟨valid, rfl⟩ := parts
    have named := valid.repository
    rw [if_neg (by simp [valid.name]), if_neg]
    cases given : request.configRepository with
    | none => simp
    | some repository => simpa [given] using named

/-- A request's chunk is valid when its numbers are not negative and its positions are from one on, under
lines that differ and are short.
-/
structure ChunkRequest.IsValid (request : ChunkRequest) : Prop where
  oldStart : 0 ≤ request.oldStart
  oldLines : 0 ≤ request.oldLines
  newStart : 0 ≤ request.newStart
  newLines : 0 ≤ request.newLines
  distinct : (Assoc.keys request.positions).Nodup
  short : ∀ entry ∈ request.positions, Integer.IsShort entry.1
  positive : ∀ entry ∈ request.positions, 0 < entry.2

theorem ChunkRequest.natural_int {n : Int} (nonneg : 0 ≤ n) (refusal : Refusal)
    : natural refusal (.int n) = .ok n :=
  Checked.ensure_eq_ok_iff.mpr ⟨rfl, by simpa using nonneg⟩

theorem ChunkRequest.ofFields_toJson {request : ChunkRequest} (valid : request.IsValid)
    : Rule.object "DiffChunkRequest" ofFields request.toJson = .ok request := by
  refine Rule.object_eq_ok_iff.mpr ⟨_, rfl, ?_⟩
  have positions : (Rule.wholeMap (.obj (request.positions.map fun (line, position) =>
      (toString line, .int position)))).ensure (·.all (0 < ·.2)) .patchPosition = .ok request.positions := by
    refine Checked.ensure_eq_ok_iff.mpr ⟨?_, ?_⟩
    case refine_2 => simpa using fun line position => valid.positive (line, position)
    rw [Rule.wholeMap, Rule.wholeEntries_toString valid.short, Checked.map,
      Assoc.ofList_of_nodup valid.distinct]
  rw [ofFields, Rule.required_eq_ok_iff.mpr ⟨_, rfl, natural_int valid.oldStart .lineNumber⟩,
    Rule.required_eq_ok_iff.mpr ⟨_, rfl, natural_int valid.oldLines .lineCount⟩,
    Rule.required_eq_ok_iff.mpr ⟨_, rfl, natural_int valid.newStart .lineNumber⟩,
    Rule.required_eq_ok_iff.mpr ⟨_, rfl, natural_int valid.newLines .lineCount⟩,
    Rule.withDefault_of_get? Rule.text (.str request.content) rfl rfl,
    Rule.withDefault_of_get? _ _ rfl positions]
  rfl

-----------------------------------------------------------------------------------------
-- Files
-----------------------------------------------------------------------------------------

/-- A request's file is valid when its name shows, its status is a known one and its chunks are valid. -/
structure FileRequest.IsValid (request : FileRequest) : Prop where
  filename : isBlankText request.filename = false
  status : (FileStatus.ofName? request.status).isSome = true
  chunks : ∀ chunk ∈ request.chunks, chunk.IsValid

theorem FileRequest.ofFields_toJson {request : FileRequest} (valid : request.IsValid)
    : Rule.object "ChangedFileRequest" ofFields request.toJson = .ok request := by
  refine Rule.object_eq_ok_iff.mpr ⟨_, rfl, ?_⟩
  have status : (Rule.text (.str request.status)).ensure (fun name => (FileStatus.ofName? name).isSome)
      .requestStatus = .ok request.status :=
    Checked.ensure_eq_ok_iff.mpr ⟨rfl, valid.status⟩
  have chunks : Rule.list (Rule.object "DiffChunkRequest" ChunkRequest.ofFields)
      (.arr (request.chunks.map ChunkRequest.toJson)) = .ok request.chunks := by
    refine Rule.itemsFrom_eq_ok_iff.mpr ?_
    rw [List.forall₂_map_left_iff, List.forall₂_same]
    exact fun chunk member => ChunkRequest.ofFields_toJson (valid.chunks chunk member)
  rw [ofFields, Rule.required_eq_ok_iff.mpr ⟨_, rfl, Rule.text_shows valid.filename .filename⟩,
    Rule.required_eq_ok_iff.mpr ⟨_, rfl, Rule.text_eq_ok_iff.mpr rfl⟩,
    Rule.withDefault_of_get? _ _ rfl status, Rule.withDefault_of_get? _ _ rfl chunks]
  rfl

/-- A request to lint a file is valid when its repository is named in full, its commit shows, and its owner
and its file are valid.
-/
structure SingleFileRequest.IsValid (request : SingleFileRequest) : Prop where
  repository : isRepositoryName request.repository = true
  commit : isBlankText request.commit = false
  owner : request.owner.IsValid
  file : request.file.IsValid

/-- A valid request passes its check as what it is written from. -/
theorem SingleFileRequest.ofFields_toJson {request : SingleFileRequest} {fields : Json.Fields}
    (valid : request.IsValid) (written : Json.obj fields = request.toJson)
    : ofFields fields = .ok request := by
  obtain rfl := Json.obj.inj written
  have repository : Rule.repository (.str request.repository) = .ok request.repository :=
    Checked.ensure_eq_ok_iff.mpr ⟨rfl, valid.repository⟩
  rw [ofFields, Rule.required_eq_ok_iff.mpr ⟨_, rfl, repository⟩,
    Rule.required_eq_ok_iff.mpr ⟨_, rfl, Rule.text_shows valid.commit .commit⟩,
    Rule.required_eq_ok_iff.mpr ⟨_, rfl, OwnerRequest.ofFields_toJson valid.owner⟩,
    Rule.required_eq_ok_iff.mpr ⟨_, rfl, FileRequest.ofFields_toJson valid.file⟩]
  rfl

end PatchReview
