import PatchReview.Proofs.Attempt
import PatchReview.Proofs.Schema.LineKeys
import PatchReview.Proofs.Schema.Requests

/-! Which requests are admitted. What passes the check of a request can be made into an owner, a build and a
changed file. A request whose fields have the kinds that they are to have, and from which these can be made,
passes the check as long as the lines of its positions are short.
-/

namespace PatchReview

open PatchReview.Text

-----------------------------------------------------------------------------------------
-- Fields with a condition
-----------------------------------------------------------------------------------------

/-- (IsGivenOr fields name Holds default) says that a field is there and what it holds is as wanted, or that it
is left out and its default is.
-/
def IsGivenOr (fields : Json.Fields) (name : String) (Holds : Json → Prop) (default : Prop) : Prop :=
  match Assoc.get? name fields with
  | some given => Holds given
  | none => default

namespace Rule

variable {α : Type} {fields : Json.Fields} {name : String} {rule : Rule α} {holds : α → Bool}
  {refusal : Refusal} {default result : α}

theorem required_ensure_iff
    : required fields name (fun v => (rule v).ensure holds refusal) = .ok result
      ↔ required fields name rule = .ok result ∧ holds result = true := by
  simp only [required_eq_ok_iff, Checked.ensure_eq_ok_iff]
  constructor
  · rintro ⟨value, given, read, fine⟩
    exact ⟨⟨value, given, read⟩, fine⟩
  · rintro ⟨⟨value, given, read⟩, fine⟩
    exact ⟨value, given, read, fine⟩

theorem required_repository_iff {named : String}
    : required fields name repository = .ok named
      ↔ required fields name text = .ok named ∧ isRepositoryName named = true :=
  required_ensure_iff

/-- A default that meets a condition need not be held to it. -/
theorem withDefault_ensure_iff (default : α) (holds : α → Bool) (fine : holds default = true)
    : withDefault fields name default (fun v => (rule v).ensure holds refusal) = .ok result
      ↔ withDefault fields name default rule = .ok result ∧ holds result = true := by
  unfold withDefault
  cases Assoc.get? name fields with
  | some value => simp only [Checked.within_eq_ok_iff, Checked.ensure_eq_ok_iff]
  | none =>
      rw [Checked.ok.injEq]
      exact ⟨fun same => ⟨same, same ▸ fine⟩, And.left⟩

theorem required_of_get? {value : Json} (given : Assoc.get? name fields = some value)
    (read : rule value = .ok result)
    : required fields name rule = .ok result :=
  required_eq_ok_iff.mpr ⟨value, given, read⟩

theorem withDefault_of_isGivenOr {Holds : Json → Prop} (given : IsGivenOr fields name Holds (result = default))
    (read : ∀ value, Holds value → rule value = .ok result)
    : withDefault fields name default rule = .ok result := by
  unfold IsGivenOr at given
  unfold withDefault
  cases found : Assoc.get? name fields with
  | some value =>
      rw [found] at given
      exact Checked.within_eq_ok_iff.mpr (read value given)
  | none =>
      rw [found] at given
      exact congrArg Checked.ok given.symm

/-- What a field that is read holds may be known better by how it is read. -/
theorem imp_of_withDefault {Holds Holds' : Json → Prop} {absent : Prop}
    (given : IsGivenOr fields name Holds absent) (read : withDefault fields name default rule = .ok result)
    (better : ∀ value, Holds value → rule value = .ok result → Holds' value)
    : IsGivenOr fields name Holds' absent := by
  unfold IsGivenOr at given ⊢
  unfold withDefault at read
  cases found : Assoc.get? name fields with
  | some value =>
      rw [found] at given read
      exact better value given (Checked.within_eq_ok_iff.mp read)
  | none =>
      rw [found] at given
      exact given

end Rule

-----------------------------------------------------------------------------------------
-- Owners
-----------------------------------------------------------------------------------------

namespace OwnerRequest

variable {fields : Json.Fields} {request : OwnerRequest}

/-- An owner is read when its fields are and it is valid. -/
theorem ofFields_eq_ok_iff
    : ofFields fields = .ok request
      ↔ Rule.required fields "name" Rule.text = .ok request.name
        ∧ Rule.withDefault fields "config_enabled" false Rule.truth = .ok request.configEnabled
        ∧ Rule.withDefault fields "config_repo" none (Rule.optional Rule.text) = .ok request.configRepository
        ∧ request.IsValid := by
  simp only [ofFields, Checked.and_eq_ok_iff, Rule.required_ensure_iff,
    Rule.withDefault_ensure_iff none (·.all isRepositoryName) rfl]
  constructor
  · rintro ⟨_, repository, ⟨_, enabled, ⟨_, name, made, ⟨named, shows⟩, rfl⟩, switched, rfl⟩,
      ⟨chosen, slashed⟩, rfl⟩
    cases made
    exact ⟨named, switched, chosen, by simpa using shows, slashed⟩
  · rintro ⟨named, switched, chosen, valid⟩
    exact ⟨_, _, ⟨_, _, ⟨_, _, rfl, ⟨named, by simp [valid.name]⟩, rfl⟩, switched, rfl⟩,
      ⟨chosen, valid.repository⟩, rfl⟩

/-- An owner can be made when the request's is valid. -/
theorem exists_toOwner_iff : (∃ owner, request.toOwner = .ok owner) ↔ request.IsValid := by
  simp only [toOwner_eq_ok_iff, exists_and_left, exists_eq, and_true]

/-- (request.IsSpelledBy fields) says that fields of the right kinds give an owner. -/
structure IsSpelledBy (request : OwnerRequest) (fields : Json.Fields) : Prop where
  name : Assoc.get? "name" fields = some (.str request.name)
  enabled : IsGivenOr fields "config_enabled" (· = .bool request.configEnabled) (request.configEnabled = false)
  repository : IsGivenOr fields "config_repo" (· = .ofOption .str request.configRepository)
    (request.configRepository = none)

theorem ofFields_of_isSpelledBy (spelled : request.IsSpelledBy fields) (valid : request.IsValid)
    : ofFields fields = .ok request := by
  refine ofFields_eq_ok_iff.mpr ⟨Rule.required_of_get? spelled.name rfl,
    Rule.withDefault_of_isGivenOr spelled.enabled ?_, Rule.withDefault_of_isGivenOr spelled.repository ?_, valid⟩
  · rintro _ rfl
    rfl
  · rintro _ rfl
    cases request.configRepository <;> rfl

end OwnerRequest

-----------------------------------------------------------------------------------------
-- Chunks
-----------------------------------------------------------------------------------------

/-- (SpellsPositions Spells value positions) says that an object gives positions, under keys that spell the
lines. Of keys for one line the last counts.
-/
def SpellsPositions (Spells : List Char → Int → Prop) (value : Json) (positions : List (Int × Int)) : Prop :=
  ∃ entries pairs,
    value = .obj entries
    ∧ List.Forall₂ (fun entry pair => Spells entry.1.toList pair.1 ∧ entry.2 = .int pair.2) entries pairs
    ∧ positions = Assoc.ofList pairs

/-- (ShortlySpells cs n) says that characters spell a number that is short. -/
def ShortlySpells (cs : List Char) (n : Int) : Prop := WholeText.Spells cs n ∧ Integer.IsShort n

/-- Positions under short lines are read, by induction on their entries. -/
theorem Rule.wholeEntries_of_shortlySpells {entries : Json.Fields} {pairs : List (Int × Int)}
    (spelled : List.Forall₂ (fun entry pair => ShortlySpells entry.1.toList pair.1 ∧ entry.2 = .int pair.2)
      entries pairs)
    : wholeEntries entries = .ok pairs := by
  induction spelled with
  | nil => rfl
  | @cons entry pair rest more here _ ih =>
      obtain ⟨key, value⟩ := entry
      obtain ⟨⟨spelled, short⟩, rfl⟩ := here
      have line : wholeText key = .ok pair.1 := by
        rw [wholeText, (WholeText.read_eq_number_iff spelled).mpr ⟨rfl, short⟩]
      rw [wholeEntries, line, ih]
      rfl

/-- The keys of positions that are read spell short lines, by induction on the entries. -/
theorem Rule.isShort_of_wholeEntries {entries : Json.Fields} {pairs : List (Int × Int)}
    (read : wholeEntries entries = .ok pairs)
    : ∀ entry ∈ entries, ∀ n, WholeText.Spells entry.1.toList n → Integer.IsShort n := by
  induction entries generalizing pairs with
  | nil => exact List.forall_mem_nil _
  | cons entry rest ih =>
      obtain ⟨key, value⟩ := entry
      simp only [wholeEntries, Checked.and_eq_ok_iff, Checked.map_eq_ok_iff, Checked.within_eq_ok_iff] at read
      obtain ⟨_, others, ⟨_, position, ⟨line, spelled, -⟩, -, -⟩, later, -⟩ := read
      refine List.forall_mem_cons.mpr ⟨fun n spells => ?_, ih later⟩
      unfold wholeText at spelled
      split at spelled
      next number => exact ((WholeText.read_eq_number_iff spells).mp number).2
      next => cases spelled
      next => cases spelled

namespace ChunkRequest

variable {fields : Json.Fields} {request : ChunkRequest}

/-- (request.IsSound) says that a chunk's numbers are not negative and its positions are from one on. -/
structure IsSound (request : ChunkRequest) : Prop where
  oldStart : 0 ≤ request.oldStart
  oldLines : 0 ≤ request.oldLines
  newStart : 0 ≤ request.newStart
  newLines : 0 ≤ request.newLines
  positive : ∀ entry ∈ request.positions, 0 < entry.2

/-- A chunk can be made when the request's is sound. -/
theorem exists_toChunk_iff : (∃ chunk, request.toChunk = .ok chunk) ↔ request.IsSound := by
  have positions : ((request.positions.map fun entry => (entry.1, Ordinal.number entry.2)).any (·.2.value ≤ 0)
      || ([] : List (Json × Ordinal)).any (·.2.value ≤ 0)) = true
      ↔ ¬ ∀ entry ∈ request.positions, 0 < entry.2 := by
    simp only [List.any_map, List.any_nil, Bool.or_false, List.any_eq_true, Function.comp_apply,
      decide_eq_true_eq, not_forall, Int.not_lt, exists_prop]
    rfl
  show (∃ chunk, Chunk.ofNumbers _ _ _ _ _ (request.positions.map fun entry => (entry.1, .number entry.2)) []
    = .ok chunk) ↔ _
  unfold Chunk.ofNumbers
  constructor
  · rintro ⟨chunk, made⟩
    split at made
    · cases made
    · next starts =>
        split at made
        · cases made
        · next counts =>
            split at made
            · cases made
            · next positive =>
                exact ⟨by omega, by omega, by omega, by omega, not_not.mp (positions.not.mp positive)⟩
  · rintro ⟨oldStart, oldLines, newStart, newLines, positive⟩
    rw [if_neg (by omega), if_neg (by omega), if_neg (positions.not.mpr (not_not.mpr positive))]
    exact ⟨_, rfl⟩

/-- A chunk is read when its fields are and it is sound. -/
theorem ofFields_eq_ok_iff
    : ofFields fields = .ok request
      ↔ Rule.required fields "old_start" Rule.whole = .ok request.oldStart
        ∧ Rule.required fields "old_lines" Rule.whole = .ok request.oldLines
        ∧ Rule.required fields "new_start" Rule.whole = .ok request.newStart
        ∧ Rule.required fields "new_lines" Rule.whole = .ok request.newLines
        ∧ Rule.withDefault fields "content" "" Rule.text = .ok request.content
        ∧ Rule.withDefault fields "line_positions" [] Rule.wholeMap = .ok request.positions
        ∧ request.IsSound := by
  have natural : ∀ name refusal n, Rule.required fields name (natural refusal) = .ok n
      ↔ Rule.required fields name Rule.whole = .ok n ∧ 0 ≤ n := by
    intro name refusal n
    exact Rule.required_ensure_iff.trans (and_congr_right fun _ => decide_eq_true_iff)
  simp only [ofFields, Checked.and_eq_ok_iff, natural,
    Rule.withDefault_ensure_iff [] (List.all · fun pair : Int × Int => 0 < pair.2) rfl]
  constructor
  · rintro ⟨_, positions, ⟨_, content, ⟨_, newLines, ⟨_, newStart, ⟨_, oldLines, ⟨_, oldStart, made,
      ⟨first, firstFine⟩, rfl⟩, ⟨second, secondFine⟩, rfl⟩, ⟨third, thirdFine⟩, rfl⟩,
      ⟨fourth, fourthFine⟩, rfl⟩, text, rfl⟩, ⟨map, positive⟩, rfl⟩
    cases made
    exact ⟨first, second, third, fourth, text, map, firstFine, secondFine, thirdFine, fourthFine,
      by simpa using positive⟩
  · rintro ⟨first, second, third, fourth, text, map, sound⟩
    exact ⟨_, _, ⟨_, _, ⟨_, _, ⟨_, _, ⟨_, _, ⟨_, _, rfl, ⟨first, sound.oldStart⟩, rfl⟩,
      ⟨second, sound.oldLines⟩, rfl⟩, ⟨third, sound.newStart⟩, rfl⟩, ⟨fourth, sound.newLines⟩, rfl⟩, text, rfl⟩,
      ⟨map, by simpa using fun line position => sound.positive (line, position)⟩, rfl⟩

/-- (request.IsSpelledBy Spells fields) says that fields of the right kinds give a chunk, whose lines are spelled
as `Spells` says.
-/
structure IsSpelledBy (request : ChunkRequest) (Spells : List Char → Int → Prop) (fields : Json.Fields)
    : Prop where
  oldStart : Assoc.get? "old_start" fields = some (.int request.oldStart)
  oldLines : Assoc.get? "old_lines" fields = some (.int request.oldLines)
  newStart : Assoc.get? "new_start" fields = some (.int request.newStart)
  newLines : Assoc.get? "new_lines" fields = some (.int request.newLines)
  content : IsGivenOr fields "content" (· = .str request.content) (request.content = "")
  positions : IsGivenOr fields "line_positions" (SpellsPositions Spells · request.positions)
    (request.positions = [])

theorem ofFields_of_isSpelledBy (spelled : request.IsSpelledBy ShortlySpells fields) (sound : request.IsSound)
    : ofFields fields = .ok request := by
  refine ofFields_eq_ok_iff.mpr ⟨Rule.required_of_get? spelled.oldStart rfl,
    Rule.required_of_get? spelled.oldLines rfl, Rule.required_of_get? spelled.newStart rfl,
    Rule.required_of_get? spelled.newLines rfl, Rule.withDefault_of_isGivenOr spelled.content ?_,
    Rule.withDefault_of_isGivenOr spelled.positions ?_, sound⟩
  · rintro _ rfl
    rfl
  · rintro _ ⟨entries, pairs, rfl, each, positions⟩
    rw [Rule.wholeMap, Rule.wholeEntries_of_shortlySpells each, positions]
    rfl

/-- The lines of fields that are read as a chunk are short. -/
theorem IsSpelledBy.shortly {other : ChunkRequest} (spelled : request.IsSpelledBy WholeText.Spells fields)
    (read : ofFields fields = .ok other)
    : request.IsSpelledBy ShortlySpells fields := by
  obtain ⟨-, -, -, -, -, map, -⟩ := ofFields_eq_ok_iff.mp read
  refine { spelled with positions := Rule.imp_of_withDefault spelled.positions map ?_ }
  rintro _ ⟨entries, pairs, rfl, each, positions⟩ read
  obtain ⟨numbers, read, -⟩ := Checked.map_eq_ok_iff.mp read
  have short := Rule.isShort_of_wholeEntries read
  refine ⟨entries, pairs, rfl, ?_, positions⟩
  refine ((List.forall₂_and_left _ _).mpr ⟨short, each⟩).imp ?_
  rintro entry pair ⟨short, spells, value⟩
  exact ⟨⟨spells, short pair.1 spells⟩, value⟩

end ChunkRequest

-----------------------------------------------------------------------------------------
-- Files
-----------------------------------------------------------------------------------------

namespace FileRequest

variable {fields : Json.Fields} {request : FileRequest}

/-- (request.IsSound) says that a file's name shows, its status is a known one and its chunks are sound. -/
structure IsSound (request : FileRequest) : Prop where
  filename : isBlankText request.filename = false
  status : (FileStatus.ofName? request.status).isSome = true
  chunks : ∀ chunk ∈ request.chunks, chunk.IsSound

/-- A file can be made when the request's is sound. -/
theorem exists_toChangedFile_iff : (∃ file, request.toChangedFile = .ok file) ↔ request.IsSound := by
  unfold toChangedFile ChangedFile.ofParts
  simp only [Except.bind_eq_ok_iff]
  constructor
  · rintro ⟨file, chunks, each, made⟩
    split at made
    · cases made
    · next status known =>
        split at made
        · cases made
        · next shows =>
            refine ⟨by simpa using shows, by rw [known, Option.isSome_some], fun chunk member => ?_⟩
            exact ChunkRequest.exists_toChunk_iff.mp (Except.exists_of_mapM each chunk member)
  · rintro ⟨filename, status, chunks⟩
    obtain ⟨status, known⟩ := Option.isSome_iff_exists.mp status
    cases each : request.chunks.mapM ChunkRequest.toChunk with
    | error refusal =>
        obtain ⟨chunk, member, failed⟩ := Except.exists_of_mapM_eq_error each
        obtain ⟨made, given⟩ := ChunkRequest.exists_toChunk_iff.mpr (chunks chunk member)
        rw [given] at failed
        cases failed
    | ok made =>
        refine ⟨⟨request.filename, .str request.content, made, status⟩, made, rfl, ?_⟩
        simp only [known, filename, Bool.false_eq_true, if_false]

/-- A file is read when its fields are, its name shows and its status is a known one. -/
theorem ofFields_eq_ok_iff
    : ofFields fields = .ok request
      ↔ Rule.required fields "filename" Rule.text = .ok request.filename
        ∧ Rule.required fields "content" Rule.text = .ok request.content
        ∧ Rule.withDefault fields "status" "modified" Rule.text = .ok request.status
        ∧ Rule.withDefault fields "chunks" []
            (Rule.list (Rule.object "DiffChunkRequest" ChunkRequest.ofFields)) = .ok request.chunks
        ∧ isBlankText request.filename = false
        ∧ (FileStatus.ofName? request.status).isSome = true := by
  simp only [ofFields, Checked.and_eq_ok_iff, Rule.required_ensure_iff,
    Rule.withDefault_ensure_iff "modified" (fun name => (FileStatus.ofName? name).isSome) (by decide)]
  constructor
  · rintro ⟨_, chunks, ⟨_, status, ⟨_, content, ⟨_, filename, made, ⟨named, shows⟩, rfl⟩, told, rfl⟩,
      ⟨marked, known⟩, rfl⟩, each, rfl⟩
    cases made
    exact ⟨named, told, marked, each, by simpa using shows, known⟩
  · rintro ⟨named, told, marked, each, shows, known⟩
    exact ⟨_, _, ⟨_, _, ⟨_, _, ⟨_, _, rfl, ⟨named, by simp [shows]⟩, rfl⟩, told, rfl⟩, ⟨marked, known⟩, rfl⟩,
      each, rfl⟩

/-- A file that is read is sound. -/
theorem isSound_of_ofFields (read : ofFields fields = .ok request) : request.IsSound := by
  obtain ⟨-, -, -, each, shows, known⟩ := ofFields_eq_ok_iff.mp read
  refine ⟨shows, known, ?_⟩
  rcases Rule.cases_of_withDefault each with none | ⟨value, each⟩
  · rw [none]
    exact List.forall_mem_nil _
  · cases value with
    | arr items =>
        intro chunk member
        obtain ⟨item, read⟩ := exists_forall₂_iff.mp ⟨_, (Rule.itemsFrom_eq_ok_iff.mp each).flip⟩ chunk member
        obtain ⟨parts, -, read⟩ := Rule.object_eq_ok_iff.mp read
        obtain ⟨-, -, -, -, -, -, sound⟩ := ChunkRequest.ofFields_eq_ok_iff.mp read
        exact sound
    | _ => cases each

/-- (request.IsSpelledBy Spells fields) says that fields of the right kinds give a file, the lines of whose
positions are spelled as `Spells` says.
-/
structure IsSpelledBy (request : FileRequest) (Spells : List Char → Int → Prop) (fields : Json.Fields)
    : Prop where
  filename : Assoc.get? "filename" fields = some (.str request.filename)
  content : Assoc.get? "content" fields = some (.str request.content)
  status : IsGivenOr fields "status" (· = .str request.status) (request.status = "modified")
  chunks : IsGivenOr fields "chunks"
    (fun value => ∃ items,
      value = .arr items
      ∧ List.Forall₂ (fun item (chunk : ChunkRequest) =>
          ∃ parts, item = .obj parts ∧ chunk.IsSpelledBy Spells parts) items request.chunks)
    (request.chunks = [])

theorem ofFields_of_isSpelledBy (spelled : request.IsSpelledBy ShortlySpells fields) (sound : request.IsSound)
    : ofFields fields = .ok request := by
  refine ofFields_eq_ok_iff.mpr ⟨Rule.required_of_get? spelled.filename rfl,
    Rule.required_of_get? spelled.content rfl, Rule.withDefault_of_isGivenOr spelled.status ?_,
    Rule.withDefault_of_isGivenOr spelled.chunks ?_, sound.filename, sound.status⟩
  · rintro _ rfl
    rfl
  · rintro _ ⟨items, rfl, each⟩
    refine Rule.itemsFrom_eq_ok_iff.mpr (List.Forall₂.flip ?_)
    refine ((List.forall₂_and_left _ _).mpr ⟨sound.chunks, each.flip⟩).imp ?_
    rintro chunk _ ⟨sound, parts, rfl, spelled⟩
    exact ChunkRequest.ofFields_of_isSpelledBy spelled sound

/-- The lines of fields that are read as a file are short. -/
theorem IsSpelledBy.shortly {other : FileRequest} (spelled : request.IsSpelledBy WholeText.Spells fields)
    (read : ofFields fields = .ok other)
    : request.IsSpelledBy ShortlySpells fields := by
  obtain ⟨-, -, -, each, -, -⟩ := ofFields_eq_ok_iff.mp read
  refine { spelled with chunks := Rule.imp_of_withDefault spelled.chunks each ?_ }
  rintro _ ⟨items, rfl, spelled⟩ each
  have read := exists_forall₂_iff.mp ⟨_, Rule.itemsFrom_eq_ok_iff.mp each⟩
  refine ⟨items, rfl, ((List.forall₂_and_left _ _).mpr ⟨read, spelled⟩).imp ?_⟩
  rintro _ chunk ⟨⟨_, read⟩, parts, rfl, spelled⟩
  exact ⟨parts, rfl, spelled.shortly read⟩

end FileRequest

-----------------------------------------------------------------------------------------
-- Builds
-----------------------------------------------------------------------------------------

namespace Build

variable {repository commit : String} {owner : Owner}

/-- A build can be made when its repository is named in full, its commit shows and its number, if any, is from one
on.
-/
theorem exists_ofParts_iff {number : Option Int}
    : (∃ build, ofParts repository commit owner number = .ok build)
      ↔ isRepositoryName repository = true ∧ isBlankText commit = false ∧ ∀ n, number = some n → 0 < n := by
  have numbered : number.any (· ≤ 0) = true ↔ ¬ ∀ n, number = some n → 0 < n := by
    cases number <;> simp
  unfold ofParts
  constructor
  · rintro ⟨build, made⟩
    split at made
    · cases made
    · next named =>
        split at made
        · cases made
        · next shows =>
            split at made
            · cases made
            · next positive =>
                exact ⟨by simpa using named, by simpa using shows, not_not.mp (numbered.not.mp positive)⟩
  · rintro ⟨named, shows, positive⟩
    rw [if_neg (by simp [named]), if_neg (by simp [shows]), if_neg (numbered.not.mpr (not_not.mpr positive))]
    exact ⟨_, rfl⟩

/-- A build that can be made from texts can be made from what a host says is the same. -/
theorem exists_ofAnswers {number : Int} (named : isRepositoryName repository = true)
    (shows : isBlankText commit = false) (positive : 0 < number)
    : ∃ build, ofAnswers (.str repository) (.str commit) owner (.int number) = .ok build := by
  have counted : numberOf (.int number) = .ok (some number) := by
    have above : compare number 0 = .gt := Int.compare_eq_gt.mpr positive
    simp only [numberOf, Json.isAtMost, Json.compareTo, above, bind, Except.bind]
    rfl
  refine ⟨⟨.str repository, commit, owner, some number⟩, ?_⟩
  simp only [ofAnswers, holdsSlash, named, Json.textFor, shows, counted, bind, Except.bind]
  rfl

end Build

-----------------------------------------------------------------------------------------
-- Requests to lint a file
-----------------------------------------------------------------------------------------

namespace SingleFileRequest

variable {fields : Json.Fields} {request : SingleFileRequest}

/-- A request to lint a file is read when its parts are, its repository is named in full and its commit shows. -/
theorem ofFields_eq_ok_iff
    : ofFields fields = .ok request
      ↔ Rule.required fields "repository" Rule.text = .ok request.repository
        ∧ Rule.required fields "commit_sha" Rule.text = .ok request.commit
        ∧ Rule.required fields "owner" (Rule.object "OwnerRequest" OwnerRequest.ofFields) = .ok request.owner
        ∧ Rule.required fields "file" (Rule.object "ChangedFileRequest" FileRequest.ofFields) = .ok request.file
        ∧ isRepositoryName request.repository = true
        ∧ isBlankText request.commit = false := by
  simp only [ofFields, Checked.and_eq_ok_iff, Rule.required_repository_iff, Rule.required_ensure_iff]
  constructor
  · rintro ⟨_, file, ⟨_, owner, ⟨_, commit, ⟨_, name, made, ⟨named, slashed⟩, rfl⟩, ⟨told, shows⟩, rfl⟩,
      owned, rfl⟩, filed, rfl⟩
    cases made
    exact ⟨named, told, owned, filed, slashed, by simpa using shows⟩
  · rintro ⟨named, told, owned, filed, slashed, shows⟩
    exact ⟨_, _, ⟨_, _, ⟨_, _, ⟨_, _, rfl, ⟨named, slashed⟩, rfl⟩, ⟨told, by simp [shows]⟩, rfl⟩, owned, rfl⟩,
      filed, rfl⟩

/-- A build can be made when the repository is named in full, the commit shows and the owner is valid. -/
theorem exists_toBuild_iff
    : (∃ build, request.toBuild = .ok build)
      ↔ request.owner.IsValid ∧ isRepositoryName request.repository = true
        ∧ isBlankText request.commit = false := by
  unfold toBuild
  simp only [Except.bind_eq_ok_iff]
  constructor
  · rintro ⟨build, owner, owned, made⟩
    obtain ⟨named, shows, -⟩ := Build.exists_ofParts_iff.mp ⟨build, made⟩
    exact ⟨OwnerRequest.exists_toOwner_iff.mp ⟨owner, owned⟩, named, shows⟩
  · rintro ⟨valid, named, shows⟩
    obtain ⟨owner, owned⟩ := OwnerRequest.exists_toOwner_iff.mpr valid
    have made : ∃ build, Build.ofParts request.repository request.commit owner none = .ok build :=
      Build.exists_ofParts_iff.mpr ⟨named, shows, nofun⟩
    obtain ⟨build, made⟩ := made
    exact ⟨build, owner, owned, made⟩

/-- (request.IsSpelledBy Spells fields) says that fields of the right kinds give a request to lint a file, the
lines of whose positions are spelled as `Spells` says.
-/
structure IsSpelledBy (request : SingleFileRequest) (Spells : List Char → Int → Prop) (fields : Json.Fields)
    : Prop where
  repository : Assoc.get? "repository" fields = some (.str request.repository)
  commit : Assoc.get? "commit_sha" fields = some (.str request.commit)
  owner : ∃ parts, Assoc.get? "owner" fields = some (.obj parts) ∧ request.owner.IsSpelledBy parts
  file : ∃ parts, Assoc.get? "file" fields = some (.obj parts) ∧ request.file.IsSpelledBy Spells parts

/-- The lines of fields that are read as a request are short. -/
theorem IsSpelledBy.shortly {other : SingleFileRequest} (spelled : request.IsSpelledBy WholeText.Spells fields)
    (read : ofFields fields = .ok other)
    : request.IsSpelledBy ShortlySpells fields := by
  obtain ⟨-, -, -, filed, -, -⟩ := ofFields_eq_ok_iff.mp read
  obtain ⟨parts, given, file⟩ := spelled.file
  obtain ⟨_, found, read⟩ := Rule.required_eq_ok_iff.mp filed
  obtain rfl : Json.obj parts = _ := Option.some.inj (given.symm.trans found)
  exact { spelled with file := ⟨parts, given, file.shortly read⟩ }

/-- (ChecksAgree fields) says that a request to lint a file which passes its check gives an owner, a build and a
file, and that one which gives them passes its check when its fields are of the right kinds and its lines are
short. No request with other lines passes.
-/
structure ChecksAgree (fields : Json.Fields) : Prop where
  converts : ∀ request, ofFields fields = .ok request →
    (∃ owner, request.owner.toOwner = .ok owner)
    ∧ (∃ build, request.toBuild = .ok build)
    ∧ ∃ file, request.file.toChangedFile = .ok file
  admits : ∀ request : SingleFileRequest, request.IsSpelledBy ShortlySpells fields →
    (∃ build, request.toBuild = .ok build) → (∃ file, request.file.toChangedFile = .ok file) →
    ofFields fields = .ok request
  shortly : ∀ request other : SingleFileRequest, request.IsSpelledBy WholeText.Spells fields →
    ofFields fields = .ok other → request.IsSpelledBy ShortlySpells fields

theorem checksAgree : ChecksAgree fields where
  converts request read := by
    obtain ⟨-, -, owned, filed, slashed, shows⟩ := ofFields_eq_ok_iff.mp read
    obtain ⟨_, -, owned⟩ := Rule.required_eq_ok_iff.mp owned
    obtain ⟨_, -, owned⟩ := Rule.object_eq_ok_iff.mp owned
    obtain ⟨_, -, filed⟩ := Rule.required_eq_ok_iff.mp filed
    obtain ⟨_, -, filed⟩ := Rule.object_eq_ok_iff.mp filed
    obtain ⟨-, -, -, valid⟩ := OwnerRequest.ofFields_eq_ok_iff.mp owned
    exact ⟨OwnerRequest.exists_toOwner_iff.mpr valid, exists_toBuild_iff.mpr ⟨valid, slashed, shows⟩,
      FileRequest.exists_toChangedFile_iff.mpr (FileRequest.isSound_of_ofFields filed)⟩
  admits request spelled build file := by
    obtain ⟨valid, slashed, shows⟩ := exists_toBuild_iff.mp build
    obtain ⟨_, owner, ownerSpelled⟩ := spelled.owner
    obtain ⟨_, given, fileSpelled⟩ := spelled.file
    have sound := FileRequest.exists_toChangedFile_iff.mp file
    exact ofFields_eq_ok_iff.mpr ⟨Rule.required_of_get? spelled.repository rfl,
      Rule.required_of_get? spelled.commit rfl,
      Rule.required_of_get? owner (OwnerRequest.ofFields_of_isSpelledBy ownerSpelled valid),
      Rule.required_of_get? given (FileRequest.ofFields_of_isSpelledBy fileSpelled sound), slashed, shows⟩
  shortly _ _ spelled read := spelled.shortly read

end SingleFileRequest

-----------------------------------------------------------------------------------------
-- Requests to lint a pull request
-----------------------------------------------------------------------------------------

namespace PullRequest

variable {fields : Json.Fields} {request : PullRequest}

/-- A request to lint a pull request is read when its parts are, its repository is named in full and its number is
from one on.
-/
theorem ofFields_eq_ok_iff
    : ofFields fields = .ok request
      ↔ Rule.required fields "repository" Rule.text = .ok request.repository
        ∧ Rule.required fields "pr_number" Rule.whole = .ok request.number
        ∧ Rule.required fields "owner" (Rule.object "OwnerRequest" OwnerRequest.ofFields) = .ok request.owner
        ∧ isRepositoryName request.repository = true
        ∧ 0 < request.number := by
  simp only [ofFields, Checked.and_eq_ok_iff, Rule.required_repository_iff, Rule.required_ensure_iff, decide_eq_true_eq]
  constructor
  · rintro ⟨_, owner, ⟨_, number, ⟨_, name, made, ⟨named, slashed⟩, rfl⟩, ⟨counted, positive⟩, rfl⟩, owned, rfl⟩
    cases made
    exact ⟨named, counted, owned, slashed, positive⟩
  · rintro ⟨named, counted, owned, slashed, positive⟩
    exact ⟨_, _, ⟨_, _, ⟨_, _, rfl, ⟨named, slashed⟩, rfl⟩, ⟨counted, positive⟩, rfl⟩, owned, rfl⟩

/-- (request.IsSpelledBy fields) says that fields of the right kinds give a request to lint a pull request. -/
structure IsSpelledBy (request : PullRequest) (fields : Json.Fields) : Prop where
  repository : Assoc.get? "repository" fields = some (.str request.repository)
  number : Assoc.get? "pr_number" fields = some (.int request.number)
  owner : ∃ parts, Assoc.get? "owner" fields = some (.obj parts) ∧ request.owner.IsSpelledBy parts

/-- (ChecksAgree fields) says that a request to lint a pull request which passes its check gives an owner, and a
build for each commit that shows, and that one which is spelled in full and gives them passes its check.
-/
structure ChecksAgree (fields : Json.Fields) : Prop where
  converts : ∀ request, ofFields fields = .ok request →
    ∃ owner,
      request.owner.toOwner = .ok owner
      ∧ ∀ commit, isBlankText commit = false →
          ∃ build, Build.ofAnswers (.str request.repository) (.str commit) owner (.int request.number) = .ok build
  admits : ∀ (request : PullRequest) commit owner build, request.IsSpelledBy fields →
    request.owner.toOwner = .ok owner →
    Build.ofParts request.repository commit owner (some request.number) = .ok build →
    ofFields fields = .ok request

theorem checksAgree : ChecksAgree fields where
  converts request read := by
    obtain ⟨-, -, owned, slashed, positive⟩ := ofFields_eq_ok_iff.mp read
    obtain ⟨_, -, owned⟩ := Rule.required_eq_ok_iff.mp owned
    obtain ⟨_, -, owned⟩ := Rule.object_eq_ok_iff.mp owned
    obtain ⟨-, -, -, valid⟩ := OwnerRequest.ofFields_eq_ok_iff.mp owned
    obtain ⟨owner, made⟩ := OwnerRequest.exists_toOwner_iff.mpr valid
    exact ⟨owner, made, fun commit shows => Build.exists_ofAnswers slashed shows positive⟩
  admits request commit owner build spelled made built := by
    obtain ⟨slashed, -, positive⟩ := Build.exists_ofParts_iff.mp ⟨build, built⟩
    obtain ⟨_, given, ownerSpelled⟩ := spelled.owner
    have valid := OwnerRequest.exists_toOwner_iff.mp ⟨owner, made⟩
    exact ofFields_eq_ok_iff.mpr ⟨Rule.required_of_get? spelled.repository rfl,
      Rule.required_of_get? spelled.number rfl,
      Rule.required_of_get? given (OwnerRequest.ofFields_of_isSpelledBy ownerSpelled valid), slashed,
      positive _ rfl⟩

end PullRequest

end PatchReview
