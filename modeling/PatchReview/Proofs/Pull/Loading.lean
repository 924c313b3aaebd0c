import PatchReview.Proofs.Attempt
import PatchReview.Proofs.Json.Access
import PatchReview.Proofs.Linter.Reviews
import PatchReview.Pull.Run

/-! Which entries of a pull request are loaded. An entry that says it is removed, or that no linter wants, is
skipped before the host is asked. Of the others the host is asked for the content, and an answer that is
no text skips the entry as well.
-/

namespace PatchReview

open PatchReview.Text

variable {σ : Type}

-----------------------------------------------------------------------------------------
-- Files of entries
-----------------------------------------------------------------------------------------

/-- Only the word for it says that a file is removed. -/
theorem FileStatus.eq_removed_of_ofAnswer {answer : Json} (made : ofAnswer answer = .ok .removed)
    : answer = .str "removed" := by
  obtain ⟨_, -, made⟩ := Except.bind_eq_ok_iff.mp made
  cases answer with
  | str name =>
      have found : ofHostName name = .removed := Except.ok.inj made
      unfold ofHostName at found
      split at found
      · cases found
      · cases known : ofName? name with
        | none => simp [known] at found
        | some status =>
            obtain rfl : status = .removed := by simpa [known] using found
            have named := List.find?_some known
            rw [← eq_of_beq named]
            rfl
  | null | bool | int | float | arr | obj => cases made

/-- A file is made of the parts of its entry. -/
theorem ChangedFile.parts_of_ofEntry {entry content : Json} {file : ChangedFile}
    (made : ofEntry entry content = .ok file)
    : ∃ fields,
        entry = .obj fields
        ∧ Assoc.get? "filename" fields = some (.str file.filename)
        ∧ file.content = content
        ∧ chunksOf (Json.getD fields "patch" .null) = .ok file.chunks
        ∧ FileStatus.ofAnswer (Json.getD fields "status" (.str "modified")) = .ok file.status := by
  obtain ⟨name, named, made⟩ := Except.bind_eq_ok_iff.mp made
  obtain ⟨fields, rfl, found⟩ := Json.entry_eq_ok_iff.mp named
  obtain ⟨_, known, made⟩ := Except.bind_eq_ok_iff.mp made
  obtain rfl := Json.obj.inj (Json.fieldsFor_eq_ok_iff.mp known)
  obtain ⟨chunks, cut, made⟩ := Except.bind_eq_ok_iff.mp made
  obtain ⟨status, answered, made⟩ := Except.bind_eq_ok_iff.mp made
  obtain ⟨filename, spelled, made⟩ := Except.bind_eq_ok_iff.mp made
  obtain rfl := Json.textFor_eq_ok_iff.mp spelled
  have parts := Except.mapError_eq_ok_iff.mp made
  unfold ofParts at parts
  split at parts
  · cases parts
  · cases parts
    exact ⟨fields, rfl, found, rfl, cut, answered⟩

/-- An entry says that its file is removed. -/
def SaysRemoved (fields : Json.Fields) : Prop :=
  Assoc.get? "status" fields = some (.str "removed")

/-- A file is removed only where its entry says so. -/
theorem ChangedFile.says_removed {fields : Json.Fields} {content : Json} {file : ChangedFile}
    (made : ofEntry (.obj fields) content = .ok file) (removed : file.isRemoved = true)
    : SaysRemoved fields := by
  obtain ⟨_, same, -, -, -, answered⟩ := parts_of_ofEntry made
  obtain rfl := Json.obj.inj same
  rw [eq_of_beq removed] at answered
  have told := FileStatus.eq_removed_of_ofAnswer answered
  cases given : Assoc.get? "status" fields with
  | none => simp [Json.getD_of_none given] at told
  | some answer =>
      rw [Json.getD_of_some given] at told
      rw [SaysRemoved, given, told]

-----------------------------------------------------------------------------------------
-- Loaded entries
-----------------------------------------------------------------------------------------

theorem saysRemoved_iff {fields : Json.Fields}
    : (Json.getD fields "status" .null).same (.str "removed") = true ↔ SaysRemoved fields := by
  unfold SaysRemoved
  cases given : Assoc.get? "status" fields with
  | none => simp [Json.getD_of_none given, Json.same]
  | some answer =>
      rw [Json.getD_of_some given, Option.some.injEq]
      cases answer with
      | str status => simp [Json.same]
      | null | bool | int | float | arr | obj => simp [Json.same, Json.sameQuantity, Json.quantity?]

/-- What is made of an entry with what the host answers about its content. -/
def ChangedFile.ofAnswer (entry : Json)
    : Except Failure (Option Json) → Except Failure (Option ChangedFile)
  | .error (.bytes _) => .ok none
  | .error failure => .error failure
  | .ok none => .ok none
  | .ok (some content) => (ChangedFile.ofEntry entry content).map some

/-- A failure stops an entry, unless it is about bytes that are no text. -/
theorem ChangedFile.ofAnswer_error {entry : Json} {failure : Failure}
    (other : ¬ ∃ fault, failure = .bytes fault)
    : ofAnswer entry (.error failure) = .error failure := by
  unfold ofAnswer
  split
  · next fault same => exact absurd ⟨fault, Except.error.inj same⟩ other
  · next same => exact congrArg Except.error (Except.error.inj same).symm
  · next same => cases same
  · next same => cases same

namespace Reviewer

variable {linters : List Linter} {fields : Json.Fields} {filename : String}

/-- What becomes of an entry with a name is decided by its status, then by the linters and then by the host. -/
theorem loadFile_of_named (named : Assoc.get? "filename" fields = some (.str filename)) (host : Host σ)
    (build : Build)
    : loadFile host build linters (.obj fields)
      = if (Json.getD fields "status" .null).same (.str "removed") then pure none
        else do
          if ← Attempt.ofExcept (linters.anyM (·.wants? (.str filename))) then
            let fetched ←
              Attempt.ofState (host.fetchFile build.repository (.str build.commit) (.str filename)).outcome
            Attempt.ofExcept (ChangedFile.ofAnswer (.obj fields) fetched)
          else return none := by
  have name : Json.entry "filename" (.obj fields) = .ok (.str filename) :=
    Json.entry_eq_ok_iff.mpr ⟨fields, rfl, named⟩
  have known : Json.fieldsFor "get" (.obj fields) = .ok fields := rfl
  unfold loadFile
  rw [name, known]
  -- The entry is taken apart without a failure, which leaves the two tests one inside the other.
  show (if _ then _ else _) = _
  split
  · rfl
  · refine congrArg (_ >>= ·) (funext fun wanted => ?_)
    cases wanted with
    | false => rfl
    | true =>
        refine congrArg (_ >>= ·) (funext fun fetched => ?_)
        cases fetched with
        | error failure => cases failure <;> rfl
        | ok answer =>
            cases answer with
            | none => rfl
            | some content => exact Attempt.map_ofExcept some _

/-- Linters none of which wants a file agree on that, by induction on the linters. -/
theorem anyM_wants?_eq_false (unwanted : ∀ linter ∈ linters, linter.wants? (.str filename) = .ok false)
    : linters.anyM (·.wants? (.str filename)) = .ok false := by
  induction linters with
  | nil => rfl
  | cons linter rest ih =>
      rw [List.anyM, unwanted linter List.mem_cons_self]
      exact ih fun other member => unwanted other (List.mem_cons_of_mem _ member)

/-- Linters that know whether one of them wants a file either have one that does or none, by induction on the
linters.
-/
theorem anyM_wants?_cases {wanted : Bool} (known : linters.anyM (·.wants? (.str filename)) = .ok wanted)
    : wanted = true ∧ (∃ linter ∈ linters, linter.wants filename = true)
      ∨ wanted = false ∧ ∀ linter ∈ linters, linter.wants? (.str filename) = .ok false := by
  induction linters with
  | nil =>
      cases known
      exact Or.inr ⟨rfl, List.forall_mem_nil _⟩
  | cons linter rest ih =>
      obtain ⟨here, asked, known⟩ := Except.bind_eq_ok_iff.mp known
      cases here with
      | true =>
          cases known
          exact Or.inl ⟨rfl, linter, List.mem_cons_self, Linter.wants_iff.mpr asked⟩
      | false =>
          rcases ih known with ⟨rfl, other, member, wants⟩ | ⟨rfl, unwanted⟩
          · exact Or.inl ⟨rfl, other, List.mem_cons_of_mem _ member, wants⟩
          · exact Or.inr ⟨rfl, List.forall_mem_cons.mpr ⟨asked, unwanted⟩⟩

/-- Linters whose names and endings are texts can tell whether one of them wants a file, by induction on the
linters.
-/
theorem exists_anyM_wants? (spelled : ∀ linter ∈ linters, linter.kind.IsSpelled) (filename : String)
    : ∃ wanted, linters.anyM (·.wants? (.str filename)) = .ok wanted := by
  induction linters with
  | nil => exact ⟨false, rfl⟩
  | cons linter rest ih =>
      obtain ⟨here, others⟩ := List.forall_mem_cons.mp spelled
      obtain ⟨wanted, known⟩ := Linter.exists_wants? here filename
      obtain ⟨later, asked⟩ := ih others
      rw [List.anyM, known]
      cases wanted with
      | true => exact ⟨true, rfl⟩
      | false => exact ⟨later, asked⟩

/-- An entry is passed over for its status or since no linter wants it, or it is not known whether one does, or one
does. -/
theorem gated_cases (fields : Json.Fields) (filename : String) (linters : List Linter)
    : (SaysRemoved fields ∨ ∀ linter ∈ linters, linter.wants? (.str filename) = .ok false)
      ∨ ¬ SaysRemoved fields ∧ (∃ failure, linters.anyM (·.wants? (.str filename)) = .error failure)
      ∨ ¬ SaysRemoved fields
        ∧ linters.anyM (·.wants? (.str filename)) = .ok true
        ∧ ∃ linter ∈ linters, linter.wants filename = true := by
  by_cases removed : SaysRemoved fields
  · exact Or.inl (Or.inl removed)
  · cases asked : linters.anyM (·.wants? (.str filename)) with
    | error failure => exact Or.inr (Or.inl ⟨removed, failure, rfl⟩)
    | ok wanted =>
        rcases anyM_wants?_cases asked with ⟨rfl, wants⟩ | ⟨-, unwanted⟩
        · exact Or.inr (Or.inr ⟨removed, rfl, wants⟩)
        · exact Or.inl (Or.inr unwanted)

/-- An entry that is removed or that no linter wants is skipped, and no host is asked about it. -/
theorem loadFile_of_skipped (named : Assoc.get? "filename" fields = some (.str filename))
    (skipped : SaysRemoved fields ∨ ∀ linter ∈ linters, linter.wants? (.str filename) = .ok false)
    (host : Host σ) (build : Build)
    : loadFile host build linters (.obj fields) = pure none := by
  rw [loadFile_of_named named]
  split
  · rfl
  · next there =>
      rcases skipped with removed | unwanted
      · exact absurd (saysRemoved_iff.mpr removed) there
      · rw [anyM_wants?_eq_false unwanted]
        rfl

/-- Of an entry that is there and wanted, the host is asked for the content. -/
theorem on_loadFile_of_wanted (named : Assoc.get? "filename" fields = some (.str filename))
    (there : ¬ SaysRemoved fields) (wanted : linters.anyM (·.wants? (.str filename)) = .ok true)
    (host : Host σ) (build : Build) (state : σ)
    : (loadFile host build linters (.obj fields)).on state
      = Prod.map (ChangedFile.ofAnswer (.obj fields)) id
          ((host.fetchFile build.repository (.str build.commit) (.str filename)).on state) := by
  rw [loadFile_of_named named, if_neg (mt saysRemoved_iff.mp there), wanted]
  rfl

/-- Of an entry that is there nothing is had when it is not known whether it is wanted. -/
theorem on_loadFile_of_unknown (named : Assoc.get? "filename" fields = some (.str filename))
    (there : ¬ SaysRemoved fields) {failure : Failure}
    (unknown : linters.anyM (·.wants? (.str filename)) = .error failure) (host : Host σ) (build : Build)
    (state : σ)
    : (loadFile host build linters (.obj fields)).on state = (.error failure, state) := by
  rw [loadFile_of_named named, if_neg (mt saysRemoved_iff.mp there), unknown]
  rfl

end Reviewer

end PatchReview
