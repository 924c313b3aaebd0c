import Mathlib.Data.List.ReduceOption
import PatchReview.Linter.Run
import PatchReview.Proofs.Attempt
import PatchReview.Proofs.Json.Access
import PatchReview.Proofs.Review.Storage
import PatchReview.Proofs.Review.Violations

/-! What one linter does to one file: it finishes a review, which is complete and kept at once, or it
fails and keeps nothing.
-/

namespace PatchReview

variable {σ : Type}

-----------------------------------------------------------------------------------------
-- Attempts outside a session
-----------------------------------------------------------------------------------------

namespace Attempt

variable {α β : Type}

theorem on_outside (attempt : Attempt σ α) (session : Session σ)
    : attempt.outside.on session
      = ((attempt.on session.outside).1, ⟨(attempt.on session.outside).2, session.store⟩) :=
  rfl

/-- What is done outside a session leaves its reviews. -/
theorem store_of_outside {attempt : Attempt σ α} {before after : Session σ} {result : Except Failure α}
    (made : attempt.outside.on before = (result, after))
    : after.store = before.store := by
  rw [on_outside] at made
  exact (congrArg Session.store (Prod.mk.inj made).2).symm

theorem outside_bind (first : Attempt σ α) (next : α → Attempt σ β)
    : (first >>= next).outside = first.outside >>= fun value => (next value).outside := by
  refine ext fun session => ?_
  rw [on_bind, on_outside, on_outside, on_bind]
  cases first.on session.outside with
  | mk result reached =>
      cases result with
      | error failure => rfl
      | ok value => rfl

@[simp] theorem outside_pure (value : α) : (pure value : Attempt σ α).outside = pure value := rfl

@[simp] theorem outside_ofExcept (result : Except Failure α)
    : (ofExcept result : Attempt σ α).outside = ofExcept result := rfl

end Attempt

-----------------------------------------------------------------------------------------
-- Linters for a file
-----------------------------------------------------------------------------------------

/-- A linter is known to want a file. -/
def Linter.wants (linter : Linter) (filename : String) : Bool :=
  match linter.wants? (.str filename) with
  | .ok wanted => wanted
  | .error _ => false

/-- The linters that are asked whether they want a file: all of them, in order, and none for a removed one. -/
def Linter.asked (linters : List Linter) (file : ChangedFile) : List Linter :=
  if file.isRemoved then [] else linters

/-- The linters that review a file: those that want it, in order, and none for a removed one. -/
def Linter.called (linters : List Linter) (file : ChangedFile) : List Linter :=
  (asked linters file).filter (·.wants file.filename)

theorem Linter.mem_of_mem_called {linters : List Linter} {linter : Linter} {file : ChangedFile}
    (member : linter ∈ called linters file)
    : linter ∈ linters := by
  have listed : linter ∈ asked linters file := (List.mem_filter.mp member).1
  unfold asked at listed
  split at listed
  · cases listed
  · exact listed

theorem Linter.wants_iff {linter : Linter} {filename : String}
    : linter.wants filename = true ↔ linter.wants? (.str filename) = .ok true := by
  unfold wants
  cases linter.wants? (.str filename) with
  | error failure => simp
  | ok wanted => simp

/-- The linters that are asked about a file review it one after the other, where they want it. -/
theorem Linter.reviewAll_eq (outside : Outside σ) (linters : List Linter) (file : ChangedFile)
    : Linter.reviewAll outside linters file
      = List.reduceOption <$> (asked linters file).mapM fun linter => linter.reviewWanted outside file := by
  unfold reviewAll asked
  split
  · rfl
  · rfl

/-- A linter whose review is had wants the file, and one that has none does not. -/
theorem Linter.reviewWanted_of_ok {outside : Outside σ} {linter : Linter} {file : ChangedFile}
    {before after : Session σ} {reviewed : Option FileReview}
    (made : (linter.reviewWanted outside file).on before = (.ok reviewed, after))
    : linter.wants file.filename = false ∧ reviewed = none ∧ after = before
      ∨ ∃ review,
          linter.wants file.filename = true
          ∧ reviewed = some review
          ∧ (linter.review outside file).on before = (.ok review, after) := by
  obtain ⟨wanted, known, made⟩ := Attempt.on_ofExcept_bind_eq_ok_iff.mp made
  cases wanted with
  | false =>
      cases made
      refine Or.inl ⟨?_, rfl, rfl⟩
      rw [wants, known]
  | true =>
      obtain ⟨review, reviewing, rfl⟩ := Attempt.on_map_eq_ok_iff.mp made
      exact Or.inr ⟨review, wants_iff.mpr known, rfl, reviewing⟩

/-- When all reviews of a file are had, those linters have made them that are called for it, by induction on the
linters.
-/
theorem Linter.reviewAll_of_ok {outside : Outside σ} {linters : List Linter} {file : ChangedFile}
    {before after : Session σ} {reviews : List FileReview}
    (made : (reviewAll outside linters file).on before = (.ok reviews, after))
    : Attempt.on ((called linters file).mapM fun linter => linter.review outside file) before
      = (.ok reviews, after) := by
  rw [reviewAll_eq] at made
  obtain ⟨reviewed, ran, rfl⟩ := Attempt.on_map_eq_ok_iff.mp made
  clear made
  unfold called
  generalize asked linters file = items at ran ⊢
  induction items generalizing before reviewed with
  | nil =>
      cases ran
      rfl
  | cons linter rest ih =>
      rw [List.mapM_cons] at ran
      obtain ⟨first, middle, here, ran⟩ := Attempt.on_bind_eq_ok_iff.mp ran
      obtain ⟨others, reached, later, ran⟩ := Attempt.on_bind_eq_ok_iff.mp ran
      cases ran
      have later := ih _ later
      rcases reviewWanted_of_ok here with ⟨unwanted, rfl, rfl⟩ | ⟨review, wanted, rfl, reviewing⟩
      · rw [List.filter_cons_of_neg (by simp [unwanted])]
        exact later
      · rw [List.filter_cons, if_pos wanted, List.mapM_cons]
        exact Attempt.on_bind_eq_ok_iff.mpr ⟨review, middle, reviewing,
          Attempt.on_bind_eq_ok_iff.mpr ⟨_, _, later, rfl⟩⟩

/-- A linter that wants a file has a text for its name. -/
theorem Linter.exists_name_of_wants {linter : Linter} {filename : String}
    (wants : linter.wants filename = true)
    : ∃ name, linter.kind.name = .str name := by
  obtain ⟨claimed, -, switched⟩ := Except.bind_eq_ok_iff.mp (wants_iff.mp wants)
  cases claimed with
  | false => cases switched
  | true =>
      obtain ⟨name, known, -⟩ := Except.bind_eq_ok_iff.mp switched
      exact ⟨name, Json.textFor_eq_ok_iff.mp known⟩

/-- The name of a linter and the endings that it claims are texts, as whoever adds a linter is meant to give them.
-/
structure LinterKind.IsSpelled (kind : LinterKind) : Prop where
  name : ∃ name, kind.name = .str name
  suffixes : ∀ suffix ∈ kind.suffixes, ∃ ending, suffix = .str ending

theorem Registry.isSpelled_standard : ∀ kind ∈ standard, kind.IsSpelled := by
  refine List.forall_mem_singleton.mpr ⟨⟨_, rfl⟩, ?_⟩
  simp [LinterKind.coffeeScript]

/-- The linters for a build are spelled when those of the registry are. -/
theorem Linter.spelled_forBuild {registry : Registry} (spelled : ∀ kind ∈ registry, kind.IsSpelled)
    (engine : Engine) (pointer : Option Json) (switches : Switches) (build : Build)
    : ∀ linter ∈ forBuild registry engine pointer switches build, linter.kind.IsSpelled :=
  List.forall_mem_map.mpr spelled

/-- Whether a file has one of some endings that are texts can be told, by induction on the endings. -/
theorem LinterKind.exists_hasEnding {suffixes : List Json} (filename : String)
    (spelled : ∀ suffix ∈ suffixes, ∃ ending, suffix = .str ending)
    : ∃ found, hasEnding (.str filename) suffixes = .ok found := by
  induction suffixes with
  | nil => exact ⟨false, rfl⟩
  | cons suffix rest ih =>
      obtain ⟨⟨ending, rfl⟩, others⟩ := List.forall_mem_cons.mp spelled
      obtain ⟨found, later⟩ := ih others
      rw [hasEnding]
      dsimp only [Json.textFor, bind, Except.bind]
      split
      · exact ⟨true, rfl⟩
      · exact ⟨found, later⟩

/-- A linter whose name and endings are texts can tell whether it wants a file. -/
theorem Linter.exists_wants? {linter : Linter} (spelled : linter.kind.IsSpelled) (filename : String)
    : ∃ wanted, linter.wants? (.str filename) = .ok wanted := by
  obtain ⟨⟨name, named⟩, suffixes⟩ := spelled
  obtain ⟨claimed, found⟩ := LinterKind.exists_hasEnding filename suffixes
  rw [wants?, LinterKind.claims?, found, enabled?, named]
  cases claimed with
  | false => exact ⟨false, rfl⟩
  | true => exact ⟨linter.switches.isEnabled name, rfl⟩

-----------------------------------------------------------------------------------------
-- One linter on one file
-----------------------------------------------------------------------------------------

/-- (review.Finishes linter file) says of a review that it is the linter's for the file, complete and kept,
and that its violations stand in the file.
-/
structure FileReview.Finishes (review : FileReview) (linter : Linter) (file : ChangedFile) : Prop where
  filename : review.filename = .str file.filename
  linter : review.linter = linter.kind.name
  completed : review.isCompleted = true
  persisted : review.persisted = true
  stand : ∀ violation ∈ review.violations, violation.StandsIn (.str file.filename)

/-- A review is sound when it is complete and kept, its file and linter are named by texts, and its
violations stand in the file.
-/
structure FileReview.IsSound (review : FileReview) : Prop where
  completed : review.isCompleted = true
  persisted : review.persisted = true
  named : review.IsNamed
  stand : ∀ violation ∈ review.violations, violation.StandsIn review.filename

/-- What a linter finishes is sound when its name is a text. -/
theorem FileReview.Finishes.isSound {review : FileReview} {linter : Linter} {file : ChangedFile}
    {name : String} (finishes : review.Finishes linter file) (named : linter.kind.name = .str name)
    : review.IsSound where
  completed := finishes.completed
  persisted := finishes.persisted
  named := FileReview.isNamed finishes.filename (finishes.linter.trans named)
  stand := finishes.filename ▸ finishes.stand

/-- What a linter does with what its engine found in a file. -/
def Linter.conclude (linter : Linter) (outside : Outside σ) (file : ChangedFile) (found : List Finding)
    : Attempt (Session σ) FileReview := do
  let started := FileReview.start (.str file.filename) linter.kind.name
  let review ← Attempt.ofExcept ((started.addFindings file.positionFor found).mapError .refused)
  let now ← Attempt.ofState outside.time
  let kept := (review.complete now).persist
  modify fun session => { session with store := session.store.save kept.key kept }
  return kept

theorem Linter.review_eq (linter : Linter) (outside : Outside σ) (file : ChangedFile)
    : linter.review outside file
      = (linter.findings outside file).outside >>= linter.conclude outside file :=
  rfl

/-- Findings that are recorded make a review that is finished and kept, with the violations recorded. -/
theorem Linter.on_conclude {linter : Linter} {file : ChangedFile} {found : List Finding}
    {gathered : FileReview}
    (recorded : (FileReview.start (.str file.filename) linter.kind.name).addFindings file.positionFor found
      = .ok gathered)
    (outside : Outside σ) (session : Session σ)
    : ∃ review after,
        (linter.conclude outside file found).on session = (.ok review, after)
        ∧ review.violations = gathered.violations
        ∧ review.Finishes linter file
        ∧ after.store = session.store.save review.key review := by
  obtain ⟨frame, stand⟩ := FileReview.extends_addFindings recorded
  rw [conclude, Attempt.on_bind, Attempt.on_ofExcept, recorded]
  refine ⟨_, _, rfl, rfl, ?_, rfl⟩
  rw [frame]
  exact ⟨rfl, rfl, rfl, rfl, stand (by simp [FileReview.start])⟩

/-- A linter on a file fails and keeps nothing, or it keeps the review that it finishes, by cases on what it
finds and on whether that is recorded.
-/
theorem Linter.review_cases {outside : Outside σ} {linter : Linter} {file : ChangedFile}
    {before after : Session σ} {result : Except Failure FileReview}
    (made : (linter.review outside file).on before = (result, after))
    : (∃ failure, result = .error failure ∧ after.store = before.store)
      ∨ ∃ review,
          result = .ok review
          ∧ review.Finishes linter file
          ∧ after.store = before.store.save review.key review := by
  rw [review_eq, Attempt.on_bind, Attempt.on_outside] at made
  generalize (linter.findings outside file).on before.outside = linted at made
  obtain ⟨found, reached⟩ := linted
  cases found with
  | error failure =>
      cases made
      exact Or.inl ⟨failure, rfl, rfl⟩
  | ok found =>
      dsimp only at made
      cases recorded
          : (FileReview.start (.str file.filename) linter.kind.name).addFindings file.positionFor
              found with
      | error refusal =>
          rw [conclude, Attempt.on_bind, Attempt.on_ofExcept, recorded] at made
          cases made
          exact Or.inl ⟨.refused refusal, rfl, rfl⟩
      | ok gathered =>
          obtain ⟨review, last, concluded, -, finishes, kept⟩ :=
            on_conclude recorded outside ⟨reached, before.store⟩
          rw [concluded] at made
          cases made
          exact Or.inr ⟨review, rfl, finishes, kept⟩

/-- Linters that review a file finish one review each, in order. -/
theorem Linter.forall₂_finishes {outside : Outside σ} {linters : List Linter} {file : ChangedFile}
    {before after : Session σ} {reviews : List FileReview}
    (made : Attempt.on (linters.mapM fun linter => linter.review outside file) before
      = (.ok reviews, after))
    : List.Forall₂ (fun linter review => review.Finishes linter file) linters reviews := by
  refine (Attempt.forall₂_of_mapM made).imp fun linter review reviewed => ?_
  obtain ⟨_, _, here⟩ := reviewed
  obtain ⟨failure, absurd, -⟩ | ⟨_, same, finishes, -⟩ := review_cases here
  · cases absurd
  · cases same
    exact finishes

end PatchReview
