import Mathlib.Logic.Relation
import PatchReview.Proofs.Attempt
import PatchReview.Pull.Run

/-! What a review does outside of itself: it only calls the host, the engine and the clock. A state that
such calls lead to from the start of a run is one at which an answer can be given in the run.
-/

namespace PatchReview

variable {σ τ α β : Type}

-----------------------------------------------------------------------------------------
-- Attempts along a relation
-----------------------------------------------------------------------------------------

namespace Attempt

/-- An attempt moves along a relation when it leads from every state to a related one, also where it
fails.
-/
def Follows (R : σ → σ → Prop) (attempt : Attempt σ α) : Prop :=
  ∀ state, R state (attempt.on state).2

variable {R : σ → σ → Prop}

theorem follows_pure [Std.Refl R] (value : α) : Follows R (pure value : Attempt σ α) :=
  fun state => refl_of R state

theorem follows_ofExcept [Std.Refl R] (result : Except Failure α) : Follows R (ofExcept result) :=
  fun state => refl_of R state

/-- Two steps in a row stay on a relation that goes on, by cases on how the first ends. -/
theorem Follows.bind [IsTrans σ R] {first : Attempt σ α} {next : α → Attempt σ β}
    (leads : Follows R first) (goesOn : ∀ value, Follows R (next value))
    : Follows R (first >>= next) := by
  intro state
  have reached := leads state
  rw [on_bind]
  cases made : first.on state with
  | mk result middle =>
      rw [made] at reached
      cases result with
      | error failure => exact reached
      | ok value => exact trans_of R reached (goesOn value middle)

theorem Follows.map {attempt : Attempt σ α} (leads : Follows R attempt) (f : α → β)
    : Follows R (f <$> attempt) := by
  intro state
  rw [on_map]
  exact leads state

/-- What is done on a part of a state moves this part only. -/
theorem Follows.outside {R : σ → σ → Prop} {attempt : Attempt σ α} (leads : Follows R attempt)
    : Follows (Function.onFun R Session.outside) attempt.outside :=
  fun session => leads session.outside

/-- Steps for all items of a list stay on a relation, by induction on the list. -/
theorem follows_mapM [Std.Refl R] [IsTrans σ R] {items : List β} {step : β → Attempt σ α}
    (leads : ∀ item ∈ items, Follows R (step item))
    : Follows R (items.mapM step) := by
  induction items with
  | nil => exact follows_pure []
  | cons item rest ih =>
      rw [List.mapM_cons]
      have later := ih fun other member => leads other (List.mem_cons_of_mem item member)
      exact (leads item List.mem_cons_self).bind fun _ => later.bind fun _ => follows_pure _

/-- Every result of steps for the items of a list is the result of the step for one of them, at a state
that the steps before lead to. Witness: induction on the list.
-/
theorem exists_of_mem_mapM [Std.Refl R] [IsTrans σ R] {items : List β} {step : β → Attempt σ α}
    {results : List α} {state last : σ} (leads : ∀ item ∈ items, Follows R (step item))
    (made : (items.mapM step).on state = (.ok results, last)) {result : α} (member : result ∈ results)
    : ∃ item ∈ items, ∃ before after,
        R state before ∧ (step item).on before = (.ok result, after) := by
  induction items generalizing state results with
  | nil =>
      cases made
      cases member
  | cons item rest ih =>
      rw [List.mapM_cons] at made
      obtain ⟨first, middle, here, later⟩ := on_bind_eq_ok_iff.mp made
      obtain ⟨others, reached, there, joined⟩ := on_bind_eq_ok_iff.mp later
      cases joined
      rcases List.mem_cons.mp member with rfl | among
      · exact ⟨item, List.mem_cons_self, state, middle, refl_of R state, here⟩
      · obtain ⟨other, inRest, before, after, path, found⟩ :=
          ih (fun other inRest => leads other (List.mem_cons_of_mem item inRest)) there among
        have start := leads item List.mem_cons_self state
        rw [here] at start
        exact ⟨other, List.mem_cons_of_mem item inRest, before, after, trans_of R start path, found⟩

end Attempt

-----------------------------------------------------------------------------------------
-- Calls
-----------------------------------------------------------------------------------------

namespace Outside

/-- (outside.Call before after) says that one call to the host, the engine or the clock leads from the
state `before` to the state `after`.
-/
inductive Call (outside : Outside σ) : σ → σ → Prop where
  | pullRequest (repository number : Json) (state : σ)
    : Call outside state ((outside.host.pullRequest repository number).on state).2
  | changedFiles (repository number : Json) (state : σ)
    : Call outside state ((outside.host.changedFiles repository number).on state).2
  | branchHead (repository : Json) (state : σ)
    : Call outside state ((outside.host.branchHead repository).on state).2
  | fetchFile (repository ref path : Json) (state : σ)
    : Call outside state ((outside.host.fetchFile repository ref path).on state).2
  | engine (invocation : Invocation Datum) (state : σ)
    : Call outside state ((outside.runEngine invocation).run state).2
  | clock (state : σ) : Call outside state (outside.now.run state).2

/-- Calls, one after the other. -/
abbrev Leads (outside : Outside σ) : σ → σ → Prop := Relation.ReflTransGen outside.Call

/-- Calls within sessions. -/
abbrev LeadsWithin (outside : Outside σ) : Session σ → Session σ → Prop :=
  Function.onFun outside.Leads Session.outside

/-- (outside.Answers start question answer) says that a question has this answer at a state to which
calls lead from `start`.
-/
def Answers (outside : Outside σ) (start : σ) (question : Attempt σ α) (answer : α) : Prop :=
  ∃ state, outside.Leads start state ∧ (question.on state).1 = .ok answer

/-- Answers that are given later on are given. -/
theorem Answers.earlier {outside : Outside σ} {start state : σ} {question : Attempt σ α} {answer : α}
    (leads : outside.Leads start state) (answers : outside.Answers state question answer)
    : outside.Answers start question answer := by
  obtain ⟨reached, later, given⟩ := answers
  exact ⟨reached, leads.trans later, given⟩

end Outside

-----------------------------------------------------------------------------------------
-- Consultations
-----------------------------------------------------------------------------------------

/-- (outside.Consults attempt) says that an attempt is put together from questions about heads and files,
runs of the engine and what needs nothing outside, whatever becomes of them.
-/
inductive Outside.Consults (outside : Outside σ) : {α : Type} → Attempt σ α → Prop where
  | branchHead (repository : Json) : Consults outside (outside.host.branchHead repository)
  | fetchFile (repository ref path : Json)
    : Consults outside (outside.host.fetchFile repository ref path)
  | engine (invocation : Invocation Datum)
    : Consults outside (Attempt.ofState (outside.runEngine invocation))
  | settled {γ : Type} (result : Except Failure γ) : Consults outside (Attempt.ofExcept result)
  | bind {γ δ : Type} {first : Attempt σ γ} {next : γ → Attempt σ δ} (begins : Consults outside first)
    (goesOn : ∀ value, Consults outside (next value))
    : Consults outside (first >>= next)
  | outcome {γ : Type} {attempt : Attempt σ γ} (consults : Consults outside attempt)
    : Consults outside (Attempt.ofState attempt.outcome)

section Conduct

open Attempt Outside

variable {outside : Outside σ}

theorem consults_pure (value : α) : outside.Consults (pure value) := .settled (.ok value)

theorem consults_throw (failure : Failure) : outside.Consults (throw failure : Attempt σ α) :=
  .settled (.error failure)

/-- What is made of a result consults no further. -/
theorem Outside.Consults.map {attempt : Attempt σ α} (consults : outside.Consults attempt) (f : α → β)
    : outside.Consults (f <$> attempt) := by
  rw [map_eq_pure_bind]
  exact consults.bind fun value => consults_pure (f value)

/-- What consults the outside is done by calls, by induction on how it is put together. -/
theorem Outside.Consults.follows {attempt : Attempt σ α} (consults : outside.Consults attempt)
    : Follows outside.Leads attempt := by
  induction consults with
  | branchHead repository => exact fun state => .single (.branchHead repository state)
  | fetchFile repository ref path => exact fun state => .single (.fetchFile repository ref path state)
  | engine invocation => exact fun state => .single (.engine invocation state)
  | settled result => exact follows_ofExcept result
  | bind _ _ begins goesOn => exact begins.bind goesOn
  | outcome _ follows => exact follows

variable (outside)

/-- Documents are fetched. -/
theorem Config.consults_fetch (repository ref path : Json)
    : outside.Consults (Config.fetch outside.host repository ref path) := by
  refine (Consults.fetchFile repository ref path).outcome.bind fun outcome => ?_
  split
  · exact consults_throw _
  · exact consults_throw _
  · exact consults_pure _

theorem Config.consults_load (repository ref path : Json)
    : outside.Consults (Config.load outside.host repository ref path) :=
  (Config.consults_fetch outside repository ref path).bind fun _ => .settled _

theorem Candidate.consults_load (repository ref : Json) (candidate : Candidate)
    : outside.Consults (candidate.load outside.host repository ref) := by
  cases candidate with
  | fixed path => exact Config.consults_load outside repository ref path
  | pointed linter pointer =>
      refine Consults.bind (Config.consults_fetch outside repository ref pointer) fun _ => ?_
      refine (Consults.settled _).bind fun _ => (Consults.settled _).bind fun _ => ?_
      split
      · exact consults_throw _
      · exact Config.consults_load outside repository ref _

/-- Candidates are tried in order, by induction on the candidates. -/
theorem Candidate.consults_firstUsable (repository ref : Json) (candidates : List Candidate)
    : outside.Consults (Candidate.firstUsable outside.host repository ref candidates) := by
  induction candidates with
  | nil => exact consults_pure []
  | cons candidate rest ih =>
      refine (Candidate.consults_load outside repository ref candidate).outcome.bind fun outcome => ?_
      split
      · exact consults_pure _
      · split
        · exact ih
        · exact consults_throw _

theorem Config.consults_ofOwner (pointer : Json) (owner : Owner) (linter : Json) (legacy : List Json)
    : outside.Consults (Config.ofOwner outside.host pointer owner linter legacy) := by
  unfold Config.ofOwner
  split
  · exact consults_pure _
  · refine (Consults.branchHead _).outcome.bind fun outcome => ?_
    split
    · exact consults_pure _
    · exact Candidate.consults_firstUsable outside _ _ _

theorem Config.consults_ofRepository (build : Build) (switches : Switches) (linter : Json)
    : outside.Consults (Config.ofRepository outside.host build switches linter) := by
  refine (Consults.settled _).bind fun name => ?_
  dsimp only
  split
  · exact consults_pure _
  · refine (Config.consults_load outside _ _ _).outcome.bind fun outcome => ?_
    split
    · exact consults_pure _
    · split
      · exact consults_pure _
      · exact consults_throw _

theorem Switches.consults_load (repository ref path : Json)
    : outside.Consults (Switches.load outside.host repository ref path) := by
  refine (Consults.fetchFile repository ref path).outcome.bind fun outcome => ?_
  split
  · exact consults_pure _
  · exact consults_pure _
  · split
    · exact consults_pure _
    · exact consults_pure _
    · exact consults_throw _

theorem Linter.consults_config (linter : Linter)
    : outside.Consults (linter.config outside.host) := by
  unfold Linter.config
  split
  · exact consults_pure _
  · refine (Config.consults_ofOwner outside _ _ _ _).bind fun _ => ?_
    exact (Config.consults_ofRepository outside _ _ _).bind fun _ => consults_pure _

theorem Engine.consults_lint (engine : Engine) (source config : Json)
    : outside.Consults (engine.lint outside.runEngine source config) :=
  (Consults.settled _).bind fun _ => (Consults.engine _).bind fun _ => .settled _

/-- A linter consults the host about its configuration and then the engine. -/
theorem Linter.consults_findings (linter : Linter) (file : ChangedFile)
    : outside.Consults (linter.findings outside file) :=
  (Consults.settled _).bind fun _ =>
    (Linter.consults_config outside linter).bind fun _ => Engine.consults_lint outside _ _ _

/-- The linters for a build are switched by a document of its repository. -/
theorem Reviewer.consults_linters (reviewer : Reviewer) (build : Build)
    : outside.Consults (reviewer.linters outside.host build) :=
  (Switches.consults_load outside _ _ _).bind fun _ => consults_pure _

/-- A file is loaded from the host, unless it is passed over before. -/
theorem Reviewer.consults_loadFile (build : Build) (linters : List Linter) (entry : Json)
    : outside.Consults (Reviewer.loadFile outside.host build linters entry) := by
  refine (Consults.settled _).bind fun name => (Consults.settled _).bind fun fields => ?_
  dsimp only
  split
  · exact consults_pure _
  · refine (Consults.settled _).bind fun wanted => ?_
    split
    · exact consults_pure _
    · refine (Consults.fetchFile _ _ _).outcome.bind fun outcome => ?_
      split
      · exact consults_pure _
      · exact consults_throw _
      · exact consults_pure _
      · exact (Consults.settled _).map some

theorem follows_time : Follows outside.LeadsWithin (Attempt.ofState outside.time) :=
  fun session => .single (.clock session.outside)

/-- A file is reviewed by calls: keeping the review moves nothing outside. -/
theorem Linter.follows_review (linter : Linter) (file : ChangedFile)
    : Follows outside.LeadsWithin (linter.review outside file) := by
  refine (Linter.consults_findings outside linter file).follows.outside.bind fun _ => ?_
  refine (follows_ofExcept _).bind fun _ => (follows_time outside).bind fun _ => ?_
  exact Follows.bind (fun session => .refl) fun _ => follows_pure _

theorem Linter.follows_reviewWanted (linter : Linter) (file : ChangedFile)
    : Follows outside.LeadsWithin (linter.reviewWanted outside file) := by
  refine (follows_ofExcept _).bind fun wanted => ?_
  split
  · exact (Linter.follows_review outside linter file).map some
  · exact follows_pure _

/-- A file is reviewed by all linters by calls. -/
theorem Linter.follows_reviewAll (linters : List Linter) (file : ChangedFile)
    : Follows outside.LeadsWithin (Linter.reviewAll outside linters file) := by
  unfold Linter.reviewAll
  split
  · exact follows_pure _
  · exact (follows_mapM fun linter _ => Linter.follows_reviewWanted outside linter file).map _

end Conduct

end PatchReview
