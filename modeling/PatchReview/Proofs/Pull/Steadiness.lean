import PatchReview.Proofs.Pull.Calls
import PatchReview.Proofs.Pull.Plans

/-! Reviews of a steady outside. Where the host and the engine answer the same whenever they are asked, what
becomes of an entry does not depend on what was reviewed before, but for the time it is complete at.
-/

namespace PatchReview

variable {σ α β γ δ : Type}

-----------------------------------------------------------------------------------------
-- Steady attempts
-----------------------------------------------------------------------------------------

namespace Attempt

/-- (attempt.SteadyBy view) says that the outcome of an attempt, as far as it is in view, is the same at all
states.
-/
def SteadyBy (view : α → β) (attempt : Attempt σ α) : Prop :=
  ∀ state other, (attempt.on state).1.map view = (attempt.on other).1.map view

/-- An attempt is steady when its whole outcome is the same at all states. -/
def Steady (attempt : Attempt σ α) : Prop :=
  ∀ state other, (attempt.on state).1 = (attempt.on other).1

theorem Steady.by {attempt : Attempt σ α} (steady : attempt.Steady) (view : α → β)
    : attempt.SteadyBy view :=
  fun state other => congrArg (Except.map view) (steady state other)

theorem steady_ofExcept (result : Except Failure α) : (ofExcept result : Attempt σ α).Steady :=
  fun _ _ => rfl

/-- The outcome of a steady attempt is the same at all states. -/
theorem Steady.outcome {attempt : Attempt σ α} (steady : attempt.Steady)
    : (ofState attempt.outcome).Steady :=
  fun state other => congrArg Except.ok (steady state other)

theorem Steady.outside {attempt : Attempt σ α} (steady : attempt.Steady) : attempt.outside.Steady :=
  fun session other => steady session.outside other.outside

/-- What follows a steady attempt starts from the same value, by cases on its outcome. -/
theorem Steady.bindBy {first : Attempt σ α} {next : α → Attempt σ β} {view : β → γ} (begins : first.Steady)
    (goesOn : ∀ value, (next value).SteadyBy view)
    : (first >>= next).SteadyBy view := by
  intro state other
  have same := begins state other
  rw [on_bind, on_bind]
  cases here : first.on state with
  | mk result reached =>
      cases there : first.on other with
      | mk otherResult otherReached =>
          rw [here, there] at same
          dsimp only at same
          subst same
          cases result with
          | error failure => rfl
          | ok value => exact goesOn value reached otherReached

theorem Steady.bind {first : Attempt σ α} {next : α → Attempt σ β} (begins : first.Steady)
    (goesOn : ∀ value, (next value).Steady)
    : (first >>= next).Steady := by
  intro state other
  have same := begins.bindBy (fun value => (goesOn value).by id) state other
  simpa only [Except.map_id, id] using same

/-- What is made of a steady outcome is steady as far as it only depends on what is in view. -/
theorem SteadyBy.map {attempt : Attempt σ α} {f : α → β} {seen : α → γ} {view : β → δ}
    (steady : attempt.SteadyBy seen) (shown : γ → δ) (same : view ∘ f = shown ∘ seen)
    : (f <$> attempt).SteadyBy view := by
  intro state other
  rw [on_map, on_map]
  simp only [Except.map_map, same]
  rw [← Except.map_map, ← Except.map_map, steady state other]

/-- Steady steps for the items of a list have the outcomes that each has by itself, up to the first that
fails, by induction on the list.
-/
theorem SteadyBy.mapM {items : List γ} {step : γ → Attempt σ α} {view : α → β}
    (steady : ∀ item ∈ items, (step item).SteadyBy view) (start state : σ)
    : ((items.mapM step).on state).1.map (List.map view)
      = items.mapM fun item => ((step item).on start).1.map view := by
  induction items generalizing state with
  | nil => rfl
  | cons item rest ih =>
      have here := steady item List.mem_cons_self state start
      rw [List.mapM_cons, List.mapM_cons, ← here, on_bind]
      cases (step item).on state with
      | mk first middle =>
          cases first with
          | error failure => rfl
          | ok value =>
              have later := ih (fun other member => steady other (List.mem_cons_of_mem item member)) middle
              dsimp only
              rw [← map_eq_pure_bind, on_map, Except.map_map]
              refine Eq.trans ?_ (congrArg (Except.map (List.cons (view value))) later)
              rw [Except.map_map]
              rfl

end Attempt

-----------------------------------------------------------------------------------------
-- Steady worlds
-----------------------------------------------------------------------------------------

/-- An outside is steady when what the host answers about heads and files, and how a run of the engine ends,
does not depend on when it is asked.
-/
structure Outside.Steady (outside : Outside σ) : Prop where
  branchHead : ∀ repository, (outside.host.branchHead repository).Steady
  fetchFile : ∀ repository ref path, (outside.host.fetchFile repository ref path).Steady
  engine : ∀ invocation, (Attempt.ofState (outside.runEngine invocation)).Steady

/-- What consults a steady outside is steady, by induction on how it is put together. -/
theorem Outside.Consults.steady {outside : Outside σ} (steady : outside.Steady) {attempt : Attempt σ α}
    (consults : outside.Consults attempt)
    : attempt.Steady := by
  induction consults with
  | branchHead repository => exact steady.branchHead repository
  | fetchFile repository ref path => exact steady.fetchFile repository ref path
  | engine invocation => exact steady.engine invocation
  | settled result => exact Attempt.steady_ofExcept result
  | bind _ _ begins goesOn => exact begins.bind goesOn
  | outcome _ steady => exact steady.outcome

/-- A review without the time it is complete at, if it is. -/
def FileReview.untimed (review : FileReview) : FileReview :=
  { review with completedAt := review.completedAt.map fun _ => 0 }

variable {outside : Outside σ}

/-- A linter makes the same review of a file at all times. -/
theorem Linter.steady_review (steady : outside.Steady) (linter : Linter) (file : ChangedFile)
    : (linter.review outside file).SteadyBy FileReview.untimed := by
  refine ((Linter.consults_findings outside linter file).steady steady).outside.bindBy fun found => ?_
  refine (Attempt.steady_ofExcept _).bindBy fun gathered => ?_
  intro session other
  rfl

theorem Linter.steady_reviewWanted (steady : outside.Steady) (linter : Linter) (file : ChangedFile)
    : (linter.reviewWanted outside file).SteadyBy (Option.map FileReview.untimed) := by
  refine (Attempt.steady_ofExcept _).bindBy fun wanted => ?_
  split
  · exact (steady_review steady linter file).map some rfl
  · exact fun session other => rfl

theorem Linter.steady_reviewAll (steady : outside.Steady) (linters : List Linter) (file : ChangedFile)
    : (Linter.reviewAll outside linters file).SteadyBy (List.map FileReview.untimed) := by
  have each := fun linter (_ : linter ∈ asked linters file) => steady_reviewWanted steady linter file
  have all : Attempt.SteadyBy (List.map (Option.map FileReview.untimed))
      ((asked linters file).mapM fun linter => linter.reviewWanted outside file) :=
    fun session other => (Attempt.SteadyBy.mapM each session session).trans
      (Attempt.SteadyBy.mapM each session other).symm
  rw [reviewAll_eq]
  exact all.map List.reduceOption (funext fun _ => List.reduceOption_map.symm)

/-- An entry has the same reviews whenever it is its turn. -/
theorem Reviewer.steady_reviewEntry (steady : outside.Steady) (build : Build) (linters : List Linter)
    (entry : Json)
    : (Reviewer.reviewEntry outside build linters entry).SteadyBy
        (Option.map (List.map FileReview.untimed)) := by
  refine ((Reviewer.consults_loadFile outside build linters entry).steady steady).outside.bindBy
    fun loaded => ?_
  cases loaded with
  | none => exact fun session other => rfl
  | some file => exact (Linter.steady_reviewAll steady linters file).map some rfl

end PatchReview
