import Mathlib.Data.List.Forall2
import PatchReview.Failure

/-! Steps of computations that may fail, taken apart. A computation that succeeds has succeeded in
each of its steps, and the state after one step is the state before the next.
-/

namespace PatchReview

-----------------------------------------------------------------------------------------
-- Results
-----------------------------------------------------------------------------------------

section Results

variable {ε ε' α β γ : Type}

/-- Two steps in a row succeed when both do, by cases on the first. -/
theorem Except.bind_eq_ok_iff {first : Except ε α} {next : α → Except ε β} {result : β}
    : first >>= next = .ok result ↔ ∃ value, first = .ok value ∧ next value = .ok result := by
  cases first with
  | error failure => simp [bind, Except.bind]
  | ok value => simp [bind, Except.bind]

/-- Two steps in a row fail when the first does, or else the second. -/
theorem Except.bind_eq_error_iff {first : Except ε α} {next : α → Except ε β} {failure : ε}
    : first >>= next = .error failure
      ↔ first = .error failure ∨ ∃ value, first = .ok value ∧ next value = .error failure := by
  cases first with
  | error other => simp [bind, Except.bind]
  | ok value => simp [bind, Except.bind]

/-- Another name for a failure does not change what succeeds. -/
theorem Except.mapError_eq_ok_iff {result : Except ε α} {name : ε → ε'} {value : α}
    : result.mapError name = .ok value ↔ result = .ok value := by
  cases result with
  | error failure => exact ⟨nofun, nofun⟩
  | ok given =>
      constructor
      · exact fun same => congrArg Except.ok (Except.ok.inj same)
      · exact fun same => congrArg Except.ok (Except.ok.inj same)

/-- What is made of a result is there when the result is. -/
theorem Except.map_eq_ok_iff {result : Except ε α} {f : α → β} {made : β}
    : result.map f = .ok made ↔ ∃ value, result = .ok value ∧ f value = made := by
  cases result with
  | error failure => simp [Except.map]
  | ok value => simp [Except.map]

theorem Except.map_eq_error_iff {result : Except ε α} {f : α → β} {failure : ε}
    : result.map f = .error failure ↔ result = .error failure := by
  cases result with
  | error other => simp [Except.map]
  | ok value => simp [Except.map]

theorem Except.mapError_eq_error_iff {result : Except ε' α} {name : ε' → ε} {failure : ε}
    : result.mapError name = .error failure ↔ ∃ cause, result = .error cause ∧ name cause = failure := by
  cases result with
  | error other => simp [Except.mapError]
  | ok value => simp [Except.mapError]

theorem Except.map_injective {f : α → β} (injective : Function.Injective f)
    : Function.Injective (Except.map (ε := ε) f) := by
  rintro (failure | value) (other | another) same
  · exact congrArg Except.error (Except.error.inj same)
  · cases same
  · cases same
  · exact congrArg Except.ok (injective (Except.ok.inj same))

theorem Except.exists_of_isSome_toOption {result : Except ε α} (there : result.toOption.isSome)
    : ∃ value, result = .ok value := by
  cases result with
  | error failure => cases there
  | ok value => exact ⟨value, rfl⟩

theorem Except.eq_ok_of_toOption {result : Except ε α} {value : α} (there : result.toOption = some value)
    : result = .ok value := by
  cases result with
  | error failure => cases there
  | ok given => exact congrArg Except.ok (Option.some.inj there)

/-- What is made of a result twice is made at once. -/
theorem Except.map_map (f : α → β) (g : β → γ) (result : Except ε α)
    : (result.map f).map g = result.map (g ∘ f) := by
  cases result with
  | error failure => rfl
  | ok value => rfl

/-- Steps that all succeed give their values in order, by induction on the items. -/
theorem Except.mapM_eq_ok {items : List α} {step : α → Except ε β} {value : α → β}
    (each : ∀ item ∈ items, step item = .ok (value item))
    : items.mapM step = .ok (items.map value) := by
  induction items with
  | nil => rfl
  | cons item rest ih =>
      rw [List.mapM_cons, each item List.mem_cons_self,
        ih fun other member => each other (List.mem_cons_of_mem item member)]
      rfl

/-- Each step of a list of steps that succeeds does, by induction on the items. -/
theorem Except.exists_of_mapM {items : List α} {step : α → Except ε β} {values : List β}
    (made : items.mapM step = .ok values)
    : ∀ item ∈ items, ∃ value, step item = .ok value := by
  induction items generalizing values with
  | nil => exact List.forall_mem_nil _
  | cons item rest ih =>
      rw [List.mapM_cons] at made
      obtain ⟨value, here, made⟩ := Except.bind_eq_ok_iff.mp made
      obtain ⟨others, later, -⟩ := Except.bind_eq_ok_iff.mp made
      exact List.forall_mem_cons.mpr ⟨⟨value, here⟩, ih later⟩

/-- Steps for all items fail only when one of them does, by induction on the items. -/
theorem Except.exists_of_mapM_eq_error {items : List α} {step : α → Except ε β}
    {failure : ε} (failed : items.mapM step = .error failure)
    : ∃ item ∈ items, step item = .error failure := by
  induction items with
  | nil => cases failed
  | cons item rest ih =>
      rw [List.mapM_cons, Except.bind_eq_error_iff] at failed
      rcases failed with here | ⟨_, -, failed⟩
      · exact ⟨item, List.mem_cons_self, here⟩
      · rw [Except.bind_eq_error_iff] at failed
        rcases failed with later | ⟨_, -, made⟩
        · obtain ⟨other, member, failed⟩ := ih later
          exact ⟨other, List.mem_cons_of_mem _ member, failed⟩
        · cases made

end Results

-----------------------------------------------------------------------------------------
-- Attempts over a state
-----------------------------------------------------------------------------------------

namespace Attempt

variable {σ τ α β : Type}

/-- Attempts that do the same at all states are the same. -/
theorem ext {first second : Attempt σ α} (same : ∀ state, first.on state = second.on state)
    : first = second :=
  funext same

@[simp] theorem on_pure (value : α) (state : σ)
    : (pure value : Attempt σ α).on state = (.ok value, state) := rfl

@[simp] theorem on_throw (failure : Failure) (state : σ)
    : (throw failure : Attempt σ α).on state = (.error failure, state) := rfl

@[simp] theorem on_get (state : σ) : (get : Attempt σ σ).on state = (.ok state, state) := rfl

@[simp] theorem on_ofExcept (result : Except Failure α) (state : σ)
    : (ofExcept result).on state = (result, state) := rfl

@[simp] theorem on_ofState (step : StateM σ α) (state : σ)
    : (ofState step).on state = (.ok (step.run state).1, (step.run state).2) := rfl

@[simp] theorem run_outcome (attempt : Attempt σ α) (state : σ)
    : attempt.outcome.run state = attempt.on state := rfl

/-- A step and what follows it: the second starts where the first succeeded. -/
theorem on_bind (first : Attempt σ α) (next : α → Attempt σ β) (state : σ)
    : (first >>= next).on state
      = match first.on state with
        | (.ok value, reached) => (next value).on reached
        | (.error failure, reached) => (.error failure, reached) := by
  show (first >>= next).run.run state = _
  simp only [ExceptT.run_bind, StateT.run_bind, on]
  cases first.run.run state with
  | mk result reached => cases result <;> rfl

/-- Two attempts in a row succeed when both do, the second where the first ended. -/
theorem on_bind_eq_ok_iff {first : Attempt σ α} {next : α → Attempt σ β} {state last : σ}
    {result : β}
    : (first >>= next).on state = (.ok result, last)
      ↔ ∃ value reached,
          first.on state = (.ok value, reached) ∧ (next value).on reached = (.ok result, last) := by
  rw [on_bind]
  cases first.on state with
  | mk outcome reached =>
      cases outcome with
      | error failure => simp
      | ok value =>
          constructor
          · exact fun rest => ⟨value, reached, rfl, rest⟩
          · rintro ⟨_, _, same, rest⟩
            obtain ⟨rfl, rfl⟩ := by simpa using same
            exact rest

/-- Two steps in a row fail when the first does, or else the second where the first ended. -/
theorem on_bind_eq_error_iff {first : Attempt σ α} {next : α → Attempt σ β} {state last : σ}
    {failure : Failure}
    : (first >>= next).on state = (.error failure, last)
      ↔ first.on state = (.error failure, last)
        ∨ ∃ value reached,
            first.on state = (.ok value, reached) ∧ (next value).on reached = (.error failure, last) := by
  rw [on_bind]
  cases first.on state with
  | mk outcome reached =>
      cases outcome with
      | error fault => simp
      | ok value =>
          constructor
          · exact fun rest => Or.inr ⟨value, reached, rfl, rest⟩
          · rintro (failed | ⟨_, _, same, rest⟩)
            · simp at failed
            · obtain ⟨rfl, rfl⟩ := by simpa using same
              exact rest

/-- What is made of a result leaves the state where the attempt ends. -/
theorem on_map (f : α → β) (attempt : Attempt σ α) (state : σ)
    : (f <$> attempt).on state = ((attempt.on state).1.map f, (attempt.on state).2) := by
  rw [map_eq_pure_bind, on_bind]
  cases attempt.on state with
  | mk result reached => cases result <;> rfl

theorem map_ofExcept (f : α → β) (result : Except Failure α)
    : (f <$> ofExcept result : Attempt σ β) = ofExcept (result.map f) :=
  ext fun state => on_map f (ofExcept result) state

/-- What follows a result starts in the same state, if there is one. -/
theorem on_ofExcept_bind_eq_ok_iff {given : Except Failure α} {next : α → Attempt σ β}
    {state last : σ} {result : β}
    : (ofExcept given >>= next).on state = (.ok result, last)
      ↔ ∃ value, given = .ok value ∧ (next value).on state = (.ok result, last) := by
  rw [on_bind, on_ofExcept]
  cases given <;> simp

/-- What follows a result fails when there is none, or else where it fails itself. -/
theorem on_ofExcept_bind_eq_error_iff {given : Except Failure α} {next : α → Attempt σ β}
    {state last : σ} {failure : Failure}
    : (ofExcept given >>= next).on state = (.error failure, last)
      ↔ given = .error failure ∧ state = last
        ∨ ∃ value, given = .ok value ∧ (next value).on state = (.error failure, last) := by
  rw [on_bind, on_ofExcept]
  cases given <;> simp

/-- What follows a step that cannot fail starts where the step ended. -/
theorem on_ofState_bind (step : StateM σ α) (next : α → Attempt σ β) (state : σ)
    : (ofState step >>= next).on state = (next (step.run state).1).on (step.run state).2 := by
  rw [on_bind, on_ofState]

/-- A step whose outcome is looked at goes on from where it ended. -/
theorem on_outcome_bind {attempt : Attempt σ α} {next : Except Failure α → Attempt σ β}
    {state last : σ} {result : Except Failure α} (ended : attempt.on state = (result, last))
    : (ofState attempt.outcome >>= next).on state = (next result).on last := by
  rw [on_ofState_bind, run_outcome, ended]

/-- What is made of a result succeeds when the attempt does. -/
theorem on_map_eq_ok_iff {f : α → β} {attempt : Attempt σ α} {state last : σ} {result : β}
    : (f <$> attempt).on state = (.ok result, last)
      ↔ ∃ value, attempt.on state = (.ok value, last) ∧ f value = result := by
  rw [map_eq_pure_bind, on_bind_eq_ok_iff]
  simp only [on_pure, Prod.mk.injEq, Except.ok.injEq]
  constructor
  · rintro ⟨value, reached, found, made, rfl⟩
    exact ⟨value, found, made⟩
  · rintro ⟨value, found, made⟩
    exact ⟨value, last, found, made, rfl⟩

/-- Steps for the items of two lists succeed when those of both do, the second ones where the first ended. -/
theorem on_mapM_append_eq_ok_iff {γ : Type} {items more : List γ} {step : γ → Attempt σ α}
    {results : List α} {state last : σ}
    : ((items ++ more).mapM step).on state = (.ok results, last)
      ↔ ∃ first middle second,
          (items.mapM step).on state = (.ok first, middle)
          ∧ (more.mapM step).on middle = (.ok second, last)
          ∧ first ++ second = results := by
  rw [List.mapM_append, on_bind_eq_ok_iff]
  simp only [← map_eq_pure_bind, on_map_eq_ok_iff, exists_and_left]

/-- Steps for the items of a list that succeed give the results of the steps one by one, by induction on the
list.
-/
theorem forall₂_of_mapM {γ : Type} {items : List γ} {step : γ → Attempt σ α} {results : List α}
    {state last : σ} (made : (items.mapM step).on state = (.ok results, last))
    : List.Forall₂ (fun item result => ∃ before after, (step item).on before = (.ok result, after))
        items results := by
  induction items generalizing state results with
  | nil =>
      cases made
      exact .nil
  | cons item rest ih =>
      rw [List.mapM_cons] at made
      obtain ⟨result, middle, here, made⟩ := on_bind_eq_ok_iff.mp made
      obtain ⟨others, reached, later, made⟩ := on_bind_eq_ok_iff.mp made
      cases made
      exact .cons ⟨state, middle, here⟩ (ih later)

end Attempt

end PatchReview
