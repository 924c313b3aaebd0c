import PatchReview.Proofs.Hosting.Traffic
import PatchReview.Proofs.Pull.Calls
import PatchReview.Proofs.Pull.Plans
import PatchReview.Proofs.Pull.Steadiness

/-! What a review learns from outside of itself. Over an outside that notes what it is asked, the answers to the
noted inquiries are all that a review depends on, but for the time it is complete at.
-/

namespace PatchReview

variable {σ τ α β γ δ : Type}

-----------------------------------------------------------------------------------------
-- Inquiries
-----------------------------------------------------------------------------------------

/-- What the outside is asked: a question to the host, a run of the engine, or the time. -/
inductive Inquiry where
  | host (question : Question)
  | engine (invocation : Invocation Datum)
  | clock

/-- What the outside answers. Which time it is does not count. -/
inductive Inquiry.Answer where
  | host (answer : Except Failure (Option Json))
  | engine (outcome : Outcome)
  | clock

namespace Outside

/-- Asks the outside. -/
def inquire (outside : Outside σ) (state : σ) : Inquiry → Inquiry.Answer × σ
  | .host question => Prod.map .host id ((outside.host.answer question).on state)
  | .engine invocation => Prod.map .engine id ((outside.runEngine invocation).run state)
  | .clock => Prod.map (fun _ => .clock) id (outside.now.run state)

/-- What is answered to inquiries, one after the other. -/
def answers (outside : Outside σ) (state : σ) : List Inquiry → List Inquiry.Answer
  | [] => []
  | inquiry :: rest =>
      (outside.inquire state inquiry).1 :: outside.answers (outside.inquire state inquiry).2 rest

/-- The state after inquiries, one after the other. -/
def afterAll (outside : Outside σ) (state : σ) (inquiries : List Inquiry) : σ :=
  inquiries.foldl (fun state inquiry => (outside.inquire state inquiry).2) state

/-- An outside that answers as another one does and notes all that it is asked. -/
def noting (outside : Outside σ) : Outside (σ × List Inquiry) where
  host :=
    let note {α : Type} (question : Question) (attempt : Attempt σ α) : Attempt (σ × List Inquiry) α :=
      ExceptT.mk fun (state, asked) =>
        ((attempt.on state).1, (attempt.on state).2, asked ++ [.host question])
    { pullRequest := fun repository number =>
        note (.pullRequest repository number) (outside.host.pullRequest repository number)
      changedFiles := fun repository number =>
        note (.changedFiles repository number) (outside.host.changedFiles repository number)
      branchHead := fun repository => note (.branchHead repository) (outside.host.branchHead repository)
      fetchFile := fun repository ref path =>
        note (.file repository ref path) (outside.host.fetchFile repository ref path) }
  runEngine := fun invocation (state, asked) =>
    let (outcome, reached) := (outside.runEngine invocation).run state
    (outcome, reached, asked ++ [.engine invocation])
  now := fun (state, asked) =>
    let (now, reached) := outside.now.run state
    (now, reached, asked ++ [.clock])

variable (outside : Outside σ)

theorem length_answers (state : σ) (inquiries : List Inquiry)
    : (outside.answers state inquiries).length = inquiries.length := by
  induction inquiries generalizing state with
  | nil => rfl
  | cons inquiry rest ih => exact congrArg Nat.succ (ih _)

/-- More inquiries are answered where the first ones lead, by induction on the first. -/
theorem answers_append (state : σ) (inquiries more : List Inquiry)
    : outside.answers state (inquiries ++ more)
      = outside.answers state inquiries ++ outside.answers (outside.afterAll state inquiries) more := by
  induction inquiries generalizing state with
  | nil => rfl
  | cons inquiry rest ih => exact congrArg (List.cons _) (ih _)

theorem afterAll_append (state : σ) (inquiries more : List Inquiry)
    : outside.afterAll state (inquiries ++ more)
      = outside.afterAll (outside.afterAll state inquiries) more :=
  List.foldl_append

/-- Where inquiries are answered the same, so are the first of them, and the others where these lead. -/
theorem answers_append_eq_iff {state other : σ} {inquiries more : List Inquiry}
    : outside.answers other (inquiries ++ more) = outside.answers state (inquiries ++ more)
      ↔ outside.answers other inquiries = outside.answers state inquiries
        ∧ outside.answers (outside.afterAll other inquiries) more
          = outside.answers (outside.afterAll state inquiries) more := by
  rw [answers_append, answers_append]
  constructor
  · exact fun same => List.append_inj same (by rw [length_answers, length_answers])
  · exact fun ⟨first, later⟩ => by rw [first, later]

-----------------------------------------------------------------------------------------
-- Learning
-----------------------------------------------------------------------------------------

/-- Where noted inquiries lead. -/
def moved (inquiries : List Inquiry) (noted : σ × List Inquiry) : σ × List Inquiry :=
  (outside.afterAll noted.1 inquiries, noted.2 ++ inquiries)

theorem moved_append (inquiries more : List Inquiry) (noted : σ × List Inquiry)
    : outside.moved (inquiries ++ more) noted = outside.moved more (outside.moved inquiries noted) := by
  rw [moved, afterAll_append, ← List.append_assoc]
  rfl

/-- (outside.LearnsBy part view attempt) says that an attempt only depends on the answers to the inquiries that
it makes in a part of its state: wherever they are answered the same, it has the same outcome, as far as
that is in view, and makes the same inquiries.
-/
def LearnsBy (part : τ → σ × List Inquiry) (view : α → β) (attempt : Attempt τ α) : Prop :=
  ∀ state, ∃ inquiries, ∀ other,
    outside.answers (part other).1 inquiries = outside.answers (part state).1 inquiries →
      (attempt.on other).1.map view = (attempt.on state).1.map view
      ∧ part (attempt.on other).2 = outside.moved inquiries (part other)

/-- An attempt learns by inquiries when its whole outcome only depends on the answers to them. -/
def Learns (part : τ → σ × List Inquiry) (attempt : Attempt τ α) : Prop :=
  ∀ state, ∃ inquiries, ∀ other,
    outside.answers (part other).1 inquiries = outside.answers (part state).1 inquiries →
      (attempt.on other).1 = (attempt.on state).1
      ∧ part (attempt.on other).2 = outside.moved inquiries (part other)

end Outside

section Learning

open Outside

variable {outside : Outside σ} {part : τ → σ × List Inquiry}

theorem Outside.Learns.by {attempt : Attempt τ α} (learns : outside.Learns part attempt) (view : α → β)
    : outside.LearnsBy part view attempt :=
  fun state => (learns state).imp fun _ only other same =>
    (only other same).imp (congrArg (Except.map view)) id

theorem learns_ofExcept (result : Except Failure α) : outside.Learns part (Attempt.ofExcept result) :=
  fun _ => ⟨[], fun other _ => ⟨rfl, by simp [moved, afterAll]⟩⟩

/-- What is done outside a session learns there. -/
theorem Outside.Learns.within {attempt : Attempt (σ × List Inquiry) α} (learns : outside.Learns id attempt)
    : outside.Learns Session.outside attempt.outside :=
  fun session => (learns session.outside).imp fun _ only other same => only other.outside same

/-- The outcome of an attempt is learned as the attempt learns. -/
theorem Outside.Learns.outcome {attempt : Attempt τ α} (learns : outside.Learns part attempt)
    : outside.Learns part (Attempt.ofState attempt.outcome) :=
  fun state => (learns state).imp fun _ only other same => (only other same).imp (congrArg Except.ok) id

/-- What follows an attempt that learns learns as well, if it only depends on what is in view of the value, by
cases on the outcome of the first.
-/
theorem Outside.LearnsBy.bindBy {first : Attempt τ α} {next : α → Attempt τ β} {seen : α → γ} {view : β → δ}
    (begins : outside.LearnsBy part seen first)
    (goesOn : ∀ value state, ∃ inquiries, ∀ alike other,
      seen alike = seen value →
      outside.answers (part other).1 inquiries = outside.answers (part state).1 inquiries →
        ((next alike).on other).1.map view = ((next value).on state).1.map view
        ∧ part ((next alike).on other).2 = outside.moved inquiries (part other))
    : outside.LearnsBy part view (first >>= next) := by
  intro state
  obtain ⟨inquiries, only⟩ := begins state
  have here := (only state rfl).2
  simp only [Attempt.on_bind]
  cases ended : first.on state with
  | mk result middle =>
      rw [ended] at here only
      cases result with
      | error failure =>
          refine ⟨inquiries, fun other same => ?_⟩
          obtain ⟨again, reached⟩ := only other same
          generalize first.on other = made at again reached
          obtain ⟨outcome, otherMiddle⟩ := made
          cases outcome with
          | error fault =>
              obtain rfl := Except.error.inj again
              exact ⟨rfl, reached⟩
          | ok value => cases again
      | ok value =>
          obtain ⟨more, onlyMore⟩ := goesOn value middle
          refine ⟨inquiries ++ more, fun other same => ?_⟩
          obtain ⟨same, later⟩ := outside.answers_append_eq_iff.mp same
          obtain ⟨again, reached⟩ := only other same
          generalize first.on other = made at again reached
          obtain ⟨outcome, otherMiddle⟩ := made
          cases outcome with
          | error fault => cases again
          | ok alike =>
              dsimp only at here reached
              obtain ⟨seen, moves⟩ := onlyMore alike otherMiddle (Except.ok.inj again)
                (by rw [here, reached]; exact later)
              exact ⟨seen, moves.trans (by rw [reached, moved_append])⟩

/-- What follows an attempt that learns goes on from the same value. -/
theorem Outside.Learns.bindBy {first : Attempt τ α} {next : α → Attempt τ β} {view : β → γ}
    (begins : outside.Learns part first) (goesOn : ∀ value, outside.LearnsBy part view (next value))
    : outside.LearnsBy part view (first >>= next) := by
  refine (begins.by id).bindBy fun value state => ?_
  obtain ⟨inquiries, only⟩ := goesOn value state
  refine ⟨inquiries, fun alike other same agree => ?_⟩
  obtain rfl : alike = value := same
  exact only other agree

theorem Outside.Learns.bind {first : Attempt τ α} {next : α → Attempt τ β}
    (begins : outside.Learns part first) (goesOn : ∀ value, outside.Learns part (next value))
    : outside.Learns part (first >>= next) := by
  have learns := begins.bindBy fun value => (goesOn value).by id
  exact fun state => (learns state).imp fun _ only other same => by
    simpa only [Except.map_id, id] using only other same

/-- What is made of an outcome is learned as far as it only depends on what is in view. -/
theorem Outside.LearnsBy.map {attempt : Attempt τ α} {f : α → β} {seen : α → γ} {view : β → δ}
    (learns : outside.LearnsBy part seen attempt) (shown : γ → δ) (same : view ∘ f = shown ∘ seen)
    : outside.LearnsBy part view (f <$> attempt) := by
  intro state
  obtain ⟨inquiries, only⟩ := learns state
  refine ⟨inquiries, fun other agree => ?_⟩
  obtain ⟨ended, reached⟩ := only other agree
  rw [Attempt.on_map, Attempt.on_map]
  simp only [Except.map_map, same]
  rw [← Except.map_map, ← Except.map_map, ended]
  exact ⟨rfl, reached⟩

/-- Steps for the items of a list learn by the inquiries of all of them, by induction on the list. -/
theorem Outside.LearnsBy.mapM {items : List γ} {step : γ → Attempt τ α} {view : α → β}
    (learns : ∀ item ∈ items, outside.LearnsBy part view (step item))
    : outside.LearnsBy part (List.map view) (items.mapM step) := by
  induction items with
  | nil => exact (learns_ofExcept (.ok [])).by _
  | cons item rest ih =>
      rw [List.mapM_cons]
      refine (learns item List.mem_cons_self).bindBy fun value state => ?_
      obtain ⟨inquiries, only⟩ := ih (fun other member => learns other (List.mem_cons_of_mem item member)) state
      refine ⟨inquiries, fun alike other same agree => ?_⟩
      obtain ⟨ended, reached⟩ := only other agree
      have shown : ∀ value : α, List.map view ∘ List.cons value = List.cons (view value) ∘ List.map view :=
        fun _ => rfl
      simp only [← map_eq_pure_bind, Attempt.on_map, Except.map_map, shown, same]
      rw [← Except.map_map, ← Except.map_map, ended]
      exact ⟨rfl, reached⟩

end Learning

-----------------------------------------------------------------------------------------
-- Reviews
-----------------------------------------------------------------------------------------

section Reviews

open Outside

/-- What consults an outside that notes what it is asked learns by inquiries, by induction on how it is put
together.
-/
theorem Outside.Consults.learns {outside : Outside σ} {attempt : Attempt (σ × List Inquiry) α}
    (consults : outside.noting.Consults attempt)
    : outside.Learns id attempt := by
  induction consults with
  | branchHead repository =>
      refine fun state => ⟨[.host (.branchHead repository)], fun other same => ?_⟩
      have told := Attempt.on_map some (outside.host.branchHead repository)
      have answered : ((some <$> outside.host.branchHead repository).on other.1).1
          = ((some <$> outside.host.branchHead repository).on state.1).1 :=
        Inquiry.Answer.host.inj (List.cons.inj same).1
      rw [told, told] at answered
      refine ⟨Except.map_injective (fun _ _ => Option.some.inj) answered, Prod.ext ?_ rfl⟩
      exact (congrArg Prod.snd (told other.1)).symm
  | fetchFile repository ref path =>
      refine fun state => ⟨[.host (.file repository ref path)], fun other same => ?_⟩
      have answered := Inquiry.Answer.host.inj (List.cons.inj same).1
      exact ⟨answered, rfl⟩
  | engine invocation =>
      refine fun state => ⟨[.engine invocation], fun other same => ?_⟩
      have answered := Inquiry.Answer.engine.inj (List.cons.inj same).1
      exact ⟨congrArg Except.ok answered, rfl⟩
  | settled result => exact learns_ofExcept result
  | bind _ _ begins goesOn => exact begins.bind goesOn
  | outcome _ learns => exact learns.outcome

variable (outside : Outside σ)

/-- A review of a file learns by the inquiries of its linter and a look at the clock, which does not count. -/
theorem Linter.learns_review (linter : Linter) (file : ChangedFile)
    : outside.LearnsBy Session.outside FileReview.untimed (linter.review outside.noting file) := by
  refine (Linter.consults_findings outside.noting linter file).learns.within.bindBy fun found => ?_
  refine (learns_ofExcept _).bindBy fun gathered => ?_
  exact fun session => ⟨[.clock], fun other _ => ⟨rfl, rfl⟩⟩

theorem Linter.learns_reviewWanted (linter : Linter) (file : ChangedFile)
    : outside.LearnsBy Session.outside (Option.map FileReview.untimed)
        (linter.reviewWanted outside.noting file) := by
  refine (learns_ofExcept _).bindBy fun wanted => ?_
  split
  · exact (learns_review outside linter file).map some rfl
  · exact (learns_ofExcept (.ok none)).by _

theorem Linter.learns_reviewAll (linters : List Linter) (file : ChangedFile)
    : outside.LearnsBy Session.outside (List.map FileReview.untimed)
        (Linter.reviewAll outside.noting linters file) := by
  rw [reviewAll_eq]
  exact (LearnsBy.mapM fun linter _ => learns_reviewWanted outside linter file).map List.reduceOption
    (funext fun _ => List.reduceOption_map.symm)

/-- An entry is reviewed by what its file and its reviews learn. -/
theorem Reviewer.learns_reviewEntry (build : Build) (linters : List Linter) (entry : Json)
    : outside.LearnsBy Session.outside (Option.map (List.map FileReview.untimed))
        (Reviewer.reviewEntry outside.noting build linters entry) := by
  refine (Reviewer.consults_loadFile outside.noting build linters entry).learns.within.bindBy
    fun loaded => ?_
  cases loaded with
  | none => exact (learns_ofExcept (.ok none)).by _
  | some file => exact (Linter.learns_reviewAll outside linters file).map some rfl

end Reviews

end PatchReview
