import PatchReview.Proofs.Linter.Reviews
import PatchReview.Pull.Run

/-! A run over a pull request plans first, outside its session, and then reviews entry after entry. What
is planned are the build, its linters and the entries that the host lists.
-/

namespace PatchReview

variable {σ : Type}

-----------------------------------------------------------------------------------------
-- Plans
-----------------------------------------------------------------------------------------

/-- A build is of the repository and the commit that it is made from. -/
theorem Build.eq_of_ofAnswers {repository commit number : Json} {owner : Owner} {build : Build}
    (made : Build.ofAnswers repository commit owner number = .ok build)
    : build.repository = repository ∧ commit = .str build.commit := by
  obtain ⟨slash, -, made⟩ := Except.bind_eq_ok_iff.mp made
  dsimp only at made
  split at made
  · cases made
  · obtain ⟨text, spelled, made⟩ := Except.bind_eq_ok_iff.mp made
    split at made
    · cases made
    · obtain ⟨number, -, made⟩ := Except.bind_eq_ok_iff.mp made
      cases made
      exact ⟨rfl, Json.textFor_eq_ok_iff.mp spelled⟩

namespace Reviewer

/-- What a run works through: the entries that are listed, with the linters of a build. -/
structure Plan where
  build : Build
  linters : List Linter
  entries : List Json

/-- The build at the head of a pull request. -/
def buildAt (host : Host σ) (repository number : Json) (owner : Owner) : Attempt σ Build := do
  let about ← host.pullRequest repository number
  let head ← Attempt.ofExcept do (← about.entry "head").entry "sha"
  Attempt.ofExcept (Build.ofAnswers repository head owner number)

/-- The build at the head of a pull request is one of the repository that was asked for. -/
theorem repository_of_buildAt {host : Host σ} {repository number : Json} {owner : Owner} {build : Build}
    {state : σ} (built : ((buildAt host repository number owner).on state).1 = .ok build)
    : build.repository = repository := by
  cases made : (buildAt host repository number owner).on state with
  | mk result last =>
      rw [made] at built
      dsimp only at built
      subst built
      obtain ⟨_, _, -, made⟩ := Attempt.on_bind_eq_ok_iff.mp made
      obtain ⟨_, -, made⟩ := Attempt.on_ofExcept_bind_eq_ok_iff.mp made
      exact (Build.eq_of_ofAnswers (Prod.mk.inj made).1).1

/-- Plans a run over a pull request. -/
def plan (reviewer : Reviewer) (host : Host σ) (repository number : Json) (owner : Owner)
    : Attempt σ Plan := do
  let build ← buildAt host repository number owner
  let linters ← reviewer.linters host build
  let files ← host.changedFiles repository number
  let entries ← Attempt.ofExcept files.items
  return ⟨build, linters, entries⟩

/-- What is found where all entries of a plan were reviewed. -/
def Plan.harvest (plan : Plan) (reviewed : List FileReview × Nat) : Harvest :=
  ⟨plan.build.commit, reviewed.1, plan.entries.length, reviewed.2⟩

/-- A run plans and then reviews what is planned. -/
theorem harvest_eq (reviewer : Reviewer) (outside : Outside σ) (repository number : Json) (owner : Owner)
    : reviewer.harvest outside repository number owner
      = (reviewer.plan outside.host repository number owner).outside >>= fun plan =>
          plan.harvest <$> reviewEntries outside plan.build plan.linters plan.entries := by
  simp only [harvest, plan, buildAt, Attempt.outside_bind, Attempt.outside_ofExcept, Attempt.outside_pure,
    bind_assoc, pure_bind, map_eq_pure_bind]
  rfl

-----------------------------------------------------------------------------------------
-- Entries
-----------------------------------------------------------------------------------------

/-- Reviews an entry, unless it is skipped. -/
def reviewEntry (outside : Outside σ) (build : Build) (linters : List Linter) (entry : Json)
    : Attempt (Session σ) (Option (List FileReview)) := do
  match ← (loadFile outside.host build linters entry).outside with
  | none => return none
  | some file => some <$> Linter.reviewAll outside linters file

/-- The reviews that an entry contributes. -/
def contributed (reviewed : Option (List FileReview)) : List FileReview := reviewed.getD []

/-- The reviews of all entries, and how many entries were not skipped. -/
def gathered (reviewed : List (Option (List FileReview))) : List FileReview × Nat :=
  (reviewed.flatMap contributed, reviewed.countP Option.isSome)

/-- Entries are reviewed one by one, by induction on the entries. -/
theorem reviewEntries_eq (outside : Outside σ) (build : Build) (linters : List Linter)
    (entries : List Json)
    : reviewEntries outside build linters entries
      = gathered <$> entries.mapM (reviewEntry outside build linters) := by
  induction entries with
  | nil => rfl
  | cons entry rest ih =>
      rw [reviewEntries, List.mapM_cons, ih, reviewEntry]
      simp only [map_eq_pure_bind, bind_assoc]
      congr 1
      funext loaded
      cases loaded with
      | none => simp [gathered, contributed]
      | some file => simp [gathered, contributed]

end Reviewer

-----------------------------------------------------------------------------------------
-- Runs
-----------------------------------------------------------------------------------------

/-- A reviewer with the linters that come with the library. -/
def plainReviewer : Reviewer := ⟨.standard, .standard, .str ".hound.yml"⟩

/-- A session after a look at the clock. -/
def Outside.timed (outside : Outside σ) (session : Session σ) : Session σ :=
  (outside.time.run session).2

/-- (RunResult.ofOutcome outcome) is how a run ends that harvests with this outcome. -/
def RunResult.ofOutcome : Except Failure Reviewer.Harvest → RunResult
  | .ok harvest => .completed harvest
  | .error failure => .failed failure

theorem RunResult.ofOutcome_eq_completed_iff {outcome : Except Failure Reviewer.Harvest}
    {harvest : Reviewer.Harvest}
    : ofOutcome outcome = .completed harvest ↔ outcome = .ok harvest := by
  cases outcome <;> simp [ofOutcome]

/-- A run that is called completed has found something. -/
theorem Run.exists_of_status {run : Run} (completed : run.status = "completed")
    : ∃ harvest, run.result = .completed harvest := by
  cases ended : run.result with
  | completed harvest => exact ⟨harvest, rfl⟩
  | failed failure => simp [Run.status, ended] at completed

/-- A run tells what it harvests between two looks at the clock. -/
theorem Reviewer.run_reviewPullRequest {reviewer : Reviewer} {outside : Outside σ} {repository number : Json}
    {owner : Owner} {before middle : Session σ} {outcome : Except Failure Harvest}
    (made : (reviewer.harvest outside repository number owner).on (outside.timed before)
      = (outcome, middle))
    : (reviewer.reviewPullRequest outside repository number owner).run before
      = (⟨repository, number, (outside.time.run before).1, (outside.time.run middle).1,
          .ofOutcome outcome⟩, outside.timed middle) := by
  have ran : (reviewer.reviewPullRequest outside repository number owner).run before
      = (fun ended : Except Failure Harvest × Session σ =>
          (⟨repository, number, (outside.time.run before).1, (outside.time.run ended.2).1,
            .ofOutcome ended.1⟩, outside.timed ended.2))
        ((reviewer.harvest outside repository number owner).on (outside.timed before)) :=
    rfl
  rw [ran, made]

end PatchReview
