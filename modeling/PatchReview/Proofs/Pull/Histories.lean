import PatchReview.Proofs.Pull.Plans
import PatchReview.Proofs.Review.Storage

/-! What a history of jobs leaves in the store of a reviewer: the reviews that were finished, also by the
jobs that failed later on, and nothing else.
-/

namespace PatchReview

variable {σ : Type}

-----------------------------------------------------------------------------------------
-- Finished reviews
-----------------------------------------------------------------------------------------

/-- (InTurn step items before finished ending after) says that a step is taken for each item in order, up to
the first that fails: the steps finish these reviews, and what they end with is the failure, if any.
-/
inductive InTurn {ι : Type}
    (step : ι → Session σ → List FileReview → Option Failure → Session σ → Prop)
    : List ι → Session σ → List FileReview → Option Failure → Session σ → Prop where
  | done (session : Session σ) : InTurn step [] session [] none session
  | passed {item rest before middle after finished later ending}
    (taken : step item before finished none middle)
    (goesOn : InTurn step rest middle later ending after)
    : InTurn step (item :: rest) before (finished ++ later) ending after
  | stopped {item rest before after finished failure}
    (taken : step item before finished (some failure) after)
    : InTurn step (item :: rest) before finished (some failure) after

/-- (linter.Reviews outside file before finished ending after) says that a linter that wants a file finishes its
review of it, or fails and finishes none. One that does not want the file does nothing, and one that cannot
tell whether it does fails.
-/
inductive Linter.Reviews (outside : Outside σ) (file : ChangedFile) (linter : Linter)
    : Session σ → List FileReview → Option Failure → Session σ → Prop where
  | finished {before after review}
    (wanted : linter.wants? (.str file.filename) = .ok true)
    (made : (linter.review outside file).on before = (.ok review, after))
    : Reviews outside file linter before [review] none after
  | failed {before after failure}
    (wanted : linter.wants? (.str file.filename) = .ok true)
    (made : (linter.review outside file).on before = (.error failure, after))
    : Reviews outside file linter before [] (some failure) after
  | unwanted (session)
    (unwanted : linter.wants? (.str file.filename) = .ok false)
    : Reviews outside file linter session [] none session
  | unknown (session) {failure}
    (unknown : linter.wants? (.str file.filename) = .error failure)
    : Reviews outside file linter session [] (some failure) session

/-- (Reviewer.Treats outside build linters entry before finished ending after) says what becomes of an entry:
it is not loaded, skipped, or reviewed by the linters that want it.
-/
inductive Reviewer.Treats (outside : Outside σ) (build : Build) (linters : List Linter) (entry : Json)
    : Session σ → List FileReview → Option Failure → Session σ → Prop where
  | unloaded {before after failure}
    (stopped : (loadFile outside.host build linters entry).outside.on before = (.error failure, after))
    : Treats outside build linters entry before [] (some failure) after
  | skipped {before after}
    (loaded : (loadFile outside.host build linters entry).outside.on before = (.ok none, after))
    : Treats outside build linters entry before [] none after
  | reviewed {before middle after file finished ending}
    (loaded : (loadFile outside.host build linters entry).outside.on before = (.ok (some file), middle))
    (reviews : InTurn (Linter.Reviews outside file) (Linter.asked linters file) middle finished ending
      after)
    : Treats outside build linters entry before finished ending after

/-- What a reviewer is asked for: to review a pull request, or a single file. -/
inductive Job where
  | pullRequest (repository number : Json) (owner : Owner)
  | file (build : Build) (file : ChangedFile)

/-- What a job gives back. -/
inductive JobResult where
  | run (run : Run)
  | reviews (result : Except Failure (List FileReview))

/-- Performs a job. -/
def Reviewer.perform (reviewer : Reviewer) (outside : Outside σ) : Job → StateM (Session σ) JobResult
  | .pullRequest repository number owner =>
      .run <$> reviewer.reviewPullRequest outside repository number owner
  | .file build file => .reviews <$> (reviewer.reviewFile outside build file).outcome

/-- (reviewer.Works outside job before finished ending after) says which reviews a job finishes before it
ends: none where it cannot be planned, and else those that its entries, or its file, are given in turn.
-/
inductive Reviewer.Works (reviewer : Reviewer) (outside : Outside σ)
    : Job → Session σ → List FileReview → Option Failure → Session σ → Prop where
  | unplanned {repository number owner before middle failure}
    (stopped : (reviewer.plan outside.host repository number owner).outside.on (outside.timed before)
      = (.error failure, middle))
    : Works reviewer outside (.pullRequest repository number owner) before [] (some failure)
        (outside.timed middle)
  | planned {repository number owner before planned middle plan finished ending}
    (plans : (reviewer.plan outside.host repository number owner).outside.on (outside.timed before)
      = (.ok plan, planned))
    (reviews : InTurn (Treats outside plan.build plan.linters) plan.entries planned finished ending
      middle)
    : Works reviewer outside (.pullRequest repository number owner) before finished ending
        (outside.timed middle)
  | unprepared {build file before after failure}
    (stopped : (reviewer.linters outside.host build).outside.on before = (.error failure, after))
    : Works reviewer outside (.file build file) before [] (some failure) after
  | prepared {build file before middle after linters finished ending}
    (prepares : (reviewer.linters outside.host build).outside.on before = (.ok linters, middle))
    (reviews : InTurn (Linter.Reviews outside file) (Linter.asked linters file) middle finished ending
      after)
    : Works reviewer outside (.file build file) before finished ending after

-----------------------------------------------------------------------------------------
-- What is kept
-----------------------------------------------------------------------------------------

/-- (Keeps before finished after) says that the reviews, all sound, are what came into the store, one after
the other.
-/
structure Keeps (before : Session σ) (finished : List FileReview) (after : Session σ) : Prop where
  kept : after.store = before.store.saveAll finished
  sound : ∀ review ∈ finished, review.IsSound

/-- Where no review is finished the store stays. -/
theorem keeps_nil {before after : Session σ} (same : after.store = before.store)
    : Keeps before [] after :=
  ⟨same, List.forall_mem_nil _⟩

theorem keeps_of_outside {α : Type} {attempt : Attempt σ α} {before after : Session σ}
    {result : Except Failure α} (made : attempt.outside.on before = (result, after))
    : Keeps before [] after :=
  keeps_nil (Attempt.store_of_outside made)

theorem keeps_timed {outside : Outside σ} (session : Session σ)
    : Keeps session [] (outside.timed session) :=
  keeps_nil rfl

/-- Reviews are kept one after the other. -/
theorem Keeps.trans {before middle after : Session σ} {finished later : List FileReview}
    (first : Keeps before finished middle) (second : Keeps middle later after)
    : Keeps before (finished ++ later) after := by
  refine ⟨?_, List.forall_mem_append.mpr ⟨first.sound, second.sound⟩⟩
  rw [second.kept, first.kept, Store.saveAll_append]

/-- Steps in turn keep what they finish when each does, by induction on the items. -/
theorem InTurn.keeps {ι : Type}
    {step : ι → Session σ → List FileReview → Option Failure → Session σ → Prop} {items : List ι}
    {before after : Session σ} {finished : List FileReview} {ending : Option Failure}
    (each : ∀ item ∈ items, ∀ before finished ending after,
      step item before finished ending after → Keeps before finished after)
    (turns : InTurn step items before finished ending after)
    : Keeps before finished after := by
  induction turns with
  | done session => exact keeps_nil rfl
  | passed taken _ ih =>
      have here := each _ List.mem_cons_self _ _ _ _ taken
      exact here.trans (ih fun item member => each item (List.mem_cons_of_mem _ member))
  | stopped taken => exact each _ List.mem_cons_self _ _ _ _ taken

/-- A linter keeps the review that it finishes. -/
theorem Linter.Reviews.keeps {outside : Outside σ} {file : ChangedFile} {linter : Linter}
    {before after : Session σ} {finished : List FileReview} {ending : Option Failure}
    (reviews : linter.Reviews outside file before finished ending after)
    : Keeps before finished after := by
  cases reviews with
  | finished wanted made =>
      obtain ⟨name, named⟩ := exists_name_of_wants (wants_iff.mpr wanted)
      obtain ⟨failure, absurd, -⟩ | ⟨review, same, finishes, kept⟩ := Linter.review_cases made
      · cases absurd
      · cases same
        exact ⟨kept, List.forall_mem_singleton.mpr (finishes.isSound named)⟩
  | unwanted _ => exact keeps_nil rfl
  | unknown _ => exact keeps_nil rfl
  | failed _ made =>
      obtain ⟨failure, -, kept⟩ | ⟨review, absurd, -⟩ := Linter.review_cases made
      · exact keeps_nil kept
      · cases absurd

/-- The linters that are asked about a file keep the reviews that they finish. -/
theorem Linter.keeps_asked {outside : Outside σ} {file : ChangedFile} {linters : List Linter}
    {before after : Session σ} {finished : List FileReview} {ending : Option Failure}
    (turns : InTurn (Linter.Reviews outside file) (asked linters file) before finished ending after)
    : Keeps before finished after :=
  turns.keeps fun _ _ _ _ _ _ reviews => reviews.keeps

/-- The reviews of an entry are kept, by cases on what becomes of it. -/
theorem Reviewer.Treats.keeps {outside : Outside σ} {build : Build} {linters : List Linter} {entry : Json}
    {before after : Session σ} {finished : List FileReview} {ending : Option Failure}
    (treats : Treats outside build linters entry before finished ending after)
    : Keeps before finished after := by
  cases treats with
  | unloaded stopped => exact keeps_of_outside stopped
  | skipped loaded => exact keeps_of_outside loaded
  | reviewed loaded reviews => exact (keeps_of_outside loaded).trans (Linter.keeps_asked reviews)

/-- The reviews of a job are kept, by cases on how far it comes. -/
theorem Reviewer.Works.keeps {reviewer : Reviewer} {outside : Outside σ} {job : Job}
    {before after : Session σ} {finished : List FileReview} {ending : Option Failure}
    (works : reviewer.Works outside job before finished ending after)
    : Keeps before finished after := by
  cases works with
  | unplanned stopped => exact (keeps_timed _).trans ((keeps_of_outside stopped).trans (keeps_timed _))
  | planned plans reviews =>
      have entries := reviews.keeps fun entry _ _ _ _ _ treats => Treats.keeps treats
      simpa using (keeps_timed _).trans ((keeps_of_outside plans).trans (entries.trans (keeps_timed _)))
  | unprepared stopped => exact keeps_of_outside stopped
  | prepared prepares reviews => exact (keeps_of_outside prepares).trans (Linter.keeps_asked reviews)

-----------------------------------------------------------------------------------------
-- What is given back
-----------------------------------------------------------------------------------------

/-- (Settles finished ending result) says that a result is the reviews that were finished, or the failure. -/
inductive Settles (finished : List FileReview)
    : Option Failure → Except Failure (List FileReview) → Prop where
  | completed : Settles finished none (.ok finished)
  | failed (failure : Failure) : Settles finished (some failure) (.error failure)

/-- Steps that are taken one after the other are taken in turn, by induction on the items. -/
theorem exists_inTurn {ι β : Type} {attempt : ι → Attempt (Session σ) β} {gains : β → List FileReview}
    {step : ι → Session σ → List FileReview → Option Failure → Session σ → Prop}
    (each : ∀ item before result after, (attempt item).on before = (result, after) →
      ∃ finished ending,
        step item before finished ending after ∧ Settles finished ending (result.map gains))
    {items : List ι} {before after : Session σ} {result : Except Failure (List β)}
    (made : (items.mapM attempt).on before = (result, after))
    : ∃ finished ending,
        InTurn step items before finished ending after
        ∧ Settles finished ending (result.map fun results => results.flatMap gains) := by
  induction items generalizing before after result with
  | nil =>
      cases made
      exact ⟨[], none, .done _, .completed⟩
  | cons item rest ih =>
      rw [List.mapM_cons, Attempt.on_bind] at made
      cases here : (attempt item).on before with
      | mk first middle =>
          obtain ⟨finished, ending, taken, settles⟩ := each item before first middle here
          rw [here] at made
          cases first with
          | error failure =>
              -- A step may finish reviews before it fails, and these were kept.
              cases made
              cases settles
              exact ⟨finished, some failure, .stopped taken, .failed failure⟩
          | ok value =>
              cases settles
              dsimp only at made
              rw [← map_eq_pure_bind, Attempt.on_map] at made
              cases there : (rest.mapM attempt).on middle with
              | mk others reached =>
                  obtain ⟨later, ending, turns, settles⟩ := ih there
                  rw [there] at made
                  cases made
                  refine ⟨_, ending, .passed taken turns, ?_⟩
                  cases others with
                  | error failure =>
                      cases settles
                      exact .failed failure
                  | ok values =>
                      cases settles
                      exact .completed

/-- A linter that is asked about a file reviews it, or does not want it, or fails. -/
theorem Linter.exists_reviews {outside : Outside σ} {linter : Linter} {file : ChangedFile}
    {before after : Session σ} {result : Except Failure (Option FileReview)}
    (made : (linter.reviewWanted outside file).on before = (result, after))
    : ∃ finished ending,
        linter.Reviews outside file before finished ending after
        ∧ Settles finished ending (result.map Option.toList) := by
  unfold reviewWanted at made
  rw [Attempt.on_bind, Attempt.on_ofExcept] at made
  cases known : linter.wants? (.str file.filename) with
  | error failure =>
      rw [known] at made
      cases made
      exact ⟨[], some failure, .unknown _ known, .failed failure⟩
  | ok wanted =>
      rw [known] at made
      cases wanted with
      | false =>
          cases made
          exact ⟨[], none, .unwanted _ known, .completed⟩
      | true =>
          dsimp only at made
          rw [if_pos rfl, Attempt.on_map] at made
          cases reviewing : (linter.review outside file).on before with
          | mk reviewed reached =>
              rw [reviewing] at made
              obtain ⟨rfl, rfl⟩ := Prod.mk.inj made
              cases reviewed with
              | error failure => exact ⟨[], some failure, .failed known reviewing, .failed failure⟩
              | ok review => exact ⟨[review], none, .finished known reviewing, .completed⟩

/-- Linters that review a file one after the other take turns. -/
theorem Linter.exists_inTurn_reviewAll {outside : Outside σ} {linters : List Linter} {file : ChangedFile}
    {before after : Session σ} {result : Except Failure (List FileReview)}
    (made : (reviewAll outside linters file).on before = (result, after))
    : ∃ finished ending,
        InTurn (Linter.Reviews outside file) (asked linters file) before finished ending after
        ∧ Settles finished ending result := by
  rw [reviewAll_eq, Attempt.on_map] at made
  cases ran : Attempt.on ((asked linters file).mapM fun linter => linter.reviewWanted outside file) before with
  | mk reviewed reached =>
      rw [ran] at made
      obtain ⟨rfl, rfl⟩ := Prod.mk.inj made
      have each : ∀ (linter : Linter) before result after,
          (linter.reviewWanted outside file).on before = (result, after) →
            ∃ finished ending,
              linter.Reviews outside file before finished ending after
              ∧ Settles finished ending (result.map Option.toList) :=
        fun _ _ _ _ made => exists_reviews made
      have gathered : (fun reviewed : List (Option FileReview) => reviewed.flatMap Option.toList)
          = List.reduceOption :=
        funext fun reviewed => (List.filterMap_eq_flatMap_toList id reviewed).symm
      have turns := exists_inTurn each ran
      rwa [gathered] at turns

/-- Entries that are reviewed one after the other take turns, by cases on what becomes of one. -/
theorem Reviewer.exists_inTurn_reviewEntries {outside : Outside σ} {build : Build} {linters : List Linter}
    {entries : List Json} {before after : Session σ} {result : Except Failure (List FileReview × Nat)}
    (made : (reviewEntries outside build linters entries).on before = (result, after))
    : ∃ finished ending,
        InTurn (Treats outside build linters) entries before finished ending after
        ∧ Settles finished ending (result.map Prod.fst) := by
  rw [reviewEntries_eq, Attempt.on_map] at made
  have each : ∀ entry before result after,
      (reviewEntry outside build linters entry).on before = (result, after) →
        ∃ finished ending,
          Treats outside build linters entry before finished ending after
          ∧ Settles finished ending (result.map contributed) := by
    intro entry before result after made
    rw [reviewEntry, Attempt.on_bind] at made
    cases ran : (loadFile outside.host build linters entry).outside.on before with
    | mk loaded middle =>
        rw [ran] at made
        cases loaded with
        | error failure =>
            cases made
            exact ⟨[], some failure, .unloaded ran, .failed failure⟩
        | ok loaded =>
            cases loaded with
            | none =>
                cases made
                exact ⟨[], none, .skipped ran, .completed⟩
            | some file =>
                dsimp only at made
                rw [Attempt.on_map] at made
                cases reviewed : (Linter.reviewAll outside linters file).on middle with
                | mk reviews reached =>
                    obtain ⟨finished, ending, turns, settles⟩ :=
                      Linter.exists_inTurn_reviewAll reviewed
                    rw [reviewed] at made
                    cases made
                    refine ⟨finished, ending, .reviewed ran turns, ?_⟩
                    cases settles with
                    | completed => exact .completed
                    | failed failure => exact .failed failure
  cases ran : (entries.mapM (reviewEntry outside build linters)).on before with
  | mk reviewed reached =>
      obtain ⟨finished, ending, turns, settles⟩ := exists_inTurn each ran
      rw [ran] at made
      cases made
      refine ⟨finished, ending, turns, ?_⟩
      cases reviewed with
      | error failure => exact settles
      | ok reviews => exact settles

-----------------------------------------------------------------------------------------
-- One job
-----------------------------------------------------------------------------------------

/-- (result.Reports finished ending) says what a job gives back: the reviews that were finished when all is
done, and otherwise the failure, which a run tells as its error while it has no reviews.
-/
inductive JobResult.Reports (finished : List FileReview) : Option Failure → JobResult → Prop where
  | completed {run : Run} (status : run.status = "completed") (reviews : run.reviews = finished)
    : Reports finished none (.run run)
  | failed {run : Run} {failure} (status : run.status = "failed") (reviews : run.reviews = [])
    (told : run.metadata = .obj [("error", .str failure.message)])
    : Reports finished (some failure) (.run run)
  | reviewed : Reports finished none (.reviews (.ok finished))
  | unreviewed {failure} : Reports finished (some failure) (.reviews (.error failure))

/-- Every job works through what it can and reports it, by cases on how far it comes. -/
theorem Reviewer.exists_works (reviewer : Reviewer) (outside : Outside σ) (job : Job) (before : Session σ)
    : ∃ finished ending,
        reviewer.Works outside job before finished ending ((reviewer.perform outside job).run before).2
        ∧ JobResult.Reports finished ending ((reviewer.perform outside job).run before).1 := by
  cases job with
  | pullRequest repository number owner =>
      cases made : (reviewer.harvest outside repository number owner).on (outside.timed before) with
      | mk result middle =>
          have ran : (reviewer.perform outside (.pullRequest repository number owner)).run before
              = Prod.map JobResult.run id
                  ((reviewer.reviewPullRequest outside repository number owner).run before) :=
            rfl
          rw [ran, run_reviewPullRequest made]
          rw [harvest_eq, Attempt.on_bind] at made
          cases planned : (reviewer.plan outside.host repository number owner).outside.on
              (outside.timed before) with
          | mk plan reached =>
              rw [planned] at made
              cases plan with
              | error failure =>
                  cases made
                  exact ⟨[], some failure, .unplanned planned, .failed rfl rfl rfl⟩
              | ok plan =>
                  dsimp only at made
                  rw [Attempt.on_map] at made
                  cases reviewed
                      : (reviewEntries outside plan.build plan.linters plan.entries).on reached with
                  | mk found last =>
                      obtain ⟨finished, ending, turns, settles⟩ := exists_inTurn_reviewEntries reviewed
                      rw [reviewed] at made
                      cases made
                      refine ⟨finished, ending, .planned planned turns, ?_⟩
                      cases found with
                      | error failure =>
                          cases settles
                          exact .failed rfl rfl rfl
                      | ok found =>
                          cases settles
                          exact .completed rfl rfl
  | file build file =>
      cases made : (reviewer.reviewFile outside build file).on before with
      | mk result last =>
          have ran : (reviewer.perform outside (.file build file)).run before
              = Prod.map JobResult.reviews id ((reviewer.reviewFile outside build file).on before) :=
            rfl
          rw [ran, made]
          rw [reviewFile, Attempt.on_bind] at made
          cases prepared : (reviewer.linters outside.host build).outside.on before with
          | mk linters reached =>
              rw [prepared] at made
              cases linters with
              | error failure =>
                  cases made
                  exact ⟨[], some failure, .unprepared prepared, .unreviewed⟩
              | ok linters =>
                  obtain ⟨finished, ending, turns, settles⟩ := Linter.exists_inTurn_reviewAll made
                  refine ⟨finished, ending, .prepared prepared turns, ?_⟩
                  cases settles with
                  | completed => exact .reviewed
                  | failed failure => exact .unreviewed

/-- The reviews that are given back. Who fails gives none. -/
def JobResult.given : JobResult → List FileReview
  | .run ended => ended.reviews
  | .reviews found => found.toOption.getD []

/-- What is given back was finished, or it is nothing. -/
theorem JobResult.Reports.given {finished : List FileReview} {ending : Option Failure} {result : JobResult}
    (reports : JobResult.Reports finished ending result)
    : result.given = finished ∨ result.given = [] := by
  cases reports with
  | completed _ reviews => exact Or.inl reviews
  | failed _ reviews _ => exact Or.inr reviews
  | reviewed => exact Or.inl rfl
  | unreviewed => exact Or.inr rfl

/-- The reviews that a job gives back are sound. -/
theorem Reviewer.isSound_of_given (reviewer : Reviewer) (outside : Outside σ) (job : Job)
    (before : Session σ) {review : FileReview}
    (member : review ∈ ((reviewer.perform outside job).run before).1.given)
    : review.IsSound := by
  obtain ⟨finished, ending, works, reports⟩ := exists_works reviewer outside job before
  rcases reports.given with all | none
  · exact works.keeps.sound review (all ▸ member)
  · simp [none] at member

-----------------------------------------------------------------------------------------
-- Histories
-----------------------------------------------------------------------------------------

/-- What is on record about a job: the reviews it finished, how it ended and what it gave back. -/
structure Record where
  job : Job
  finished : List FileReview
  ending : Option Failure
  result : JobResult

/-- (reviewer.Logs outside before log after) says that jobs were performed one after the other, each as its
record says, and that each put the reviews it finished into the store, also when it failed.
-/
inductive Reviewer.Logs (reviewer : Reviewer) (outside : Outside σ)
    : Session σ → List Record → Session σ → Prop where
  | start (session : Session σ) : Logs reviewer outside session [] session
  | next {before middle after record rest}
    (works : reviewer.Works outside record.job before record.finished record.ending middle)
    (reports : JobResult.Reports record.finished record.ending record.result)
    (kept : middle.store = before.store.saveAll record.finished)
    (later : Logs reviewer outside middle rest after)
    : Logs reviewer outside before (record :: rest) after

/-- (store.Accounts log) says how a store stands to the records of all jobs: it holds the reviews they
finished, which are sound, and among them those that were given back, unless a review of
the same names was finished later.
-/
structure Store.Accounts (store : Store FileReview) (log : List Record) : Prop where
  holds : store.Holds (log.flatMap Record.finished)
  sound : ∀ review ∈ store.all, review.IsSound
  given : ∀ earlier record later, log = earlier ++ record :: later →
    ∀ first review rest, record.result.given = first ++ review :: rest →
      review ∈ store.all
      ∨ ∃ other ∈ rest ++ later.flatMap Record.finished, other.names = review.names

/-- Jobs that are performed one after the other are on record, by induction on the jobs. -/
theorem Reviewer.exists_logs (reviewer : Reviewer) (outside : Outside σ) (jobs : List Job)
    (before : Session σ)
    : ∃ log,
        log.map Record.job = jobs
        ∧ log.map Record.result = ((jobs.mapM (reviewer.perform outside)).run before).1
        ∧ reviewer.Logs outside before log ((jobs.mapM (reviewer.perform outside)).run before).2 := by
  induction jobs generalizing before with
  | nil => exact ⟨[], rfl, rfl, .start before⟩
  | cons job rest ih =>
      obtain ⟨finished, ending, works, reports⟩ := exists_works reviewer outside job before
      obtain ⟨log, jobs, results, logs⟩ := ih ((reviewer.perform outside job).run before).2
      refine ⟨⟨job, finished, ending, ((reviewer.perform outside job).run before).1⟩ :: log, ?_, ?_, ?_⟩
      · exact congrArg (List.cons job) jobs
      · rw [List.mapM_cons]
        exact congrArg (List.cons _) results
      · rw [List.mapM_cons]
        exact .next works reports works.keeps.kept logs

/-- The finished reviews of all jobs are kept, by induction on the records. -/
theorem Reviewer.Logs.keeps {reviewer : Reviewer} {outside : Outside σ} {before after : Session σ}
    {log : List Record} (logs : reviewer.Logs outside before log after)
    : Keeps before (log.flatMap Record.finished) after := by
  induction logs with
  | start session => exact keeps_nil rfl
  | next works _ _ _ ih => exact works.keeps.trans ih

/-- A record tells what its job gave back. -/
theorem Reviewer.Logs.reports {reviewer : Reviewer} {outside : Outside σ} {before after : Session σ}
    {log : List Record} (logs : reviewer.Logs outside before log after)
    : ∀ record ∈ log, JobResult.Reports record.finished record.ending record.result := by
  induction logs with
  | start session => exact List.forall_mem_nil _
  | next _ reports _ _ ih => exact List.forall_mem_cons.mpr ⟨reports, ih⟩

/-- A store that was empty accounts for the records. -/
theorem Reviewer.Logs.accounts {reviewer : Reviewer} {outside : Outside σ} {state : σ} {last : Session σ}
    {log : List Record} (logs : reviewer.Logs outside ⟨state, .empty⟩ log last)
    : last.store.Accounts log := by
  have keeps := logs.keeps
  have holds : last.store.Holds (log.flatMap Record.finished) := by
    rw [keeps.kept]
    exact Store.holds_saveAll fun review member => (keeps.sound review member).named
  refine ⟨holds, fun review member => keeps.sound review (holds.subset member), ?_⟩
  · intro earlier record later split first review rest given
    have reports := logs.reports record (by rw [split]; simp)
    rcases reports.given with all | none
    · have joined : log.flatMap Record.finished
          = (earlier.flatMap Record.finished ++ first)
            ++ review :: (rest ++ later.flatMap Record.finished) := by
        rw [split, List.flatMap_append, List.flatMap_cons, ← all, given]
        simp
      exact holds.held_or_replaced joined
    · simp [none] at given

/-- Over every history of jobs, whatever fails on the way, each job finishes reviews up to the step that
fails and reports it, and the store that was empty at first accounts for them.
-/
theorem Reviewer.history_accounts (reviewer : Reviewer) (outside : Outside σ) (jobs : List Job) (state : σ)
    : ∃ log,
        log.map Record.job = jobs
        ∧ log.map Record.result = ((jobs.mapM (reviewer.perform outside)).run ⟨state, .empty⟩).1
        ∧ reviewer.Logs outside ⟨state, .empty⟩ log
            ((jobs.mapM (reviewer.perform outside)).run ⟨state, .empty⟩).2
        ∧ ((jobs.mapM (reviewer.perform outside)).run ⟨state, .empty⟩).2.store.Accounts log := by
  obtain ⟨log, performed, results, logs⟩ := exists_logs reviewer outside jobs ⟨state, .empty⟩
  exact ⟨log, performed, results, logs, logs.accounts⟩

end PatchReview
