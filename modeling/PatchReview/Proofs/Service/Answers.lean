import PatchReview.Proofs.Pull.Histories
import PatchReview.Proofs.Schema.Admission
import PatchReview.Proofs.Schema.Responses
import PatchReview.Service.Route

/-! Which answers the service gives. Where a request leads to reviews that say texts it answers with a
document of its own, and where one of their messages is no text it has no answer.
-/

namespace PatchReview

variable {σ : Type}

-----------------------------------------------------------------------------------------
-- Checked owners
-----------------------------------------------------------------------------------------

/-- The owner of a checked request to lint a pull request is one. -/
theorem PullRequest.exists_toOwner {fields : Json.Fields} {request : PullRequest}
    (checked : ofFields fields = .ok request)
    : ∃ owner, request.owner.toOwner = .ok owner := by
  obtain ⟨owner, made, -⟩ := checksAgree.converts request checked
  exact ⟨owner, made⟩

namespace Service

-----------------------------------------------------------------------------------------
-- Answers of the service
-----------------------------------------------------------------------------------------

/-- An answer is one of the service's own documents when it says with its status how it went: the request is
not valid, the review failed or it is completed.
-/
inductive Answer.IsOwn : Answer → Prop where
  | invalid {fields} (told : Assoc.get? "status" fields = some (.str "invalid"))
    : IsOwn ⟨400, some (.obj fields)⟩
  | failed {fields} (told : Assoc.get? "status" fields = some (.str "failed"))
    : IsOwn ⟨500, some (.obj fields)⟩
  | completed {fields} (told : Assoc.get? "status" fields = some (.str "completed"))
    : IsOwn ⟨200, some (.obj fields)⟩

theorem not_isOwn_crashed : ¬ crashed.IsOwn := nofun

/-- The job that a request to lint a pull request asks for, if it is valid. -/
def pullRequestJob (request : Request) : Option Job :=
  match PullRequest.ofFields (bodyFields request) with
  | .faulty _ => none
  | .ok payload => payload.owner.toOwner.toOption.map fun owner =>
      .pullRequest (.str payload.repository) (.int payload.number) owner

/-- The job that a request to lint a file asks for, if it is valid. -/
def fileJob (request : Request) : Option Job :=
  match SingleFileRequest.ofFields (bodyFields request) with
  | .faulty _ => none
  | .ok payload => (fileOf payload).toOption.map fun (build, file) => .file build file

/-- (answer.Counts) says that an answer that is completed counts the violations in it. -/
def Answer.Counts (answer : Answer) : Prop :=
  ∀ fields,
    answer = ⟨200, some (.obj fields)⟩ →
      ∃ responses : List ReviewResponse,
        Assoc.get? "file_reviews" fields = some (.arr (responses.map ReviewResponse.toJson))
        ∧ Assoc.get? "total_violations" fields
          = some (.int (responses.flatMap ReviewResponse.violations).length)

/-- A run is answered when its reviews say texts. One that failed has none. -/
theorem isOwn_answerRun_iff {run : Run} (sound : ∀ review ∈ run.reviews, review.IsSound)
    : (answerRun run).IsOwn ↔ ∀ review ∈ run.reviews, review.IsTextual := by
  rw [← ReviewResponse.exists_ofReviews_iff sound]
  unfold answerRun
  cases ended : run.result with
  | failed failure =>
      rw [Run.reviews, ended, Run.status, ended]
      exact ⟨fun _ => ⟨[], rfl⟩, fun _ => .failed rfl⟩
  | completed harvest =>
      dsimp only
      cases ReviewResponse.ofReviews run.reviews with
      | faulty errors =>
          refine ⟨fun own => absurd own not_isOwn_crashed, ?_⟩
          rintro ⟨_, ⟨⟩⟩
      | ok responses =>
          rw [Run.status, ended]
          exact ⟨fun _ => ⟨responses, rfl⟩, fun _ => .completed rfl⟩

/-- The answer to a completed run counts the violations in it. -/
theorem counts_answerRun {run : Run} (sound : ∀ review ∈ run.reviews, review.IsSound)
    : (answerRun run).Counts := by
  intro fields answered
  unfold answerRun at answered
  split at answered
  · cases answered
  · split at answered
    · cases answered
    · next responses checked =>
        cases answered
        refine ⟨responses, rfl, ?_⟩
        rw [ReviewResponse.length_violations_ofReviews sound checked, List.length_flatMap,
          List.sum_eq_foldl, List.foldl_map]
        rfl

/-- The answer that the reviews of a file give. -/
def answerReviews : Except Failure (List FileReview) → Answer
  | .error failure =>
      ⟨500, some (.obj [("error", .str failure.message), ("status", .str "failed")])⟩
  | .ok reviews =>
      match ReviewResponse.ofReviews reviews with
      | .faulty _ => crashed
      | .ok reviews =>
          ⟨200, some (.obj [
            ("status", .str "completed"),
            ("file_reviews", .arr (reviews.map ReviewResponse.toJson))])⟩

/-- The reviews of a file are answered when they say texts. -/
theorem isOwn_answerReviews_iff {result : Except Failure (List FileReview)}
    (sound : ∀ review ∈ (JobResult.reviews result).given, review.IsSound)
    : (answerReviews result).IsOwn ↔ ∀ review ∈ (JobResult.reviews result).given, review.IsTextual := by
  rw [← ReviewResponse.exists_ofReviews_iff sound]
  cases result with
  | error failure => exact ⟨fun _ => ⟨[], rfl⟩, fun _ => .failed rfl⟩
  | ok reviews =>
      show _ ↔ ∃ responses, ReviewResponse.ofReviews reviews = .ok responses
      unfold answerReviews
      dsimp only
      cases ReviewResponse.ofReviews reviews with
      | faulty errors => exact ⟨fun own => absurd own not_isOwn_crashed, nofun⟩
      | ok responses => exact ⟨fun _ => ⟨responses, rfl⟩, fun _ => .completed rfl⟩

-----------------------------------------------------------------------------------------
-- Handled requests
-----------------------------------------------------------------------------------------

/-- (Textual reviewer outside session job) says that the reviews which a job gives back say texts. -/
def Textual (reviewer : Reviewer) (outside : Outside σ) (session : Session σ) (job : Job) : Prop :=
  ∀ review ∈ ((reviewer.perform outside job).run session).1.given, review.IsTextual

variable (reviewer : Reviewer) (outside : Outside σ) (request : Request) (session : Session σ)

/-- A request to lint a pull request gets an answer of the service when the reviews say texts, and one that is
completed counts the violations.
-/
theorem isOwn_lintPullRequest_iff
    : (((lintPullRequest reviewer outside request).run session).1.IsOwn
        ↔ ∀ job, pullRequestJob request = some job → Textual reviewer outside session job)
      ∧ ((lintPullRequest reviewer outside request).run session).1.Counts := by
  unfold lintPullRequest pullRequestJob
  cases checked : PullRequest.ofFields (bodyFields request) with
  | faulty errors => exact ⟨⟨fun _ => nofun, fun _ => .invalid rfl⟩, nofun⟩
  | ok payload =>
      obtain ⟨owner, owned⟩ := PullRequest.exists_toOwner checked
      dsimp only
      rw [owned]
      have sound : ∀ review ∈ ((reviewer.reviewPullRequest outside (.str payload.repository)
          (.int payload.number) owner).run session).1.reviews, review.IsSound :=
        fun review member => Reviewer.isSound_of_given reviewer outside
          (.pullRequest (.str payload.repository) (.int payload.number) owner) session member
      refine ⟨(isOwn_answerRun_iff sound).trans ?_, counts_answerRun sound⟩
      constructor
      · rintro textual _ ⟨⟩
        exact textual
      · intro textual
        exact textual _ rfl

/-- A request to lint a file gets an answer of the service when the reviews say texts. -/
theorem isOwn_lintFile_iff
    : ((lintFile reviewer outside request).run session).1.IsOwn
      ↔ ∀ job, fileJob request = some job → Textual reviewer outside session job := by
  unfold lintFile fileJob
  cases checked : SingleFileRequest.ofFields (bodyFields request) with
  | faulty errors => exact ⟨fun _ => nofun, fun _ => .invalid rfl⟩
  | ok payload =>
      dsimp only
      cases asked : fileOf payload with
      | error refusal => exact ⟨fun _ => nofun, fun _ => .invalid rfl⟩
      | ok parts =>
          obtain ⟨build, file⟩ := parts
          -- What a job that reviews the file gives back is sound, and the handler runs the same review.
          have sound : ∀ review ∈ ((reviewer.perform outside (.file build file)).run session).1.given,
              review.IsSound :=
            fun review member => Reviewer.isSound_of_given reviewer outside _ session member
          cases ran : (reviewer.reviewFile outside build file).on session with
          | mk result last =>
              have given : ((reviewer.perform outside (.file build file)).run session).1
                  = .reviews result := by
                exact congrArg (JobResult.reviews ∘ Prod.fst) ran
              rw [given] at sound
              simp only [StateT.run_bind, Attempt.run_outcome, ran]
              refine Iff.trans ?_ ((isOwn_answerReviews_iff sound).trans ?_)
              · cases result with
                | error failure => exact Iff.rfl
                | ok reviews =>
                    dsimp only [bind]
                    rw [answerReviews]
                    cases ReviewResponse.ofReviews reviews <;> exact Iff.rfl
              · rw [← given]
                constructor
                · rintro textual _ ⟨⟩
                  exact textual
                · intro textual
                  exact textual _ rfl

/-- Requests to lint get an answer of the service exactly when the reviews they lead to say texts, if they are
valid. One about a pull request that is completed counts the violations in it.
-/
theorem isOwn_iff_textual
    : (((lintPullRequest reviewer outside request).run session).1.IsOwn
        ↔ ∀ job, pullRequestJob request = some job → Textual reviewer outside session job)
      ∧ (((lintFile reviewer outside request).run session).1.IsOwn
        ↔ ∀ job, fileJob request = some job → Textual reviewer outside session job)
      ∧ ((lintPullRequest reviewer outside request).run session).1.Counts := by
  obtain ⟨pullRequest, counts⟩ := isOwn_lintPullRequest_iff reviewer outside request session
  exact ⟨pullRequest, isOwn_lintFile_iff reviewer outside request session, counts⟩

/-- A host with one pull request that adds a file. -/
def addedHost : Host Unit where
  pullRequest _ _ := pure (.obj [("head", .obj [("sha", .str "abc123")])])
  changedFiles _ _ := pure (.arr [.obj [("filename", .str "a.coffee"),
    ("patch", .str "@@ -0,0 +1 @@\n+x")]])
  branchHead _ := throw .endless
  fetchFile _ _ path := pure (if path.same (.str "a.coffee") then some (.str "x") else none)

/-- An engine whose message about line 1 is a number. -/
def numberOutside : Outside Unit where
  host := addedHost
  runEngine _ := pure (.finished
    (.str "\x7b\"s\":[\x7b\"lineNumber\":1,\"message\":5\x7d]\x7d") (.int 2) (.str ""))
  now := pure 0

/-- A request to lint this pull request. -/
def addedRequest : Request where
  method := "POST"
  target := "/api/v1/reviews/lint"
  contentType := some "application/json"
  body := "\x7b\"repository\":\"o/r\",\"pr_number\":1,\"owner\":\x7b\"name\":\"o\"\x7d\x7d"

/-- The request is valid and its run is completed, but it has no answer. -/
theorem not_isOwn_numberMessage
    : ¬ ((lintPullRequest plainReviewer numberOutside addedRequest).run ⟨(), .empty⟩).1.IsOwn := by
  have silent : ((lintPullRequest plainReviewer numberOutside addedRequest).run
      ⟨(), .empty⟩).1.body.isNone = true := by
    decide +kernel
  intro own
  generalize ((lintPullRequest plainReviewer numberOutside addedRequest).run ⟨(), .empty⟩).1 = answer
    at silent own
  cases own <;> cases silent

end Service

end PatchReview
