import PatchReview.Proofs.Json.Documents
import PatchReview.Proofs.Pull.Steadiness
import PatchReview.Proofs.Schema.Payloads
import PatchReview.Proofs.Service.Answers

/-! Files that are posted by themselves. A payload that is posted passes its check as what it is and gives its
file, and the answer tells the reviews of that file.
-/

namespace PatchReview

variable {σ : Type}

-----------------------------------------------------------------------------------------
-- Builds apart from their pull requests
-----------------------------------------------------------------------------------------

/-- A build without its pull request. -/
def Build.alone (build : Build) : Build := { build with pullRequest := none }

/-- A build in a repository that is named by a text has the parts that it is made from, and a request can
name it, but for its pull request.
-/
theorem Build.parts_of_ofAnswers {repository : String} {commit number : Json} {owner : Owner} {build : Build}
    (made : ofAnswers (.str repository) commit owner number = .ok build)
    : isRepositoryName repository = true
      ∧ Text.isBlankText build.commit = false
      ∧ ofParts repository build.commit owner none = .ok build.alone := by
  obtain ⟨slash, holds, made⟩ := Except.bind_eq_ok_iff.mp made
  obtain rfl : isRepositoryName repository = slash := Except.ok.inj holds
  dsimp only at made
  split at made
  · cases made
  · next named =>
      obtain ⟨text, spelled, made⟩ := Except.bind_eq_ok_iff.mp made
      split at made
      · cases made
      · next shows =>
          obtain ⟨number, -, made⟩ := Except.bind_eq_ok_iff.mp made
          cases made
          refine ⟨by simpa using named, by simpa using shows, ?_⟩
          rw [ofParts, if_neg named, if_neg shows]
          rfl

/-- No linter looks at the pull request of its build. -/
theorem Linter.reviewAll_alone (outside : Outside σ) (registry : Registry) (engine : Engine)
    (pointer : Option Json) (switches : Switches) (build : Build) (file : ChangedFile)
    : reviewAll outside (forBuild registry engine pointer switches build.alone) file
      = reviewAll outside (forBuild registry engine pointer switches build) file := by
  unfold reviewAll forBuild
  rw [List.mapM_map, List.mapM_map]
  rfl

/-- A file is reviewed the same whether its build is one of a pull request or not. -/
theorem Reviewer.reviewFile_alone (reviewer : Reviewer) (outside : Outside σ) (build : Build)
    (file : ChangedFile)
    : reviewer.reviewFile outside build.alone file = reviewer.reviewFile outside build file := by
  have linters : reviewer.linters outside.host build.alone
      = (Switches.load outside.host build.repository (.str build.commit) reviewer.pointer >>= fun switches =>
          pure (Linter.forBuild reviewer.registry reviewer.engine (some reviewer.pointer) switches
            build.alone)) :=
    rfl
  rw [reviewFile, reviewFile, linters, Reviewer.linters, Attempt.outside_bind, Attempt.outside_bind]
  simp only [Attempt.outside_pure, bind_assoc, pure_bind, Linter.reviewAll_alone]

-----------------------------------------------------------------------------------------
-- Responses apart from their times
-----------------------------------------------------------------------------------------

namespace ReviewResponse

/-- What is answered about a review, but for the time at which it was complete, if it is. -/
def untimed (response : ReviewResponse) : ReviewResponse :=
  { response with completedAt := response.completedAt.map fun _ => Calendar.Instant.moment ⟨0⟩ }

/-- A review is answered the same at all times, but for the time. -/
theorem ofReview_untimed (review : FileReview)
    : (ofReview review.untimed).map untimed = (ofReview review).map untimed := by
  have named : ∀ violations,
      (withNames review.untimed violations).map untimed = (withNames review violations).map untimed := by
    intro violations
    have completed : review.untimed.isCompleted = review.isCompleted := by
      simp [FileReview.isCompleted, FileReview.untimed]
    have filename : review.untimed.filename = review.filename := rfl
    have linter : review.untimed.linter = review.linter := rfl
    rw [withNames, withNames, completed, filename, linter]
    cases Rule.text review.filename <;> cases Rule.text review.linter <;>
      simp [Checked.map, Checked.and, Checked.within, untimed, FileReview.untimed, Function.comp_def]
  have violations : review.untimed.violations = review.violations := rfl
  unfold ofReview
  rw [violations]
  cases violationsOf review.violations with
  | faulty errors => rfl
  | ok violations => exact named violations

/-- Reviews that differ in their times alone are answered alike, by induction on the answers. -/
theorem exists_ofReviews_of_untimed {reviews others : List FileReview} {responses : List ReviewResponse}
    (same : others.map FileReview.untimed = reviews.map FileReview.untimed)
    (made : ofReviews reviews = .ok responses)
    : ∃ answered, ofReviews others = .ok answered ∧ answered.map untimed = responses.map untimed := by
  have each := ofReviews_eq_ok_iff.mp made
  clear made
  simp only [ofReviews_eq_ok_iff]
  induction each generalizing others with
  | nil => exact ⟨[], List.map_eq_nil_iff.mp same ▸ .nil, rfl⟩
  | cons here _ ih =>
      obtain ⟨other, rest, rfl, first, later⟩ := List.map_eq_cons_iff.mp same
      -- The first two are answered alike, since neither answer depends on the time.
      have seen := ofReview_untimed other
      rw [first, ofReview_untimed, here] at seen
      obtain ⟨answer, told, alike⟩ := Checked.map_eq_ok_iff.mp seen.symm
      obtain ⟨answers, toldToo, alikeToo⟩ := ih later
      exact ⟨answer :: answers, .cons told toldToo, by rw [List.map_cons, List.map_cons, alike, alikeToo]⟩

end ReviewResponse

-----------------------------------------------------------------------------------------
-- Posted payloads
-----------------------------------------------------------------------------------------

/-- The request that posts a payload. -/
def SingleFileRequest.post (payload : SingleFileRequest) : Service.Request where
  method := "POST"
  target := "/api/v1/files/lint"
  contentType := some "application/json"
  body := payload.toJson.print

namespace Service

/-- A request posts a payload when its body holds the payload as JSON. -/
def Request.Posts (request : Request) (payload : SingleFileRequest) : Prop :=
  Json.obj (bodyFields request) = payload.toJson

/-- A payload that is an exact value is posted by its text. -/
theorem posts_post {payload : SingleFileRequest} (exact : payload.toJson.IsExact)
    : payload.post.Posts payload := by
  have typed : payload.post.contentType.any isJsonType = true := by
    show isJsonType "application/json" = true
    decide +kernel
  have held : Json.ofBytes? (Utf8.encode payload.post.body) = some payload.toJson := Json.ofBytes?_print exact
  rw [Request.Posts, bodyFields, if_pos typed, held]
  rfl

/-- (answer.Tells responses) says that an answer is completed and tells these reviews, but for their times. -/
def Answer.Tells (answer : Answer) (responses : List ReviewResponse) : Prop :=
  ∃ others : List ReviewResponse,
    answer = ⟨200, some (.obj [("status", .str "completed"),
      ("file_reviews", .arr (others.map ReviewResponse.toJson))])⟩
    ∧ others.map ReviewResponse.untimed = responses.map ReviewResponse.untimed

/-- The reviews of a file are told when they differ in their times alone from reviews that are answered. -/
theorem tells_answerReviews {reviews : List FileReview} {responses : List ReviewResponse}
    {result : Except Failure (List FileReview)}
    (same : result.map (List.map FileReview.untimed) = .ok (reviews.map FileReview.untimed))
    (made : ReviewResponse.ofReviews reviews = .ok responses)
    : (answerReviews result).Tells responses := by
  cases result with
  | error failure => cases same
  | ok others =>
      obtain ⟨answered, told, seen⟩ := ReviewResponse.exists_ofReviews_of_untimed (Except.ok.inj same) made
      exact ⟨answered, by rw [answerReviews, told], seen⟩

section Requests

variable {reviewer : Reviewer} {outside : Outside σ} {request : Request} {payload : SingleFileRequest}

/-- A request whose payload passes its check and gives a file is answered with the reviews of the file. -/
theorem run_lintFile {build : Build} {file : ChangedFile}
    (checked : SingleFileRequest.ofFields (bodyFields request) = .ok payload)
    (given : fileOf payload = .ok (build, file)) (session : Session σ)
    : ((lintFile reviewer outside request).run session).1
      = answerReviews ((reviewer.reviewFile outside build file).on session).1 := by
  simp only [lintFile, checked, given, StateT.run_bind, Attempt.run_outcome]
  cases (reviewer.reviewFile outside build file).on session with
  | mk result last =>
      cases result with
      | error failure => rfl
      | ok reviews =>
          dsimp only [bind]
          rw [answerReviews]
          cases ReviewResponse.ofReviews reviews <;> rfl

/-- What is posted leads to the route for files. -/
theorem on_respond_post (session : Session σ)
    : ((respond reviewer outside payload.post).on session).1
      = .ok ((lintFile reviewer outside payload.post).run session).1 := by
  have target : Target.ofText payload.post.target = .ok ⟨"/api/v1/files/lint".toList⟩ := by
    show Target.ofText "/api/v1/files/lint" = _
    rfl
  have plain : payload.post.contentType.any hasBreak = false := by
    show hasBreak "application/json" = false
    decide +kernel
  have method : Text.upper payload.post.method = "POST" := by
    show Text.upper "POST" = "POST"
    decide +kernel
  have leads : direction "/api/v1/files/lint".toList "POST" = .to .file := by decide +kernel
  -- From here on it only matters where the path leads.
  generalize "/api/v1/files/lint".toList = path at target leads
  have routed : respondAt reviewer outside payload.post path "POST"
      = lintFile reviewer outside payload.post := by
    unfold respondAt
    rw [leads]
    rfl
  unfold respond
  rw [target, Attempt.on_bind, Attempt.on_ofExcept]
  simp only [Except.mapError, plain, Bool.false_eq_true, if_false, method, routed, Attempt.on_ofState]

end Requests

end Service

end PatchReview
