import PatchReview.Proofs.Pull.AnchoredRuns
import PatchReview.Proofs.Pull.Independence
import PatchReview.Proofs.Service.SingleFiles

/-! The two routes agree. A file that a run over a pull request reviews can be posted by itself: what is
posted passes its check, gives the very same file, and is answered with the reviews that the run has of it.
-/

namespace PatchReview

open PatchReview.Service

variable {σ : Type}

-----------------------------------------------------------------------------------------
-- Work of a run
-----------------------------------------------------------------------------------------

/-- (Worked reviewer outside repository number owner session plan reviewed) says that a run over a pull
request makes this plan and then reviews its entries, which gives these reviews of each.
-/
def Worked (reviewer : Reviewer) (outside : Outside σ) (repository number : Json) (owner : Owner)
    (session : Session σ) (plan : Reviewer.Plan) (reviewed : List (Option (List FileReview)))
    : Prop :=
  ∃ ready last,
    (reviewer.plan outside.host repository number owner).outside.on (outside.timed session)
      = (.ok plan, ready)
    ∧ (plan.entries.mapM (Reviewer.reviewEntry outside plan.build plan.linters)).on ready
      = (.ok reviewed, last)

/-- A completed run has the reviews that it gathers from the entries of its plan. -/
theorem Reviewer.worked_of_completed {reviewer : Reviewer} {outside : Outside σ} {repository number : Json}
    {owner : Owner} {session after : Session σ} {run : Run}
    (ran : (reviewer.reviewPullRequest outside repository number owner).run session = (run, after))
    (completed : run.status = "completed")
    : ∃ plan reviewed,
        Worked reviewer outside repository number owner session plan reviewed
        ∧ run.result = .completed (plan.harvest (gathered reviewed)) := by
  cases ended : (reviewer.harvest outside repository number owner).on (outside.timed session) with
  | mk result closed =>
      rw [Reviewer.run_reviewPullRequest ended] at ran
      obtain rfl := (Prod.mk.inj ran).1
      cases result with
      | error failure => simp [Run.status, RunResult.ofOutcome] at completed
      | ok harvest =>
          rw [harvest_eq] at ended
          obtain ⟨plan, ready, planned, ended⟩ := Attempt.on_bind_eq_ok_iff.mp ended
          rw [reviewEntries_eq] at ended
          obtain ⟨_, all, rfl⟩ := Attempt.on_map_eq_ok_iff.mp ended
          obtain ⟨reviewed, each, rfl⟩ := Attempt.on_map_eq_ok_iff.mp all
          exact ⟨plan, reviewed, ⟨ready, closed, planned, each⟩, rfl⟩

/-- The build of a plan is made from what the host answers about the pull request, and its linters are those
of the reviewer for this build.
-/
theorem Reviewer.made_of_plan {reviewer : Reviewer} {host : Host σ} {repository number : Json} {owner : Owner}
    {state last : σ} {plan : Plan}
    (planned : (reviewer.plan host repository number owner).on state = (.ok plan, last))
    : (∃ head, Build.ofAnswers repository head owner number = .ok plan.build)
      ∧ ∃ before after, (reviewer.linters host plan.build).on before = (.ok plan.linters, after) := by
  obtain ⟨build, _, built, planned⟩ := Attempt.on_bind_eq_ok_iff.mp planned
  obtain ⟨linters, _, chosen, planned⟩ := Attempt.on_bind_eq_ok_iff.mp planned
  obtain ⟨files, _, -, planned⟩ := Attempt.on_bind_eq_ok_iff.mp planned
  obtain ⟨entries, -, made⟩ := Attempt.on_ofExcept_bind_eq_ok_iff.mp planned
  cases made
  obtain ⟨about, _, -, built⟩ := Attempt.on_bind_eq_ok_iff.mp built
  obtain ⟨head, -, built⟩ := Attempt.on_ofExcept_bind_eq_ok_iff.mp built
  exact ⟨⟨head, (Prod.mk.inj built).1⟩, _, _, chosen⟩

-----------------------------------------------------------------------------------------
-- Loaded files
-----------------------------------------------------------------------------------------

/-- (Loaded outside build entry file) says that a file is made from an entry and from the content that the
host has for it, with the chunks of the entry's patch.
-/
structure Loaded (outside : Outside σ) (build : Build) (entry : Json) (file : ChangedFile) : Prop where
  made : ChangedFile.ofEntry entry file.content = .ok file
  has : outside.Has build file.filename (.ok (some file.content))
  patched : ∃ fields patch,
    entry = .obj fields ∧ GivesPatch fields patch ∧ Patch.parse patch = .ok file.chunks

/-- A file that is made from an entry has a name that shows. -/
theorem ChangedFile.shows_of_ofEntry {entry content : Json} {file : ChangedFile}
    (made : ofEntry entry content = .ok file)
    : Text.isBlankText file.filename = false := by
  obtain ⟨_, -, made⟩ := Except.bind_eq_ok_iff.mp made
  obtain ⟨_, -, made⟩ := Except.bind_eq_ok_iff.mp made
  obtain ⟨_, -, made⟩ := Except.bind_eq_ok_iff.mp made
  obtain ⟨_, -, made⟩ := Except.bind_eq_ok_iff.mp made
  obtain ⟨_, -, made⟩ := Except.bind_eq_ok_iff.mp made
  have parts := Except.mapError_eq_ok_iff.mp made
  unfold ofParts at parts
  split at parts
  · cases parts
  · next shows =>
      cases parts
      exact Bool.eq_false_iff.mpr shows

/-- The chunks of a loaded file are as patches give them. -/
theorem Loaded.read {outside : Outside σ} {build : Build} {entry : Json} {file : ChangedFile}
    (loaded : Loaded outside build entry file)
    : ∀ chunk ∈ file.chunks, chunk.IsRead := by
  obtain ⟨_, _, -, -, read⟩ := loaded.patched
  exact Patch.isRead_of_parse read

/-- The reviews of a file are sound. -/
theorem Linter.isSound_of_reviewAll {outside : Outside σ} {linters : List Linter} {file : ChangedFile}
    {session last : Session σ} {reviews : List FileReview}
    (ran : (reviewAll outside linters file).on session = (.ok reviews, last))
    : ∀ review ∈ reviews, review.IsSound := by
  have named : ∀ linter ∈ called linters file, ∃ name, linter.kind.name = .str name :=
    fun linter member => exists_name_of_wants (List.mem_filter.mp member).2
  have each := (List.forall₂_and_left _ _).mpr ⟨named, forall₂_finishes (reviewAll_of_ok ran)⟩
  have sound : List.Forall₂ (fun review (_ : Linter) => review.IsSound) reviews (called linters file) := by
    refine (each.imp fun linter review both => ?_).flip
    obtain ⟨⟨name, named⟩, finishes⟩ := both
    exact finishes.isSound named
  intro review member
  obtain ⟨_, here⟩ := exists_forall₂_iff.mp ⟨_, sound⟩ review member
  exact here

/-- An entry that is reviewed in a steady outside has sound reviews and is of a loaded file, which has the
same reviews alone.
-/
theorem Reviewer.loaded_of_reviewEntry {reviewer : Reviewer} {outside : Outside σ} (steady : outside.Steady)
    {build : Build} {linters : List Linter}
    (chosen : ∀ state, ((reviewer.linters outside.host build).on state).1 = .ok linters) {entry : Json}
    {session last : Session σ} {reviews : List FileReview}
    (made : (reviewEntry outside build linters entry).on session = (.ok (some reviews), last))
    : (∀ review ∈ reviews, review.IsSound)
      ∧ ∃ file,
          Loaded outside build entry file
          ∧ ∀ other,
              ((reviewer.reviewFile outside build file).on other).1.map (List.map FileReview.untimed)
                = .ok (reviews.map FileReview.untimed) := by
  obtain ⟨found, middle, loaded, ran⟩ := Attempt.on_bind_eq_ok_iff.mp made
  cases found with
  | none => cases ran
  | some file =>
      obtain ⟨_, reviewed, same⟩ := Attempt.on_map_eq_ok_iff.mp ran
      obtain rfl := Option.some.inj same
      obtain ⟨filename, content, named, answers, ofEntry⟩ :=
        Reviewer.ofEntry_of_loadFile (Prod.ext (Prod.mk.inj loaded).1 rfl)
      obtain ⟨fields, patch, rfl, found, rfl, given, read⟩ := ChangedFile.gives_of_ofEntry ofEntry
      obtain ⟨_, same, inFields⟩ := Json.entry_eq_ok_iff.mp named
      obtain rfl := Json.obj.inj same
      obtain rfl : file.filename = filename := Json.str.inj (Option.some.inj (found.symm.trans inFields))
      obtain ⟨asked, -, answer⟩ := answers
      refine ⟨Linter.isSound_of_reviewAll reviewed, file, ⟨ofEntry, ?_, fields, patch, rfl, given, read⟩, ?_⟩
      · exact fun state => (steady.fetchFile _ _ _ state asked).trans answer
      · exact reviewFile_of_reviewAll steady chosen reviewed

-----------------------------------------------------------------------------------------
-- Files of entries, posted
-----------------------------------------------------------------------------------------

/-- (PostsAlone reviewer outside build file payload responses) says that posting a payload passes the check,
gives the build without its pull request and the very same file, and is answered with these responses,
whenever that is. Where the positions can be written, the payload can be posted as a text.
-/
structure PostsAlone (reviewer : Reviewer) (outside : Outside σ) (build : Build) (file : ChangedFile)
    (payload : SingleFileRequest) (responses : List ReviewResponse)
    : Prop where
  checked : ∀ request : Request,
    request.Posts payload → SingleFileRequest.ofFields (bodyFields request) = .ok payload
  rebuilt : fileOf payload = .ok (build.alone, file)
  answered : ∀ request : Request,
    request.Posts payload →
      ∀ session, ((lintFile reviewer outside request).run session).1.Tells responses
  posted : file.HasShortPositions →
    payload.post.Posts payload
    ∧ ∀ session,
        ∃ answer, ((respond reviewer outside payload.post).on session).1 = .ok answer ∧ answer.Tells responses

/-- (AgreesOn reviewer outside repository owner build entry found) says of an entry with reviews that it is
of a loaded file, and that the file, if its content is a text, its lines are short and the reviews say
texts, can be posted alone, which is answered with the responses to these reviews.
-/
def AgreesOn (reviewer : Reviewer) (outside : Outside σ) (repository : String) (owner : OwnerRequest)
    (build : Build) (entry : Json) (found : Option (List FileReview))
    : Prop :=
  ∀ reviews, found = some reviews →
    ∃ file,
      Loaded outside build entry file
      ∧ ∀ text,
          file.content = .str text →
          file.HasShortLines →
          (∀ review ∈ reviews, review.IsTextual) →
            ∃ responses,
              ReviewResponse.ofReviews reviews = .ok responses
              ∧ PostsAlone reviewer outside build file
                  ⟨repository, build.commit, owner, .ofFile file text⟩ responses

/-- A loaded file is posted alone, and the answer tells the responses to the reviews that it has alone. -/
theorem Loaded.postsAlone {reviewer : Reviewer} {outside : Outside σ} {repository : String}
    {request : OwnerRequest} {owner : Owner} {number head : Json} {build : Build} {entry : Json}
    {file : ChangedFile} {text : String} {reviews : List FileReview} {responses : List ReviewResponse}
    (loaded : Loaded outside build entry file) (owned : request.toOwner = .ok owner)
    (built : Build.ofAnswers (.str repository) head owner number = .ok build)
    (told : file.content = .str text) (short : file.HasShortLines)
    (alone : ∀ session,
      ((reviewer.reviewFile outside build file).on session).1.map (List.map FileReview.untimed)
        = .ok (reviews.map FileReview.untimed))
    (made : ReviewResponse.ofReviews reviews = .ok responses)
    : PostsAlone reviewer outside build file ⟨repository, build.commit, request, .ofFile file text⟩
        responses := by
  obtain ⟨repositoryNamed, commitShows, same⟩ := Build.parts_of_ofAnswers built
  have shows := ChangedFile.shows_of_ofEntry loaded.made
  have read := loaded.read
  have checked : ∀ posting : Request,
      posting.Posts ⟨repository, build.commit, request, .ofFile file text⟩ →
        SingleFileRequest.ofFields (bodyFields posting)
          = .ok ⟨repository, build.commit, request, .ofFile file text⟩ := by
    intro posting posts
    refine SingleFileRequest.ofFields_toJson ⟨repositoryNamed, commitShows, ?_, ?_⟩ posts
    · exact (OwnerRequest.toOwner_eq_ok_iff.mp owned).1
    · exact FileRequest.isValid_ofFile shows read short
  have rebuilt : fileOf ⟨repository, build.commit, request, .ofFile file text⟩
      = .ok (build.alone, file) := by
    rw [fileOf, SingleFileRequest.toBuild, owned, FileRequest.toChangedFile_ofFile shows told read]
    show (Build.ofParts repository build.commit owner none >>= fun build => _) = _
    rw [same]
    rfl
  have answered : ∀ posting : Request,
      posting.Posts ⟨repository, build.commit, request, .ofFile file text⟩ →
        ∀ session, ((lintFile reviewer outside posting).run session).1.Tells responses := by
    intro posting posts session
    rw [run_lintFile (checked posting posts) rebuilt, Reviewer.reviewFile_alone]
    exact tells_answerReviews (alone session) made
  refine ⟨checked, rebuilt, answered, fun positions => ?_⟩
  have exact : (SingleFileRequest.toJson ⟨repository, build.commit, request, .ofFile file text⟩).IsExact :=
    SingleFileRequest.isExact_toJson (FileRequest.isExact_ofFile read short positions)
  have posts := posts_post exact
  exact ⟨posts, fun session => ⟨_, on_respond_post session, answered _ posts session⟩⟩

-----------------------------------------------------------------------------------------
-- Answers to runs
-----------------------------------------------------------------------------------------

/-- A request to lint a pull request that passes its check is answered with the run over it. -/
theorem Service.run_lintPullRequest {reviewer : Reviewer} {outside : Outside σ} {request : Request}
    {payload : PullRequest} {owner : Owner} {session after : Session σ} {run : Run}
    (checked : PullRequest.ofFields (bodyFields request) = .ok payload)
    (owned : payload.owner.toOwner = .ok owner)
    (ran : (reviewer.reviewPullRequest outside (.str payload.repository) (.int payload.number) owner).run
      session = (run, after))
    : ((lintPullRequest reviewer outside request).run session).1 = answerRun run := by
  simp only [lintPullRequest, checked, owned, StateT.run_bind, ran]
  rfl

/-- Reviews of several files are answered when those of each are, one file after the other, by induction on
the files.
-/
theorem ReviewResponse.ofReviews_flatten {reviews : List (List FileReview)}
    {responses : List (List ReviewResponse)}
    (each : List.Forall₂ (fun some answered => ofReviews some = .ok answered) reviews responses)
    : ofReviews reviews.flatten = .ok responses.flatten := by
  rw [ofReviews_eq_ok_iff]
  induction each with
  | nil => exact .nil
  | cons here _ ih => exact List.rel_append (ofReviews_eq_ok_iff.mp here) ih

-----------------------------------------------------------------------------------------
-- The two routes
-----------------------------------------------------------------------------------------

/-- (RoutesAgree reviewer outside repository number owner session run plan reviewed) says that a run has the
reviews that are gathered from the entries of its plan, and agrees on each entry with the route for files:
what is answered about the run are the responses to the reviews of one entry after the other.
-/
structure RoutesAgree (reviewer : Reviewer) (outside : Outside σ) (repository : String) (number : Json)
    (owner : OwnerRequest) (session : Session σ) (run : Run) (plan : Reviewer.Plan)
    (reviewed : List (Option (List FileReview)))
    : Prop where
  result : run.result = .completed (plan.harvest (Reviewer.gathered reviewed))
  each : List.Forall₂ (AgreesOn reviewer outside repository owner plan.build) plan.entries reviewed
  answered : (∀ review ∈ run.reviews, review.IsTextual) →
    ∃ responses fields,
      List.Forall₂ (fun found some => ReviewResponse.ofReviews (Reviewer.contributed found) = .ok some)
        reviewed responses
      ∧ answerRun run = ⟨200, some (.obj fields)⟩
      ∧ Assoc.get? "file_reviews" fields = some (.arr (responses.flatten.map ReviewResponse.toJson))
  routed : ∀ request n,
    number = .int n →
    PullRequest.ofFields (bodyFields request) = .ok ⟨repository, n, owner⟩ →
      ((lintPullRequest reviewer outside request).run session).1 = answerRun run

/-- A completed run whose reviews say texts is answered with the responses to the reviews of one entry after
the other.
-/
theorem Service.answerRun_of_textual {run : Run} {plan : Reviewer.Plan}
    {reviewed : List (Option (List FileReview))}
    (result : run.result = .completed (plan.harvest (Reviewer.gathered reviewed)))
    (sound : ∀ review ∈ run.reviews, review.IsSound)
    (textual : ∀ review ∈ run.reviews, review.IsTextual)
    : ∃ responses fields,
        List.Forall₂ (fun found some => ReviewResponse.ofReviews (Reviewer.contributed found) = .ok some)
          reviewed responses
        ∧ answerRun run = ⟨200, some (.obj fields)⟩
        ∧ Assoc.get? "file_reviews" fields
          = some (.arr (responses.flatten.map ReviewResponse.toJson)) := by
  have reviews : run.reviews = (reviewed.map Reviewer.contributed).flatten := by
    rw [Run.reviews, result, ← List.flatMap_def]
    rfl
  have among : ∀ found ∈ reviewed, ∀ review ∈ Reviewer.contributed found, review ∈ run.reviews := by
    intro found member review inFound
    rw [reviews]
    exact List.mem_flatten.mpr ⟨_, List.mem_map_of_mem member, inFound⟩
  obtain ⟨responses, each⟩ : ∃ responses,
      List.Forall₂ (fun found some => ReviewResponse.ofReviews (Reviewer.contributed found) = .ok some)
        reviewed responses := by
    refine exists_forall₂_iff.mpr fun found member => ?_
    have own := among found member
    exact (ReviewResponse.exists_ofReviews_iff fun review inFound => sound review (own review inFound)).mpr
      fun review inFound => textual review (own review inFound)
  have all : ReviewResponse.ofReviews run.reviews = .ok responses.flatten := by
    rw [reviews]
    exact ReviewResponse.ofReviews_flatten (List.forall₂_map_left_iff.mpr each)
  have told : answerRun run = ⟨200, some (.obj [
      ("review_id", .str run.identifier), ("status", .str run.status), ("repository", run.repository),
      ("pr_number", run.number), ("total_violations", .int run.violationCount),
      ("processing_time", .float (Binary64.ofInt run.duration)),
      ("file_reviews", .arr (responses.flatten.map ReviewResponse.toJson))])⟩ := by
    rw [answerRun, result]
    dsimp only
    rw [all]
  exact ⟨responses, _, each, told, rfl⟩

/-- The route for pull requests and the route for files agree on every entry that a completed run reviews, in
a steady outside.
-/
theorem Reviewer.routes_agree {reviewer : Reviewer} {outside : Outside σ} {repository : String}
    {number : Json} {request : OwnerRequest} {owner : Owner} {session after : Session σ} {run : Run}
    (steady : outside.Steady) (owned : request.toOwner = .ok owner)
    (ran : (reviewer.reviewPullRequest outside (.str repository) number owner).run session = (run, after))
    (completed : run.status = "completed")
    : ∃ plan reviewed,
        Worked reviewer outside (.str repository) number owner session plan reviewed
        ∧ RoutesAgree reviewer outside repository number request session run plan reviewed := by
  obtain ⟨plan, reviewed, worked, result⟩ := worked_of_completed ran completed
  obtain ⟨ready, last, planned, each⟩ := worked
  have plannedOutside : (reviewer.plan outside.host (.str repository) number owner).on
      (outside.timed session).outside = (.ok plan, _) :=
    Prod.ext (Prod.mk.inj planned).1 rfl
  obtain ⟨⟨head, built⟩, before, _, chosen⟩ := made_of_plan plannedOutside
  -- The linters hang on answers alone, which a steady outside gives again when the file is posted.
  have chosen : ∀ state, ((reviewer.linters outside.host plan.build).on state).1 = .ok plan.linters := by
    intro state
    have consults := Reviewer.consults_linters outside reviewer plan.build
    exact (consults.steady steady state before).trans (congrArg Prod.fst chosen)
  have sound : ∀ review ∈ run.reviews, review.IsSound := by
    intro review member
    have same : ((reviewer.reviewPullRequest outside (.str repository) number owner).run session).1 = run :=
      congrArg Prod.fst ran
    rw [← same] at member
    exact isSound_of_given reviewer outside (.pullRequest (.str repository) number owner) session member
  refine ⟨plan, reviewed, ⟨ready, last, planned, each⟩, result, ?_,
    Service.answerRun_of_textual result sound, ?_⟩
  · refine (Attempt.forall₂_of_mapM each).imp fun entry found made => ?_
    intro reviews same
    subst same
    obtain ⟨_, _, reviewed⟩ := made
    obtain ⟨sound, file, loaded, alone⟩ := loaded_of_reviewEntry steady chosen reviewed
    refine ⟨file, loaded, fun text told short textual => ?_⟩
    obtain ⟨responses, made⟩ := (ReviewResponse.exists_ofReviews_iff sound).mpr textual
    exact ⟨responses, made, loaded.postsAlone owned built told short alone made⟩
  · intro posting n same checked
    subst same
    exact run_lintPullRequest checked owned ran

/-- A run with a review of a file that has two chunks is completed, and the two routes agree on it. -/
theorem Reviewer.routes_agree_twiceAddedEnd
    : (⟨"o", false, none⟩ : OwnerRequest).toOwner = .ok ⟨"o", false, .null⟩
      ∧ twiceAddedEnd.1.status = "completed"
      ∧ twiceAddedEnd.1.reviews.map (fun review => review.violations.map fun violation =>
          (violation.line.value, violation.position, violation.messages.map Json.shown))
        = [[(2, .number 5, ["'m'", "'k'"])]]
      ∧ ∃ plan reviewed,
          Worked plainReviewer twiceAddedOutside (.str "o/r") (.int 1) ⟨"o", false, .null⟩ ⟨(), .empty⟩ plan
            reviewed
          ∧ RoutesAgree plainReviewer twiceAddedOutside "o/r" (.int 1) ⟨"o", false, none⟩ ⟨(), .empty⟩
              twiceAddedEnd.1 plan reviewed := by
  have owned : (⟨"o", false, none⟩ : OwnerRequest).toOwner = .ok ⟨"o", false, .null⟩ :=
    OwnerRequest.toOwner_eq_ok_iff.mpr ⟨⟨by decide +kernel, rfl⟩, rfl⟩
  have seen : twiceAddedEnd.1.status = "completed"
      ∧ twiceAddedEnd.1.reviews.map (fun review => review.violations.map fun violation =>
          (violation.line.value, violation.position, violation.messages.map Json.shown))
        = [[(2, .number 5, ["'m'", "'k'"])]] := by
    decide +kernel
  have steady : twiceAddedOutside.Steady :=
    ⟨fun _ _ _ => rfl, fun _ _ _ _ _ => rfl, fun _ _ _ => rfl⟩
  have ran : (plainReviewer.reviewPullRequest twiceAddedOutside (.str "o/r") (.int 1)
      ⟨"o", false, .null⟩).run ⟨(), .empty⟩ = (twiceAddedEnd.1, twiceAddedEnd.2) :=
    (Prod.eta twiceAddedEnd).symm
  exact ⟨owned, seen.1, seen.2, Reviewer.routes_agree steady owned ran seen.1⟩

end PatchReview
