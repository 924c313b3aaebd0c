import PatchReview.Proofs.Pull.Loading
import PatchReview.Proofs.Pull.Steadiness

/-! A run over a pull request joins what its entries contribute one by one. In a steady outside no entry
changes what becomes of another, so that entries may be reordered, and skipped ones left out.
-/

namespace PatchReview

variable {σ : Type}

-----------------------------------------------------------------------------------------
-- Listings
-----------------------------------------------------------------------------------------

/-- (outside.listing entries) is an outside whose host lists these entries for every pull request. Being
asked for them does to the host what it did before.
-/
def Outside.listing (outside : Outside σ) (entries : List Json) : Outside σ :=
  { outside with
    host := { outside.host with
      changedFiles := fun repository number => Attempt.ofState
        ((fun _ => .arr entries) <$> (outside.host.changedFiles repository number).outcome) } }

section Listing

variable (outside : Outside σ) (entries : List Json)

/-- Candidates are looked for whatever is listed, by induction on the candidates. -/
theorem Candidate.firstUsable_listing (repository ref : Json) (candidates : List Candidate)
    : firstUsable (outside.listing entries).host repository ref candidates
      = firstUsable outside.host repository ref candidates := by
  induction candidates with
  | nil => rfl
  | cons candidate rest ih =>
      have same : candidate.load (outside.listing entries).host repository ref
          = candidate.load outside.host repository ref :=
        rfl
      rw [firstUsable, firstUsable, ih, same]

theorem Linter.findings_listing (linter : Linter) (file : ChangedFile)
    : linter.findings (outside.listing entries) file = linter.findings outside file := by
  have owned : ∀ pointer owner name legacy,
      Config.ofOwner (outside.listing entries).host pointer owner name legacy
        = Config.ofOwner outside.host pointer owner name legacy := by
    intro pointer owner name legacy
    have same : (outside.listing entries).host.branchHead = outside.host.branchHead := rfl
    simp only [Config.ofOwner, Candidate.firstUsable_listing, same]
  have configured : linter.config (outside.listing entries).host = linter.config outside.host := by
    unfold config
    simp only [owned]
    rfl
  rw [findings, configured]
  rfl

/-- An entry is reviewed whatever else is listed. -/
theorem Reviewer.reviewEntry_listing (build : Build) (linters : List Linter)
    : reviewEntry (outside.listing entries) build linters = reviewEntry outside build linters := by
  funext entry
  have loaded : loadFile (outside.listing entries).host build linters entry
      = loadFile outside.host build linters entry :=
    rfl
  have timed : (outside.listing entries).time = outside.time := rfl
  simp only [reviewEntry, loaded, Linter.reviewAll, Linter.reviewWanted, Linter.review,
    Linter.findings_listing, timed]

end Listing

-----------------------------------------------------------------------------------------
-- What an entry contributes
-----------------------------------------------------------------------------------------

/-- (outside.Has build filename answer) says what the host answers about the content of a file at the commit
of a build, whenever it is asked.
-/
def Outside.Has (outside : Outside σ) (build : Build) (filename : String)
    (answer : Except Failure (Option Json))
    : Prop :=
  ∀ state,
    ((outside.host.fetchFile build.repository (.str build.commit) (.str filename)).on state).1 = answer

/-- (Skips outside build linters fields filename) says that an entry is skipped: it says that its file is
removed or no linter wants it, and no host is asked for its content, or else its content is not there or
has bytes that are no text.
-/
inductive Skips (outside : Outside σ) (build : Build) (linters : List Linter) (fields : Json.Fields)
    (filename : String)
    : Prop where
  | removed (told : SaysRemoved fields)
    (unasked : ∀ host : Host σ, Reviewer.loadFile host build linters (.obj fields) = pure none)
  | unwanted (unclaimed : ∀ linter ∈ linters, linter.wants? (.str filename) = .ok false)
    (unasked : ∀ host : Host σ, Reviewer.loadFile host build linters (.obj fields) = pure none)
  | absent (there : ¬ SaysRemoved fields) (wanted : ∃ linter ∈ linters, linter.wants filename = true)
    (has : outside.Has build filename (.ok none))
  | unreadable {fault} (there : ¬ SaysRemoved fields)
    (wanted : ∃ linter ∈ linters, linter.wants filename = true)
    (has : outside.Has build filename (.error (.bytes fault)))

/-- (Contributes reviewer outside build linters fields filename reviews) says that an entry, which is there
and wanted, has one review of each linter that wants it, in order, and that these are the reviews of its
file alone.
-/
structure Contributes (reviewer : Reviewer) (outside : Outside σ) (build : Build) (linters : List Linter)
    (fields : Json.Fields) (filename : String) (reviews : List FileReview)
    : Prop where
  there : ¬ SaysRemoved fields
  wanted : ∃ linter ∈ linters, linter.wants filename = true
  linted : reviews.map (fun review => (review.filename, review.linter))
    = (linters.filter (·.wants filename)).map fun linter => (.str filename, linter.kind.name)
  alone : ∃ content file,
    outside.Has build filename (.ok (some content))
    ∧ ChangedFile.ofEntry (.obj fields) content = .ok file
    ∧ ∀ session,
        ((reviewer.reviewFile outside build file).on session).1.map (List.map FileReview.untimed)
          = .ok reviews

variable {reviewer : Reviewer} {outside : Outside σ} {build : Build} {linters : List Linter}
  {fields : Json.Fields} {filename : String} {reviews : List FileReview}

/-- A skipped entry does not contribute. -/
theorem Skips.not_contributes (state : σ) (skips : Skips outside build linters fields filename)
    : ¬ Contributes reviewer outside build linters fields filename reviews := by
  intro contributes
  obtain ⟨content, file, told, -, -⟩ := contributes.alone
  cases skips with
  | removed told _ => exact contributes.there told
  | unwanted unclaimed _ =>
      obtain ⟨linter, member, wants⟩ := contributes.wanted
      rw [Linter.wants_iff, unclaimed linter member] at wants
      cases wants
  | absent _ _ has => cases (has state).symm.trans (told state)
  | unreadable _ _ has => cases (has state).symm.trans (told state)

/-- An entry that contributes has reviews. -/
theorem Contributes.ne_nil
    (contributes : Contributes reviewer outside build linters fields filename reviews)
    : reviews ≠ [] := by
  rintro rfl
  obtain ⟨linter, member, wants⟩ := contributes.wanted
  have none := List.map_eq_nil_iff.mp contributes.linted.symm
  exact absurd wants (List.filter_eq_nil_iff.mp none linter member)

/-- The linters that a reviewer has for a build are those of its registry, in order, under the switches that
the build's repository gives.
-/
def Reviewer.Switched (reviewer : Reviewer) (outside : Outside σ) (build : Build) (switches : Switches)
    : Prop :=
  ∀ state,
    ((Switches.load outside.host build.repository (.str build.commit) reviewer.pointer).on state).1
      = .ok switches

theorem Reviewer.linters_of_switched {switches : Switches}
    (switched : reviewer.Switched outside build switches) (state : σ)
    : ((reviewer.linters outside.host build).on state).1
      = .ok (Linter.forBuild reviewer.registry reviewer.engine (some reviewer.pointer) switches build) := by
  have told := switched state
  rw [linters, Attempt.on_bind]
  cases loaded : (Switches.load outside.host build.repository (.str build.commit) reviewer.pointer).on
      state with
  | mk result reached =>
      rw [loaded] at told
      dsimp only at told
      subst told
      rfl

/-- Of a file that is there every linter that wants it has one review, in order. -/
theorem Reviewer.linted_of_reviewAll (named : Assoc.get? "filename" fields = some (.str filename))
    (there : ¬ SaysRemoved fields) {content : Json} {file : ChangedFile}
    (made : ChangedFile.ofEntry (.obj fields) content = .ok file) {session last : Session σ}
    (ran : (Linter.reviewAll outside linters file).on session = (.ok reviews, last))
    : (reviews.map FileReview.untimed).map (fun review => (review.filename, review.linter))
      = (linters.filter (·.wants filename)).map fun linter => (.str filename, linter.kind.name) := by
  obtain ⟨_, same, inFields, -⟩ := ChangedFile.parts_of_ofEntry made
  obtain rfl := Json.obj.inj same
  obtain rfl : file.filename = filename := Json.str.inj (Option.some.inj (inFields.symm.trans named))
  have asked : Linter.asked linters file = linters :=
    if_neg fun removed => there (ChangedFile.says_removed made removed)
  have ran := Linter.reviewAll_of_ok ran
  rw [Linter.called, asked] at ran
  have each := (Linter.forall₂_finishes ran).imp fun linter review finishes =>
    show (review.untimed.filename, review.untimed.linter) = (.str file.filename, linter.kind.name) from
      Prod.ext finishes.filename finishes.linter
  rw [List.map_map, ← List.forall₂_eq_eq_eq, List.forall₂_map_left_iff, List.forall₂_map_right_iff]
  exact each.flip

/-- The reviews of a file are those that it has alone, whenever it is reviewed. -/
theorem Reviewer.reviewFile_of_reviewAll (steady : outside.Steady)
    (chosen : ∀ state, ((reviewer.linters outside.host build).on state).1 = .ok linters)
    {file : ChangedFile} {session last : Session σ}
    (ran : (Linter.reviewAll outside linters file).on session = (.ok reviews, last)) (other : Session σ)
    : ((reviewer.reviewFile outside build file).on other).1.map (List.map FileReview.untimed)
      = .ok (reviews.map FileReview.untimed) := by
  have told := chosen other.outside
  rw [reviewFile, Attempt.on_bind, Attempt.on_outside]
  generalize (reviewer.linters outside.host build).on other.outside = switched at told
  obtain ⟨result, reached⟩ := switched
  dsimp only at told
  subst told
  refine (Linter.steady_reviewAll steady linters file _ session).trans ?_
  rw [ran]
  rfl

/-- In a steady outside an entry is skipped, or it contributes its reviews, by cases on whether it is there
and wanted and on what the host answers.
-/
theorem Reviewer.skips_or_contributes (steady : outside.Steady)
    (chosen : ∀ state, ((reviewer.linters outside.host build).on state).1 = .ok linters)
    (named : Assoc.get? "filename" fields = some (.str filename)) {session last : Session σ}
    {reviewed : Option (List FileReview)}
    (made : (reviewEntry outside build linters (.obj fields)).on session = (.ok reviewed, last))
    : reviewed = none ∧ Skips outside build linters fields filename
      ∨ ∃ reviews,
          reviewed = some reviews
          ∧ Contributes reviewer outside build linters fields filename
              (reviews.map FileReview.untimed) := by
  rcases gated_cases fields filename linters with gated | ⟨there, failure, unknown⟩ | ⟨there, asks, wanted⟩
  · have unasked : ∀ (host : Host σ) build, loadFile host build linters (.obj fields) = pure none :=
      loadFile_of_skipped named gated
    rw [reviewEntry, unasked] at made
    cases made
    refine Or.inl ⟨rfl, ?_⟩
    rcases gated with told | unclaimed
    · exact .removed told fun host => unasked host build
    · exact .unwanted unclaimed fun host => unasked host build
  · rw [reviewEntry, Attempt.on_bind, Attempt.on_outside,
      on_loadFile_of_unknown named there unknown outside.host build session.outside] at made
    cases made
  · have asked := on_loadFile_of_wanted named there asks outside.host build session.outside
    have has : outside.Has build filename ((outside.host.fetchFile build.repository (.str build.commit)
        (.str filename)).on session.outside).1 :=
      fun state => steady.fetchFile _ _ _ state session.outside
    rw [reviewEntry, Attempt.on_bind, Attempt.on_outside, asked] at made
    -- From here on only the answer matters, and it is the one that is given at all states.
    generalize (outside.host.fetchFile build.repository (.str build.commit) (.str filename)).on
      session.outside = fetched at made has
    obtain ⟨answer, reached⟩ := fetched
    dsimp only [Prod.map] at made has
    cases answer with
    | error failure =>
        by_cases unreadable : ∃ fault, failure = .bytes fault
        · obtain ⟨fault, rfl⟩ := unreadable
          cases made
          exact Or.inl ⟨rfl, .unreadable there wanted has⟩
        · rw [ChangedFile.ofAnswer_error unreadable] at made
          cases made
    | ok answer =>
        cases answer with
        | none =>
            cases made
            exact Or.inl ⟨rfl, .absent there wanted has⟩
        | some content =>
            cases read : ChangedFile.ofEntry (.obj fields) content with
            | error failure =>
                rw [ChangedFile.ofAnswer, read] at made
                cases made
            | ok file =>
                rw [ChangedFile.ofAnswer, read] at made
                obtain ⟨reviews, ran, rfl⟩ := Attempt.on_map_eq_ok_iff.mp made
                exact Or.inr ⟨reviews, rfl, there, wanted, linted_of_reviewAll named there read ran,
                  content, file, has, read, reviewFile_of_reviewAll steady chosen ran⟩

-----------------------------------------------------------------------------------------
-- Runs over listings
-----------------------------------------------------------------------------------------

namespace Reviewer

section Runs

variable (reviewer : Reviewer) (outside : Outside σ) (repository number : Json) (owner : Owner)
  (session : Session σ)

/-- The run over a pull request whose host lists these entries. -/
def runOver (entries : List Json) : Run :=
  ((reviewer.reviewPullRequest (outside.listing entries) repository number owner).run session).1

/-- What the run over an entry alone finds, whenever that is. -/
def own (entry : Json) : List FileReview :=
  (reviewer.runOver outside repository number owner session [entry]).reviews.map FileReview.untimed

/-- A plan is made before its entries are listed. -/
theorem plan_listing (entries : List Json) (state : σ)
    : (reviewer.plan (outside.listing entries).host repository number owner).on state
      = match (buildAt outside.host repository number owner).on state with
        | (.error failure, reached) => (.error failure, reached)
        | (.ok build, reached) =>
            match (reviewer.linters outside.host build).on reached with
            | (.error failure, switched) => (.error failure, switched)
            | (.ok linters, switched) =>
                (.ok ⟨build, linters, entries⟩,
                  ((outside.host.changedFiles repository number).on switched).2) := by
  have built : buildAt (outside.listing entries).host repository number owner
      = buildAt outside.host repository number owner :=
    rfl
  rw [plan, Attempt.on_bind, built]
  cases (buildAt outside.host repository number owner).on state with
  | mk result reached =>
      cases result with
      | error failure => rfl
      | ok build =>
          have same : reviewer.linters (outside.listing entries).host build
              = reviewer.linters outside.host build :=
            rfl
          dsimp only
          rw [Attempt.on_bind, same]
          cases (reviewer.linters outside.host build).on reached with
          | mk result switched =>
              cases result with
              | error failure => rfl
              | ok linters => rfl

/-- What becomes of an entry without the time, seen from the session. -/
def alone (build : Build) (linters : List Linter) (entry : Json)
    : Except Failure (Option (List FileReview)) :=
  ((reviewEntry outside build linters entry).on session).1.map (Option.map (List.map FileReview.untimed))

/-- (Covers reviewer outside repository number owner session build linters) says that a run reviews entries
one after the other for this build and with these linters, whichever entries are listed.
-/
def Covers (build : Build) (linters : List Linter) : Prop :=
  ∀ entries, ∃ ready,
    (reviewer.runOver outside repository number owner session entries).result
      = .ofOutcome
          (((entries.mapM (reviewEntry outside build linters)).on ready).1.map fun reviewed =>
            Plan.harvest ⟨build, linters, entries⟩ (gathered reviewed))

/-- Whatever is listed, a run fails before it is, or it reviews what is listed for one and the same build, from
one and the same state.
-/
theorem harvest_listing
    : (∃ failure, ∀ entries,
        ((reviewer.harvest (outside.listing entries) repository number owner).on session).1
          = .error failure)
      ∨ ∃ build linters reached switched ready,
          ((buildAt outside.host repository number owner).on session.outside).1 = .ok build
          ∧ (reviewer.linters outside.host build).on reached = (.ok linters, switched)
          ∧ ∀ entries,
              (reviewer.harvest (outside.listing entries) repository number owner).on session
                = Prod.map (Except.map fun reviewed => Plan.harvest ⟨build, linters, entries⟩ (gathered reviewed))
                    id ((entries.mapM (reviewEntry outside build linters)).on ready) := by
  simp only [harvest_eq, Attempt.on_bind, Attempt.on_outside, plan_listing]
  cases (buildAt outside.host repository number owner).on session.outside with
  | mk result reached =>
      cases result with
      | error failure => exact Or.inl ⟨failure, fun _ => rfl⟩
      | ok build =>
          dsimp only
          cases chosen : (reviewer.linters outside.host build).on reached with
          | mk result switched =>
              cases result with
              | error failure => exact Or.inl ⟨failure, fun _ => rfl⟩
              | ok linters =>
                  refine Or.inr ⟨build, linters, reached, switched,
                    ⟨((outside.host.changedFiles repository number).on switched).2, session.store⟩, rfl, chosen,
                    fun entries => ?_⟩
                  dsimp only
                  rw [reviewEntries_eq, reviewEntry_listing, Attempt.on_map, Attempt.on_map]
                  dsimp only
                  rw [Except.map_map]
                  rfl

/-- A run over listed entries is completed when its harvest is. -/
theorem result_runOver (entries : List Json)
    : (reviewer.runOver outside repository number owner session entries).result
      = .ofOutcome ((reviewer.harvest (outside.listing entries) repository number owner).on
          (outside.timed session)).1 := by
  have opened : (outside.listing entries).timed session = outside.timed session := rfl
  rw [runOver, run_reviewPullRequest (Prod.eta _).symm, opened]

/-- Whatever is listed, a run fails before it is, or it reviews what is listed for one and the same build. -/
theorem runOver_cases
    : (∃ failure, ∀ entries,
        (reviewer.runOver outside repository number owner session entries).result = .failed failure)
      ∨ ∃ build linters reached switched,
          (reviewer.linters outside.host build).on reached = (.ok linters, switched)
          ∧ Covers reviewer outside repository number owner session build linters := by
  rcases harvest_listing reviewer outside repository number owner (outside.timed session) with
    ⟨failure, fails⟩ | ⟨build, linters, reached, switched, ready, -, chosen, covers⟩
  · exact Or.inl ⟨failure, fun entries => by rw [result_runOver, fails, RunResult.ofOutcome]⟩
  · exact Or.inr ⟨build, linters, reached, switched, chosen, fun entries =>
      ⟨ready, by rw [result_runOver, covers]; rfl⟩⟩

end Runs

/-- Reviews are gathered whatever their times. -/
theorem gathered_untimed (reviewed : List (Option (List FileReview)))
    : gathered (reviewed.map (Option.map (List.map FileReview.untimed)))
      = ((gathered reviewed).1.map FileReview.untimed, (gathered reviewed).2) := by
  refine Prod.ext ?_ ?_
  · show List.flatMap contributed (List.map _ reviewed) = List.map _ (List.flatMap contributed reviewed)
    rw [List.flatMap_map, List.map_flatMap]
    refine congrArg (List.flatMap · reviewed) (funext fun found => ?_)
    cases found <;> rfl
  · show List.countP Option.isSome (List.map _ reviewed) = List.countP Option.isSome reviewed
    rw [List.countP_map]
    refine congrArg (List.countP · reviewed) (funext fun found => ?_)
    cases found <;> rfl

variable {repository number : Json} {owner : Owner} {session : Session σ}

/-- A run is completed when each entry is by itself, and gathers what they become. -/
theorem Covers.completes (steady : outside.Steady)
    (covers : Covers reviewer outside repository number owner session build linters)
    {entries : List Json} {value : Json → Option (List FileReview)}
    (each : ∀ entry ∈ entries, alone outside session build linters entry = .ok (value entry))
    : ∃ harvest,
        (reviewer.runOver outside repository number owner session entries).result = .completed harvest
        ∧ harvest.head = build.commit
        ∧ harvest.filesChanged = entries.length
        ∧ (harvest.reviews.map FileReview.untimed, harvest.filesLinted)
          = gathered (entries.map value) := by
  obtain ⟨ready, ended⟩ := covers entries
  have seen := Attempt.SteadyBy.mapM
    (fun entry (_ : entry ∈ entries) => steady_reviewEntry steady build linters entry) session ready
  have made := seen.trans (Except.mapM_eq_ok each)
  cases ran : ((entries.mapM (reviewEntry outside build linters)).on ready).1 with
  | error failure =>
      rw [ran] at made
      cases made
  | ok reviewed =>
      rw [ran] at made ended
      refine ⟨_, ended, rfl, rfl, ?_⟩
      rw [← Except.ok.inj made, gathered_untimed]
      rfl

/-- Each entry of a run that is completed is by itself. -/
theorem Covers.alone_of_completed (steady : outside.Steady)
    (covers : Covers reviewer outside repository number owner session build linters)
    {entries : List Json}
    (completed : (reviewer.runOver outside repository number owner session entries).status = "completed")
    : ∀ entry ∈ entries, ∃ value, alone outside session build linters entry = .ok value := by
  obtain ⟨ready, ended⟩ := covers entries
  have seen := Attempt.SteadyBy.mapM
    (fun entry (_ : entry ∈ entries) => steady_reviewEntry steady build linters entry) session ready
  cases ran : ((entries.mapM (reviewEntry outside build linters)).on ready).1 with
  | error failure =>
      rw [ran] at ended
      simp [Run.status, ended, RunResult.ofOutcome, Except.map] at completed
  | ok reviewed =>
      rw [ran] at seen
      exact Except.exists_of_mapM seen.symm

/-- What a run finds over an entry alone is what becomes of the entry. -/
theorem Covers.own_eq (steady : outside.Steady)
    (covers : Covers reviewer outside repository number owner session build linters)
    {entry : Json} {value : Option (List FileReview)}
    (single : alone outside session build linters entry = .ok value)
    : reviewer.own outside repository number owner session entry = contributed value := by
  have each : ∀ other ∈ [entry], alone outside session build linters other = .ok value :=
    List.forall_mem_singleton.mpr single
  obtain ⟨harvest, ended, -, -, gathers⟩ := covers.completes steady each
  rw [own, Run.reviews, ended]
  simpa [gathered] using (Prod.mk.inj gathers).1

/-- An entry that is skipped by itself is skipped, and another contributes. -/
theorem skips_or_contributes_alone (steady : outside.Steady)
    (chosen : ∀ state, ((reviewer.linters outside.host build).on state).1 = .ok linters)
    (named : Assoc.get? "filename" fields = some (.str filename)) {value : Option (List FileReview)}
    (single : alone outside session build linters (.obj fields) = .ok value)
    : value = none ∧ Skips outside build linters fields filename
      ∨ ∃ reviews,
          value = some reviews
          ∧ Contributes reviewer outside build linters fields filename reviews := by
  unfold alone at single
  cases made : (reviewEntry outside build linters (.obj fields)).on session with
  | mk result last =>
      rw [made] at single
      cases result with
      | error failure => cases single
      | ok reviewed =>
          cases single
          rcases skips_or_contributes steady chosen named made with ⟨rfl, skips⟩ | ⟨reviews, rfl, contributes⟩
          · exact Or.inl ⟨rfl, skips⟩
          · exact Or.inr ⟨_, rfl, contributes⟩

-----------------------------------------------------------------------------------------
-- Separate entries
-----------------------------------------------------------------------------------------

/-- (harvest.Joins own commit entries) says that a harvest at a commit joins what each of these entries
contributes, in order. The files that are linted are those of the entries that contribute.
-/
structure Harvest.Joins (harvest : Harvest) (own : Json → List FileReview) (commit : String)
    (entries : List Json)
    : Prop where
  head : harvest.head = commit
  reviews : harvest.reviews.map FileReview.untimed = entries.flatMap own
  filesChanged : harvest.filesChanged = entries.length
  filesLinted : harvest.filesLinted = entries.countP fun entry => !(own entry).isEmpty

/-- A run over entries that are each reviewed by themselves joins what they contribute. -/
theorem Covers.joins (steady : outside.Steady)
    (covers : Covers reviewer outside repository number owner session build linters)
    {entries : List Json} {value : Json → Option (List FileReview)}
    (each : ∀ entry ∈ entries, alone outside session build linters entry = .ok (value entry))
    (counted : ∀ entry ∈ entries, (value entry).isSome = !(contributed (value entry)).isEmpty)
    : ∃ harvest,
        (reviewer.runOver outside repository number owner session entries).result = .completed harvest
        ∧ harvest.Joins (reviewer.own outside repository number owner session) build.commit entries := by
  obtain ⟨harvest, ended, head, filesChanged, gathers⟩ := covers.completes steady each
  obtain ⟨reviews, filesLinted⟩ := Prod.mk.inj gathers
  have owned := fun entry member => covers.own_eq steady (each entry member)
  refine ⟨harvest, ended, head, ?_, filesChanged, ?_⟩
  · rw [reviews, List.flatMap_map]
    exact List.flatMap_congr fun entry member => (owned entry member).symm
  · rw [filesLinted, List.countP_map]
    refine List.countP_congr fun entry member => ?_
    rw [owned entry member, ← counted entry member]
    rfl

/-- Entries in another order give the same reviews in another order. -/
theorem Harvest.Joins.reordered {own : Json → List FileReview} {commit : String} {entries others : List Json}
    {harvest other : Harvest} (joins : harvest.Joins own commit entries)
    (joined : other.Joins own commit others) (perm : others.Perm entries)
    : other.head = harvest.head
      ∧ other.filesChanged = harvest.filesChanged
      ∧ other.filesLinted = harvest.filesLinted
      ∧ (other.reviews.map FileReview.untimed).Perm (harvest.reviews.map FileReview.untimed) := by
  refine ⟨joined.head.trans joins.head.symm, ?_, ?_, ?_⟩
  · rw [joined.filesChanged, joins.filesChanged, perm.length_eq]
  · rw [joined.filesLinted, joins.filesLinted, perm.countP_eq]
  · rw [joined.reviews, joins.reviews]
    exact perm.flatMap_right own

/-- Without an entry that does not contribute there are the same reviews. -/
theorem Harvest.Joins.shortened {own : Json → List FileReview} {commit : String} {entry : Json}
    {before after : List Json} {harvest other : Harvest}
    (joins : harvest.Joins own commit (before ++ entry :: after))
    (joined : other.Joins own commit (before ++ after)) (skipped : own entry = [])
    : other.head = harvest.head
      ∧ other.filesChanged + 1 = harvest.filesChanged
      ∧ other.filesLinted = harvest.filesLinted
      ∧ other.reviews.map FileReview.untimed = harvest.reviews.map FileReview.untimed := by
  refine ⟨joined.head.trans joins.head.symm, ?_, ?_, ?_⟩
  · rw [joined.filesChanged, joins.filesChanged]
    simp [Nat.add_assoc]
  · rw [joined.filesLinted, joins.filesLinted]
    simp [List.countP_append, skipped]
  · rw [joined.reviews, joins.reviews]
    simp [skipped]

/-- The linters of a registry under the switches for a build. -/
def lintersUnder (reviewer : Reviewer) (switches : Switches) (build : Build) : List Linter :=
  Linter.forBuild reviewer.registry reviewer.engine (some reviewer.pointer) switches build

/-- (Separates reviewer outside repository number owner session entries build switches) says that a run over
entries treats each by itself: it is skipped, or it contributes its own reviews. A run over any of them
joins these. In another order they give the same reviews in another order, and without one that is
skipped they give the same reviews.
-/
structure Separates (reviewer : Reviewer) (outside : Outside σ) (repository number : Json) (owner : Owner)
    (session : Session σ) (entries : List Json) (build : Build) (switches : Switches)
    : Prop where
  switched : reviewer.Switched outside build switches
  each : ∀ fields filename,
    .obj fields ∈ entries → Assoc.get? "filename" fields = some (.str filename) →
      Skips outside build (reviewer.lintersUnder switches build) fields filename
        ∧ reviewer.own outside repository number owner session (.obj fields) = []
      ∨ Contributes reviewer outside build (reviewer.lintersUnder switches build) fields filename
          (reviewer.own outside repository number owner session (.obj fields))
  joined : ∀ others, others ⊆ entries →
    ∃ harvest,
      (reviewer.runOver outside repository number owner session others).result = .completed harvest
      ∧ harvest.Joins (reviewer.own outside repository number owner session) build.commit others
  reordered : ∀ others harvest,
    others.Perm entries →
    (reviewer.runOver outside repository number owner session entries).result = .completed harvest →
      ∃ other,
        (reviewer.runOver outside repository number owner session others).result = .completed other
        ∧ other.head = harvest.head
        ∧ other.filesChanged = harvest.filesChanged
        ∧ other.filesLinted = harvest.filesLinted
        ∧ (other.reviews.map FileReview.untimed).Perm (harvest.reviews.map FileReview.untimed)
  shortened : ∀ before fields filename after harvest,
    entries = before ++ .obj fields :: after →
    Assoc.get? "filename" fields = some (.str filename) →
    Skips outside build (reviewer.lintersUnder switches build) fields filename →
    (reviewer.runOver outside repository number owner session entries).result = .completed harvest →
      ∃ other,
        (reviewer.runOver outside repository number owner session (before ++ after)).result
          = .completed other
        ∧ other.head = harvest.head
        ∧ other.filesChanged + 1 = harvest.filesChanged
        ∧ other.filesLinted = harvest.filesLinted
        ∧ other.reviews.map FileReview.untimed = harvest.reviews.map FileReview.untimed

/-- A run over a pull request that is completed in a steady outside treats each of its entries by itself. -/
theorem separates_of_completed {reviewer : Reviewer} {outside : Outside σ} {repository number : Json}
    {owner : Owner} {session : Session σ} {entries : List Json} (steady : outside.Steady)
    (named : ∀ entry ∈ entries,
      ∃ fields filename, entry = .obj fields ∧ Assoc.get? "filename" fields = some (.str filename))
    (completed : (reviewer.runOver outside repository number owner session entries).status = "completed")
    : ∃ build switches,
        Separates reviewer outside repository number owner session entries build switches := by
  rcases runOver_cases reviewer outside repository number owner session with
    ⟨failure, fails⟩ | ⟨build, linters, reached, _, chosen, covers⟩
  · rw [Run.status, fails entries] at completed
    simp at completed
  obtain ⟨switches, _, loaded, made⟩ := Attempt.on_bind_eq_ok_iff.mp chosen
  obtain rfl : reviewer.lintersUnder switches build = linters := Except.ok.inj (Prod.mk.inj made).1
  -- The switches that this run loads are those that every run loads, since it only consults the outside.
  have switched : reviewer.Switched outside build switches := by
    intro state
    have consults := Switches.consults_load outside build.repository (.str build.commit) reviewer.pointer
    exact (consults.steady steady state reached).trans (congrArg Prod.fst loaded)
  have linters := linters_of_switched switched
  have settled := covers.alone_of_completed steady completed
  let value := fun entry => (alone outside session build (reviewer.lintersUnder switches build)
    entry).toOption.getD none
  have each : ∀ entry ∈ entries,
      alone outside session build (reviewer.lintersUnder switches build) entry = .ok (value entry) := by
    intro entry member
    obtain ⟨found, single⟩ := settled entry member
    simp only [value, single]
    rfl
  -- A contributing entry has a review, so that the entries not skipped are those with reviews.
  have sorted : ∀ entry ∈ entries, (value entry).isSome = !(contributed (value entry)).isEmpty := by
    intro entry member
    obtain ⟨fields, filename, rfl, name⟩ := named entry member
    rcases skips_or_contributes_alone steady linters name (each _ member) with
      ⟨none, -⟩ | ⟨reviews, some, contributes⟩
    · rw [none]
      rfl
    · rw [some]
      simpa [contributed] using contributes.ne_nil
  have joined : ∀ others, others ⊆ entries →
      ∃ harvest,
        (reviewer.runOver outside repository number owner session others).result = .completed harvest
        ∧ harvest.Joins (reviewer.own outside repository number owner session) build.commit others :=
    fun others among => covers.joins steady (fun entry member => each entry (among member))
      fun entry member => sorted entry (among member)
  have parted : ∀ fields filename,
      .obj fields ∈ entries → Assoc.get? "filename" fields = some (.str filename) →
        Skips outside build (reviewer.lintersUnder switches build) fields filename
          ∧ reviewer.own outside repository number owner session (.obj fields) = []
        ∨ Contributes reviewer outside build (reviewer.lintersUnder switches build) fields filename
            (reviewer.own outside repository number owner session (.obj fields)) := by
    intro fields filename member name
    rw [covers.own_eq steady (each _ member)]
    rcases skips_or_contributes_alone steady linters name (each _ member) with
      ⟨none, skips⟩ | ⟨reviews, some, contributes⟩
    · exact Or.inl ⟨skips, by rw [none, contributed, Option.getD_none]⟩
    · refine Or.inr ?_
      rwa [some, contributed, Option.getD_some]
  refine ⟨build, switches, switched, parted, joined, ?_, ?_⟩
  · intro others harvest perm ended
    obtain ⟨_, same, joins⟩ := joined entries (List.Subset.refl entries)
    obtain rfl := RunResult.completed.inj (ended.symm.trans same)
    obtain ⟨other, reached, joined⟩ := joined others perm.subset
    exact ⟨other, reached, joins.reordered joined perm⟩
  · rintro before fields filename after harvest rfl name skips ended
    obtain ⟨_, same, joins⟩ := joined _ (List.Subset.refl _)
    obtain rfl := RunResult.completed.inj (ended.symm.trans same)
    obtain ⟨other, reached, joined⟩ := joined (before ++ after) (by simp)
    refine ⟨other, reached, joins.shortened joined ?_⟩
    rcases parted fields filename (by simp) name with ⟨-, nothing⟩ | contributes
    · exact nothing
    · exact absurd contributes (skips.not_contributes session.outside)

/-- A host with two files that are texts and one that is not. -/
def mixedHost : Host Unit where
  pullRequest _ _ := pure (.obj [("head", .obj [("sha", .str "abc")])])
  changedFiles _ _ := pure (.arr [])
  branchHead _ := throw .endless
  fetchFile _ _ path :=
    if path.same (.str "a.coffee") then pure (some (.str "x"))
    else if path.same (.str "b.coffee") then pure (some (.str "y"))
    else if path.same (.str "c.coffee") then throw (.bytes ⟨0, 1, 255, .startByte⟩)
    else pure none

/-- An engine that says something about line 1 of each of them. -/
def mixedOutside : Outside Unit where
  host := mixedHost
  runEngine _ := pure (.finished (.str "\x7b\"a\":[\x7b\"line\":1,\"reason\":\"m\"\x7d]\x7d") (.int 2) (.str ""))
  now := pure 0

/-- Entries of a pull request: one is removed, one is wanted by no linter, one is not there, one is no text
and two are reviewed.
-/
def mixedEntries : List Json := [
  .obj [("filename", .str "b.coffee"), ("patch", .str "@@ -0,0 +1 @@\n+y")],
  .obj [("filename", .str "a.coffee"), ("status", .str "removed")],
  .obj [("filename", .str "notes.txt")],
  .obj [("filename", .str "c.coffee")],
  .obj [("filename", .str "d.coffee")],
  .obj [("filename", .str "a.coffee"), ("patch", .str "@@ -0,0 +1 @@\n+x")]]

/-- The run over these entries. -/
def mixedRun : Run :=
  plainReviewer.runOver mixedOutside (.str "o/r") (.int 1) ⟨"o", false, .null⟩ ⟨(), .empty⟩ mixedEntries

/-- The run is completed with the two reviews and treats each entry by itself. -/
theorem separates_mixedEntries
    : mixedRun.status = "completed"
      ∧ mixedRun.reviews.map (·.filename.display) = ["b.coffee", "a.coffee"]
      ∧ ∃ build switches,
          Separates plainReviewer mixedOutside (.str "o/r") (.int 1) ⟨"o", false, .null⟩ ⟨(), .empty⟩
            mixedEntries build switches := by
  have seen : mixedRun.status = "completed"
      ∧ mixedRun.reviews.map (·.filename.display) = ["b.coffee", "a.coffee"] := by
    decide +kernel
  have steady : mixedOutside.Steady :=
    ⟨fun _ _ _ => rfl, fun _ _ _ _ _ => rfl, fun _ _ _ => rfl⟩
  have named : ∀ entry ∈ mixedEntries,
      ∃ fields filename, entry = .obj fields ∧ Assoc.get? "filename" fields = some (.str filename) := by
    simp [mixedEntries, Assoc.get?]
  exact ⟨seen.1, seen.2, separates_of_completed steady named seen.1⟩

end Reviewer

end PatchReview
