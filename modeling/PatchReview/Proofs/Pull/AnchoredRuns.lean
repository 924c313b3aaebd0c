import PatchReview.Proofs.Linter.Reports
import PatchReview.Proofs.Pull.Calls
import PatchReview.Proofs.Pull.Loading
import PatchReview.Proofs.Pull.Plans
import PatchReview.Proofs.Review.Anchoring

/-! Every review of a run that succeeds stands on the patch of a listed file: the host gave the content
that the engine read, and what the engine reported about it is what the violations say.
-/

namespace PatchReview

open PatchReview.Patch PatchReview.Text

variable {σ : Type}

-----------------------------------------------------------------------------------------
-- What a review is made from
-----------------------------------------------------------------------------------------

/-- The patch of an entry. One that says nothing, or is not there, is empty. -/
def GivesPatch (fields : Json.Fields) (patch : String) : Prop :=
  Assoc.get? "patch" fields = some (.str patch)
  ∨ patch = "" ∧ ∀ value, Assoc.get? "patch" fields = some value → value.isTruthy = false

/-- (Lists outside start repository number build entry) says that the host lists the entry among the
files of the pull request, whose head is the commit of the build.
-/
structure Lists (outside : Outside σ) (start : σ) (repository number : Json) (build : Build)
    (entry : Json)
    : Prop where
  repository_eq : build.repository = repository
  commit : ∃ fields head,
    outside.Answers start (outside.host.pullRequest repository number) (.obj fields)
    ∧ Assoc.get? "head" fields = some (.obj head)
    ∧ Assoc.get? "sha" head = some (.str build.commit)
  listed : ∃ entries,
    outside.Answers start (outside.host.changedFiles repository number) (.arr entries)
    ∧ entry ∈ entries

/-- (Loads outside start build entry filename content patch) says that an entry has this name and this
patch, and that the host has this content under the name at the commit of the build.
-/
def Loads (outside : Outside σ) (start : σ) (build : Build) (entry : Json) (filename : String)
    (content : Json) (patch : String)
    : Prop :=
  ∃ fields,
    entry = .obj fields
    ∧ Assoc.get? "filename" fields = some (.str filename)
    ∧ GivesPatch fields patch
    ∧ outside.Answers start
        (outside.host.fetchFile build.repository (.str build.commit) (.str filename)) (some content)

/-- (Prepares filename content source) says what is linted of a file: for a template, which its name tells, the
text without its tags, and for any other file the content as it is.
-/
structure Prepares (filename : String) (content source : Json) : Prop where
  template : ".erb".toList <:+ filename.toList →
    ∃ text, content = .str text ∧ source = .str (Template.stripTags text)
  other : ¬ ".erb".toList <:+ filename.toList → source = content

/-- (Engine.Hands engine source config invocation) says that a run has the engine's command and its seconds, reads
the source and is told the configuration.
-/
structure Engine.Hands (engine : Engine) (source : Json) (config : Json.Fields) (invocation : Invocation Datum)
    : Prop where
  command : invocation.command
    = [engine.executable, .text "--stdin", .text "--reporter", .text "raw", .text "-f"]
  input : invocation.input = source
  timeout : invocation.timeout = engine.timeout
  configText : invocation.configText = (Json.obj config).print

/-- (Lints engine outside start filename content reports) says that the engine, run under some
configuration on what is linted of the content, delivers a report whose usable entries report this.
-/
def Lints (engine : Engine) (outside : Outside σ) (start : σ) (filename : String) (content : Json)
    (reports : List (Int × Json))
    : Prop :=
  ∃ source config invocation output code complaint report,
    Prepares filename content source
    ∧ engine.Hands source config invocation
    ∧ outside.Answers start (Attempt.ofState (outside.runEngine invocation))
        (.finished output code complaint)
    ∧ Report.Delivers output report
    ∧ Report.Reads engine.withContexts (Report.entries report) reports

variable {outside : Outside σ} {start state : σ} {build : Build}

/-- What is listed later on is listed. -/
theorem Lists.earlier {repository number entry : Json} (leads : outside.Leads start state)
    (lists : Lists outside state repository number build entry)
    : Lists outside start repository number build entry := by
  obtain ⟨repository_eq, ⟨fields, head, told, inFields, inHead⟩, entries, answers, member⟩ := lists
  exact ⟨repository_eq, ⟨fields, head, told.earlier leads, inFields, inHead⟩, entries,
    answers.earlier leads, member⟩

/-- What is loaded later on is loaded. -/
theorem Loads.earlier {entry content : Json} {filename patch : String}
    (leads : outside.Leads start state)
    (loads : Loads outside state build entry filename content patch)
    : Loads outside start build entry filename content patch := by
  obtain ⟨fields, entry_eq, named, given, answers⟩ := loads
  exact ⟨fields, entry_eq, named, given, answers.earlier leads⟩

/-- What is linted later on is linted. -/
theorem Lints.earlier {engine : Engine} {filename : String} {content : Json}
    {reports : List (Int × Json)} (leads : outside.Leads start state)
    (lints : Lints engine outside state filename content reports)
    : Lints engine outside start filename content reports := by
  obtain ⟨source, config, invocation, output, code, complaint, report, prepared, hands, answers, delivers,
    reads⟩ := lints
  exact ⟨source, config, invocation, output, code, complaint, report, prepared, hands,
    answers.earlier leads, delivers, reads⟩

-----------------------------------------------------------------------------------------
-- One linter on one file
-----------------------------------------------------------------------------------------

/-- What a linter reads for a file is what is to be linted of it, by cases on the file's name. -/
theorem prepares_of_prepare {filename : String} {content source : Json}
    (prepared : Template.prepare content filename = .ok source)
    : Prepares filename content source := by
  unfold Template.prepare at prepared
  split at prepared
  · next template =>
      have ends : ".erb".toList <:+ filename.toList := endsWith_iff.mp template
      refine ⟨fun _ => ?_, fun other => absurd ends other⟩
      cases content with
      | str text => exact ⟨text, rfl, (Except.ok.inj prepared).symm⟩
      | null | bool | int | float | arr | obj => cases prepared
  · next other =>
      have plain : ¬ ".erb".toList <:+ filename.toList := fun ends => other (endsWith_iff.mpr ends)
      exact ⟨fun ends => absurd ends plain, fun _ => (Except.ok.inj prepared).symm⟩

/-- A run on a source under an object hands both over. -/
theorem Engine.hands_invocation (engine : Engine) (source : Json) (config : Json.Fields)
    : engine.Hands source config (engine.invocation source (.obj config)) where
  command := rfl
  input := rfl
  timeout := rfl
  configText := by rw [Engine.invocation, configOf_obj]

/-- What a linter finds in a file is what its engine reports about the file. -/
theorem Linter.lints_of_findings {linter : Linter} {file : ChangedFile} {found : List Finding} {last : σ}
    (made : (linter.findings outside file).on start = (.ok found, last))
    : ∃ reports,
        Lints linter.engine outside start file.filename file.content reports
        ∧ found.map (fun finding => (finding.line.value, finding.messages))
          = reports.map fun report => (report.1, [report.2]) := by
  obtain ⟨source, prepared, made⟩ := Attempt.on_ofExcept_bind_eq_ok_iff.mp made
  obtain ⟨config, ready, configured, made⟩ := Attempt.on_bind_eq_ok_iff.mp made
  obtain ⟨text, -, made⟩ := Attempt.on_ofExcept_bind_eq_ok_iff.mp made
  rw [Attempt.on_ofState_bind] at made
  obtain ⟨output, code, complaint, report, reports, ended, delivers, reads, same⟩ :=
    Engine.findings_eq_ok (Prod.mk.inj made).1
  have leads : outside.Leads start ready := by
    have path := (Linter.consults_config outside linter).follows start
    rwa [configured] at path
  exact ⟨reports,
    ⟨source, config, _, output, code, complaint, report, prepares_of_prepare prepared,
      linter.engine.hands_invocation source config, ⟨ready, leads, congrArg Except.ok ended⟩, delivers, reads⟩,
    same⟩

/-- A review of a file has gathered what the linter's engine reports about the file. -/
theorem Linter.gathers_of_review {linter : Linter} {file : ChangedFile} {review : FileReview}
    {session after : Session σ}
    (made : (linter.review outside file).on session = (.ok review, after))
    : review.filename = .str file.filename
      ∧ ∃ found reports,
          Lints linter.engine outside session.outside file.filename file.content reports
          ∧ found.map (fun finding => (finding.line.value, finding.messages))
            = reports.map (fun report => (report.1, [report.2]))
          ∧ FileReview.Gathers file.positionFor (.str file.filename) found review.violations := by
  obtain ⟨found, linted, ran, made⟩ := Attempt.on_bind_eq_ok_iff.mp made
  obtain ⟨gathered, recorded, made⟩ := Attempt.on_ofExcept_bind_eq_ok_iff.mp made
  rw [Attempt.on_ofState_bind] at made
  obtain ⟨_, stored, -, made⟩ := Attempt.on_bind_eq_ok_iff.mp made
  obtain ⟨named, gathers⟩ :=
    FileReview.gathers_addFindings (Except.mapError_eq_ok_iff.mp recorded)
  obtain ⟨reports, lints, same⟩ :=
    Linter.lints_of_findings (Prod.ext (Prod.mk.inj ran).1 rfl)
  cases made
  exact ⟨named, found, reports, lints, same, gathers⟩

-----------------------------------------------------------------------------------------
-- The files of a run
-----------------------------------------------------------------------------------------

/-- A file made from an entry has its name and the chunks of its patch. -/
theorem ChangedFile.gives_of_ofEntry {entry content : Json} {file : ChangedFile}
    (made : ChangedFile.ofEntry entry content = .ok file)
    : ∃ fields patch,
        entry = .obj fields
        ∧ Assoc.get? "filename" fields = some (.str file.filename)
        ∧ file.content = content
        ∧ GivesPatch fields patch
        ∧ Patch.parse patch = .ok file.chunks := by
  obtain ⟨fields, rfl, found, content_eq, cut, -⟩ := ChangedFile.parts_of_ofEntry made
  have nothing : Json.isTruthy .null = false := rfl
  unfold ChangedFile.chunksOf at cut
  split at cut
  · next silent =>
      have read : Patch.parse "" = .ok file.chunks := by
        rw [← Except.ok.inj cut]
        rfl
      refine ⟨fields, "", rfl, found, content_eq, Or.inr ⟨rfl, ?_⟩, read⟩
      intro value given
      simpa [Json.getD_of_some given] using silent
  · next given =>
      cases patch : Assoc.get? "patch" fields with
      | none => simp [Json.getD_of_none patch, nothing] at given
      | some value =>
          rw [Json.getD_of_some patch] at cut
          cases value with
          | str text =>
              exact ⟨fields, text, rfl, found, content_eq, Or.inl patch, Except.mapError_eq_ok_iff.mp cut⟩
          | null | bool | int | float | arr | obj => cases cut

/-- A file that is loaded is made from its entry and from the content that the host has. -/
theorem Reviewer.ofEntry_of_loadFile {linters : List Linter} {entry : Json} {file : ChangedFile}
    {last : σ}
    (loaded : (Reviewer.loadFile outside.host build linters entry).on start = (.ok (some file), last))
    : ∃ filename content,
        entry.entry "filename" = .ok (.str filename)
        ∧ outside.Answers start
            (outside.host.fetchFile build.repository (.str build.commit) (.str filename))
            (some content)
        ∧ ChangedFile.ofEntry entry content = .ok file := by
  obtain ⟨name, named, loaded⟩ := Attempt.on_ofExcept_bind_eq_ok_iff.mp loaded
  obtain ⟨fields, -, loaded⟩ := Attempt.on_ofExcept_bind_eq_ok_iff.mp loaded
  dsimp only at loaded
  split at loaded
  · cases loaded
  · obtain ⟨wanted, -, loaded⟩ := Attempt.on_ofExcept_bind_eq_ok_iff.mp loaded
    split at loaded
    · cases loaded
    · rw [Attempt.on_ofState_bind, Attempt.run_outcome] at loaded
      split at loaded
      · cases loaded
      · cases loaded
      · cases loaded
      · next content answered =>
          obtain ⟨made, produced, file_eq⟩ := Attempt.on_map_eq_ok_iff.mp loaded
          cases file_eq
          have ofEntry := (Prod.mk.inj produced).1
          obtain ⟨fields, rfl, found, -⟩ := ChangedFile.parts_of_ofEntry ofEntry
          obtain ⟨_, same, given⟩ := Json.entry_eq_ok_iff.mp named
          obtain rfl := Json.obj.inj same
          obtain rfl := Option.some.inj (found.symm.trans given)
          exact ⟨_, content, named, ⟨start, .refl, answered⟩, ofEntry⟩

/-- Every review that linters make of a file is made by one of them, at a state to which calls lead. -/
theorem Linter.exists_of_mem_reviewAll {linters : List Linter} {file : ChangedFile}
    {reviews : List FileReview} {session after : Session σ}
    (made : (Linter.reviewAll outside linters file).on session = (.ok reviews, after))
    {review : FileReview} (member : review ∈ reviews)
    : ∃ linter ∈ linters, ∃ ready last,
        outside.LeadsWithin session ready
        ∧ (linter.review outside file).on ready = (.ok review, last) := by
  have calls : ∀ linter ∈ Linter.called linters file,
      Attempt.Follows outside.LeadsWithin (linter.review outside file) :=
    fun linter _ => Linter.follows_review outside linter file
  obtain ⟨linter, chosen, ready, last, leads, reviewed⟩ :=
    Attempt.exists_of_mem_mapM calls (Linter.reviewAll_of_ok made) member
  exact ⟨linter, Linter.mem_of_mem_called chosen, ready, last, leads, reviewed⟩

/-- (Produces outside build linters session entries review) says that a linter makes the review of a file
that is loaded from one of the entries, both at states to which calls lead from the session.
-/
def Produces (outside : Outside σ) (build : Build) (linters : List Linter) (session : Session σ)
    (entries : List Json) (review : FileReview)
    : Prop :=
  ∃ entry ∈ entries, ∃ file, ∃ linter ∈ linters, ∃ before loaded ready last,
    outside.Leads session.outside before
    ∧ (Reviewer.loadFile outside.host build linters entry).on before = (.ok (some file), loaded)
    ∧ outside.LeadsWithin session ready
    ∧ (linter.review outside file).on ready = (.ok review, last)

/-- What the entries after the first one produce from a state that is reached is produced. -/
theorem Produces.later {linters : List Linter} {session reached : Session σ} {entry : Json}
    {rest : List Json} {review : FileReview} (leads : outside.LeadsWithin session reached)
    (produces : Produces outside build linters reached rest review)
    : Produces outside build linters session (entry :: rest) review := by
  obtain ⟨other, among, file, linter, chosen, before, loaded, ready, last, toBefore, given, toReady,
    reviewed⟩ := produces
  exact ⟨other, List.mem_cons_of_mem entry among, file, linter, chosen, before, loaded, ready, last,
    leads.trans toBefore, given, leads.trans toReady, reviewed⟩

/-- Every review of the entries of a pull request is produced from them, by induction on the entries. -/
theorem Reviewer.produces_of_mem_reviewEntries {linters : List Linter} {entries : List Json}
    {reviews : List FileReview} {count : Nat} {session after : Session σ}
    (made : (Reviewer.reviewEntries outside build linters entries).on session
      = (.ok (reviews, count), after))
    {review : FileReview} (member : review ∈ reviews)
    : Produces outside build linters session entries review := by
  induction entries generalizing session reviews count with
  | nil =>
      cases made
      cases member
  | cons entry rest ih =>
      obtain ⟨found, middle, loaded, made⟩ := Attempt.on_bind_eq_ok_iff.mp made
      have toMiddle : outside.LeadsWithin session middle := by
        have path := (Reviewer.consults_loadFile outside build linters entry).follows.outside session
        rwa [loaded] at path
      cases found with
      | none => exact Produces.later toMiddle (ih made member)
      | some file =>
          obtain ⟨first, reached, reviewed, made⟩ := Attempt.on_bind_eq_ok_iff.mp made
          obtain ⟨⟨others, number⟩, ended, remaining, made⟩ := Attempt.on_bind_eq_ok_iff.mp made
          cases made
          have toReached : outside.LeadsWithin session reached := by
            have path := Linter.follows_reviewAll outside linters file middle
            rw [reviewed] at path
            exact toMiddle.trans path
          rcases List.mem_append.mp member with here | below
          · obtain ⟨linter, chosen, ready, last, toReady, made⟩ :=
              Linter.exists_of_mem_reviewAll reviewed here
            exact ⟨entry, List.mem_cons_self, file, linter, chosen, session.outside, _, ready, last,
              .refl, Prod.ext (Prod.mk.inj loaded).1 rfl, toMiddle.trans toReady, made⟩
          · exact Produces.later toReached (ih remaining below)

-----------------------------------------------------------------------------------------
-- Whole runs
-----------------------------------------------------------------------------------------

/-- The linters for a build all run the engine of their reviewer. -/
theorem Reviewer.engine_of_mem_linters {reviewer : Reviewer} {linters : List Linter} {last : σ}
    (made : (reviewer.linters outside.host build).on start = (.ok linters, last))
    {linter : Linter} (member : linter ∈ linters)
    : linter.engine = reviewer.engine := by
  obtain ⟨switches, reached, -, made⟩ := Attempt.on_bind_eq_ok_iff.mp made
  cases made
  obtain ⟨kind, -, rfl⟩ := List.mem_map.mp member
  rfl

/-- A run that succeeds reads the head and the files of the pull request from the host, and its reviews
are produced from the files.
-/
theorem Reviewer.lists_of_harvest {reviewer : Reviewer} {repository number : Json} {owner : Owner}
    {session after : Session σ} {harvest : Harvest}
    (made : (reviewer.harvest outside repository number owner).on session = (.ok harvest, after))
    {review : FileReview} (member : review ∈ harvest.reviews)
    : ∃ build linters entries reached,
        (∀ linter ∈ linters, linter.engine = reviewer.engine)
        ∧ outside.LeadsWithin session reached
        ∧ Produces outside build linters reached entries review
        ∧ ∀ entry ∈ entries, (∃ fields, entry = .obj fields) →
            Lists outside session.outside repository number build entry := by
  obtain ⟨about, told, asked, made⟩ := Attempt.on_bind_eq_ok_iff.mp made
  obtain ⟨commit, found, made⟩ := Attempt.on_ofExcept_bind_eq_ok_iff.mp made
  obtain ⟨build, built, made⟩ := Attempt.on_ofExcept_bind_eq_ok_iff.mp made
  obtain ⟨linters, switched, chosen, made⟩ := Attempt.on_bind_eq_ok_iff.mp made
  obtain ⟨files, listed, answered, made⟩ := Attempt.on_bind_eq_ok_iff.mp made
  obtain ⟨entries, among, made⟩ := Attempt.on_ofExcept_bind_eq_ok_iff.mp made
  obtain ⟨⟨reviews, count⟩, last, reviewed, made⟩ := Attempt.on_bind_eq_ok_iff.mp made
  cases made
  have toTold : outside.LeadsWithin session told := by
    have path : outside.Leads session.outside _ := .single (.pullRequest repository number _)
    rwa [← (Prod.mk.inj asked).2]
  have toSwitched : outside.LeadsWithin session switched := by
    have path := (Reviewer.consults_linters outside reviewer build).follows.outside told
    rw [chosen] at path
    exact toTold.trans path
  have toListed : outside.LeadsWithin session listed := by
    have path : outside.Leads switched.outside _ := .single (.changedFiles repository number _)
    rw [← (Prod.mk.inj answered).2]
    exact toSwitched.trans path
  refine ⟨build, linters, entries, listed, ?_, toListed,
    Reviewer.produces_of_mem_reviewEntries reviewed member, ?_⟩
  · have readOut : (reviewer.linters outside.host build).on told.outside = (.ok linters, _) :=
      Prod.ext (Prod.mk.inj chosen).1 rfl
    exact fun linter inLinters => Reviewer.engine_of_mem_linters readOut inLinters
  · rintro _ inEntries ⟨fields, rfl⟩
    obtain ⟨repository_eq, rfl⟩ := Build.eq_of_ofAnswers built
    obtain ⟨part, headed, signed⟩ := Except.bind_eq_ok_iff.mp found
    obtain ⟨answer, rfl, inAnswer⟩ := Json.entry_eq_ok_iff.mp headed
    obtain ⟨head, rfl, inHead⟩ := Json.entry_eq_ok_iff.mp signed
    have files_eq : files = .arr entries := Json.eq_arr_of_items among inEntries
    subst files_eq
    exact {
      repository_eq
      commit := ⟨answer, head, ⟨session.outside, .refl, (Prod.mk.inj asked).1⟩, inAnswer, inHead⟩
      listed := ⟨entries, ⟨switched.outside, toSwitched, (Prod.mk.inj answered).1⟩, inEntries⟩ }

/-- A completed run has the reviews of a harvest that starts once the clock was read. -/
theorem Reviewer.harvest_of_completed {reviewer : Reviewer} {repository number : Json} {owner : Owner}
    {session after : Session σ} {run : Run}
    (ran : (reviewer.reviewPullRequest outside repository number owner).run session = (run, after))
    (completed : run.status = "completed")
    : ∃ opened harvest closed,
        outside.LeadsWithin session opened
        ∧ (reviewer.harvest outside repository number owner).on opened = (.ok harvest, closed)
        ∧ run.reviews = harvest.reviews := by
  have path : outside.LeadsWithin session (outside.timed session) := follows_time outside session
  cases ended : (reviewer.harvest outside repository number owner).on (outside.timed session) with
  | mk result closed =>
      rw [Reviewer.run_reviewPullRequest ended] at ran
      obtain rfl := (Prod.mk.inj ran).1
      cases result with
      | error failure => simp [Run.status, RunResult.ofOutcome] at completed
      | ok harvest => exact ⟨_, harvest, closed, path, ended, rfl⟩

/-- Every review of a run over a pull request that is completed is about a listed file. Its violations are
what the engine reports about the lines of the file's content, each on the last row of the file's patch
that adds the line.
-/
theorem Reviewer.anchored_of_completed {reviewer : Reviewer} {outside : Outside σ}
    {repository number : Json} {owner : Owner} {session after : Session σ} {run : Run}
    (ran : (reviewer.reviewPullRequest outside repository number owner).run session = (run, after))
    (completed : run.status = "completed") {review : FileReview} (member : review ∈ run.reviews)
    : ∃ build entry filename content patch reports,
        Lists outside session.outside repository number build entry
        ∧ review.filename = .str filename
        ∧ Loads outside session.outside build entry filename content patch
        ∧ Lints reviewer.engine outside session.outside filename content reports
        ∧ ((∀ line ∈ splitLines patch.toList, ¬ SaysBinary line) →
            Anchored (splitLines patch.toList) reports review.violations) := by
  obtain ⟨opened, harvest, closed, toOpened, made, reviews_eq⟩ :=
    Reviewer.harvest_of_completed ran completed
  rw [reviews_eq] at member
  obtain ⟨build, linters, entries, reached, engines, toReached, produces, lists⟩ :=
    Reviewer.lists_of_harvest made member
  obtain ⟨entry, among, file, linter, chosen, before, _, ready, _, toBefore, loaded, toReady,
    reviewed⟩ := produces
  obtain ⟨filename, content, named, answers, ofEntry⟩ := Reviewer.ofEntry_of_loadFile loaded
  obtain ⟨fields, patch, rfl, found, rfl, given, read⟩ := ChangedFile.gives_of_ofEntry ofEntry
  obtain ⟨_, same, inFields⟩ := Json.entry_eq_ok_iff.mp named
  obtain rfl := Json.obj.inj same
  obtain rfl : file.filename = filename := Json.str.inj (Option.some.inj (found.symm.trans inFields))
  obtain ⟨named, findings, reports, lints, told, gathers⟩ := Linter.gathers_of_review reviewed
  rw [engines linter chosen] at lints
  have loads : Loads outside before build (.obj fields) file.filename file.content patch :=
    ⟨fields, rfl, found, given, answers⟩
  refine ⟨build, .obj fields, file.filename, file.content, patch, reports, ?_, named, ?_, ?_, ?_⟩
  · exact (lists (.obj fields) among ⟨fields, rfl⟩).earlier toOpened
  · exact loads.earlier ((toOpened.trans toReached).trans toBefore)
  · exact lints.earlier ((toOpened.trans toReached).trans toReady)
  · exact fun plain => anchored_of_gathers plain read told gathers

/-- A host with one pull request, whose patch adds line 2 twice. -/
def twiceAddedHost : Host Unit where
  pullRequest _ _ := pure (.obj [("head", .obj [("sha", .str "abc")])])
  changedFiles _ _ := pure (.arr [.obj [("filename", .str "a.coffee"),
    ("patch", .str "@@ -1 +1,2 @@\n x\n+y\n@@ -9 +2 @@\n-q\n+y")]])
  branchHead _ := throw .endless
  fetchFile _ _ path := pure (if path.same (.str "a.coffee") then some (.str "x\ny") else none)

/-- An engine that says something about line 2 three times, about line 1 and about no line. -/
def twiceAddedOutside : Outside Unit where
  host := twiceAddedHost
  runEngine _ := pure (.finished
    (.str ("\x7b\"a\":[\x7b\"line\":2,\"reason\":\"m\"\x7d,"
      ++ "\x7b\"lineNumber\":1,\"message\":\"n\"\x7d,7,"
      ++ "\x7b\"line\":2,\"reason\":\"m\"\x7d,\x7b\"line\":2,\"reason\":\"k\"\x7d]\x7d"))
    (.int 2) (.str ""))
  now := pure 0

/-- The run over this pull request, and the session after it. -/
def twiceAddedEnd : Run × Session Unit :=
  (plainReviewer.reviewPullRequest twiceAddedOutside (.str "o/r") (.int 1)
    ⟨"o", false, .null⟩).run ⟨(), .empty⟩

/-- The run is completed with a violation on line 2, which stands on the later of the rows that add it. -/
theorem Reviewer.anchored_twiceAddedEnd
    : twiceAddedEnd.1.status = "completed"
      ∧ ∃ review ∈ twiceAddedEnd.1.reviews,
          review.violations.map (fun violation =>
              (violation.line.value, violation.position, violation.messages.map Json.shown))
            = [(2, .number 5, ["'m'", "'k'"])]
          ∧ ∃ build entry filename content patch reports,
              Lists twiceAddedOutside () (.str "o/r") (.int 1) build entry
              ∧ review.filename = .str filename
              ∧ Loads twiceAddedOutside () build entry filename content patch
              ∧ Lints plainReviewer.engine twiceAddedOutside () filename content reports
              ∧ ((∀ line ∈ splitLines patch.toList, ¬ SaysBinary line) →
                  Anchored (splitLines patch.toList) reports review.violations) := by
  have seen : twiceAddedEnd.1.status = "completed"
      ∧ twiceAddedEnd.1.reviews.map (fun review => review.violations.map fun violation =>
          (violation.line.value, violation.position, violation.messages.map Json.shown))
        = [[(2, .number 5, ["'m'", "'k'"])]] := by
    decide +kernel
  obtain ⟨completed, told⟩ := seen
  obtain ⟨review, reviews_eq, shown⟩ := List.map_eq_singleton_iff.mp told
  have member : review ∈ twiceAddedEnd.1.reviews := by simp [reviews_eq]
  have ran : (plainReviewer.reviewPullRequest twiceAddedOutside (.str "o/r") (.int 1)
      ⟨"o", false, .null⟩).run ⟨(), .empty⟩ = (twiceAddedEnd.1, twiceAddedEnd.2) :=
    (Prod.eta twiceAddedEnd).symm
  exact ⟨completed, review, member, shown, Reviewer.anchored_of_completed ran completed member⟩

end PatchReview
