import PatchReview.Proofs.Hosting.Contents
import PatchReview.Proofs.Hosting.Listings
import PatchReview.Proofs.Pull.Independence
import PatchReview.Proofs.Pull.Inquiries

/-! Files whose content is no text. A run over a pull request passes over them and finds in all other files what
it would have found anyway, as long as what it asks for these is answered as it would have been.
-/

namespace PatchReview.Reviewer

open PatchReview.Hosting

variable {σ τ : Type}

-----------------------------------------------------------------------------------------
-- One entry more
-----------------------------------------------------------------------------------------

/-- (harvest.PassesOver other) says that one run found what another did, over one entry more. -/
structure Harvest.PassesOver (harvest other : Harvest) : Prop where
  head : harvest.head = other.head
  filesChanged : harvest.filesChanged = other.filesChanged + 1
  filesLinted : harvest.filesLinted = other.filesLinted
  reviews : harvest.reviews.map FileReview.untimed = other.reviews.map FileReview.untimed

/-- An entry that has nothing to review is passed over, and the entries behind it are reviewed alike. -/
theorem Plan.passesOver (build : Build) (linters : List Linter) {before after : List Json} {entry : Json}
    {first second others : List (Option (List FileReview))}
    (alike : second.map (Option.map (List.map FileReview.untimed))
      = others.map (Option.map (List.map FileReview.untimed)))
    : (Plan.harvest ⟨build, linters, before ++ entry :: after⟩ (gathered (first ++ none :: second))).PassesOver
        (Plan.harvest ⟨build, linters, before ++ after⟩ (gathered (first ++ others))) := by
  have same : gathered ((first ++ none :: second).map (Option.map (List.map FileReview.untimed)))
      = gathered ((first ++ others).map (Option.map (List.map FileReview.untimed))) := by
    simp only [List.map_append, List.map_cons, alike]
    simp [gathered, contributed]
  rw [gathered_untimed, gathered_untimed] at same
  obtain ⟨reviews, linted⟩ := Prod.mk.inj same
  exact ⟨rfl, by simp [Plan.harvest, Nat.add_assoc], linted, reviews⟩

/-- An entry whose content is no text has nothing to review, by cases on whether it is there and wanted. -/
theorem on_loadFile_of_unreadable {host : Host σ} {build : Build} {fields : Json.Fields} {filename : String}
    (named : Assoc.get? "filename" fields = some (.str filename)) {here reached : σ} {fault : Utf8.Fault}
    (fetched : (host.fetchFile build.repository (.str build.commit) (.str filename)).on here
      = (.error (.bytes fault), reached))
    {linters : List Linter} (spelled : ∀ linter ∈ linters, linter.kind.IsSpelled)
    : ∃ there,
        (loadFile host build linters (.obj fields)).on here = (.ok none, there)
        ∧ (there = here ∨ there = reached) := by
  rcases gated_cases fields filename linters with gated | ⟨-, failure, unknown⟩ | ⟨there, asks, -⟩
  · rw [loadFile_of_skipped named gated]
    exact ⟨here, rfl, Or.inl rfl⟩
  · obtain ⟨wanted, known⟩ := exists_anyM_wants? spelled filename
    cases known.symm.trans unknown
  · rw [on_loadFile_of_wanted named there asks, fetched]
    exact ⟨reached, rfl, Or.inr rfl⟩

/-- Such an entry is not reviewed. -/
theorem on_reviewEntry_of_unreadable {outside : Outside σ} {build : Build} {linters : List Linter}
    {fields : Json.Fields} {filename : String} (named : Assoc.get? "filename" fields = some (.str filename))
    (spelled : ∀ linter ∈ linters, linter.kind.IsSpelled)
    {here : Session (σ × List Inquiry)} {reached : σ} {fault : Utf8.Fault}
    (fetched : (outside.host.fetchFile build.repository (.str build.commit) (.str filename)).on here.outside.1
      = (.error (.bytes fault), reached))
    : ∃ there,
        (reviewEntry outside.noting build linters (.obj fields)).on here = (.ok none, there)
        ∧ (there.outside.1 = here.outside.1 ∨ there.outside.1 = reached) := by
  have noted : (outside.noting.host.fetchFile build.repository (.str build.commit) (.str filename)).on
        here.outside
      = (.error (.bytes fault), reached,
          here.outside.2 ++ [.host (.file build.repository (.str build.commit) (.str filename))]) := by
    show (_, _, _) = _
    rw [fetched]
  obtain ⟨there, loaded, unmoved⟩ := on_loadFile_of_unreadable named noted spelled
  refine ⟨⟨there, here.store⟩, ?_, unmoved.imp (congrArg Prod.fst) (congrArg Prod.fst)⟩
  rw [reviewEntry, Attempt.on_bind, Attempt.on_outside, loaded]
  rfl

/-- What entries ask for when they are reviewed decides what is found in them, but for the times: they are reviewed
alike wherever the same is answered.
-/
theorem exists_asked {outside : Outside σ} {build : Build} {linters : List Linter} {entries : List Json}
    {here last : Session (σ × List Inquiry)} {reviewed : List (Option (List FileReview))}
    (made : (entries.mapM (reviewEntry outside.noting build linters)).on here = (.ok reviewed, last))
    : ∃ asked,
        last.outside.2 = here.outside.2 ++ asked
        ∧ ∀ there : Session (σ × List Inquiry),
            outside.answers there.outside.1 asked = outside.answers here.outside.1 asked →
              ∃ again final,
                (entries.mapM (reviewEntry outside.noting build linters)).on there = (.ok again, final)
                ∧ again.map (Option.map (List.map FileReview.untimed))
                  = reviewed.map (Option.map (List.map FileReview.untimed)) := by
  obtain ⟨asked, only⟩ := Outside.LearnsBy.mapM
    (fun entry (_ : entry ∈ entries) => learns_reviewEntry outside build linters entry) here
  refine ⟨asked, ?_, fun there same => ?_⟩
  · have moved := (only here rfl).2
    rw [made] at moved
    exact congrArg Prod.snd moved
  · have seen := (only there same).1
    rw [made] at seen
    obtain ⟨again, ended, alike⟩ := Except.map_eq_ok_iff.mp seen
    exact ⟨again, _, Prod.ext ended rfl, alike⟩

-----------------------------------------------------------------------------------------
-- Runs with and without it
-----------------------------------------------------------------------------------------

section Runs

variable (reviewer : Reviewer) (outside : Outside σ) (repository number : Json) (owner : Owner)
  (session : Session (σ × List Inquiry))

/-- The harvest of a pull request whose host lists these entries, over an outside that notes what it is asked. -/
def harvestOver (entries : List Json) : Except Failure Harvest × Session (σ × List Inquiry) :=
  (reviewer.harvest (outside.noting.listing entries) repository number owner).on session

/-- A harvest of some entries and then others is at some point that of the first ones. An entry that is no text and
comes between them is passed over there, if what the others ask for is answered as it was.
-/
theorem exists_turn {before after : List Json} {other : Harvest} {last : Session (σ × List Inquiry)}
    (spelled : ∀ kind ∈ reviewer.registry, kind.IsSpelled)
    (ended : harvestOver reviewer outside repository number owner session (before ++ after) = (.ok other, last))
    : ∃ earlier here asked,
        harvestOver reviewer outside repository number owner session before = (.ok earlier, here)
        ∧ last.outside.2 = here.outside.2 ++ asked
        ∧ ∀ fields filename fault reached,
            Assoc.get? "filename" fields = some (.str filename) →
            (outside.host.fetchFile repository (.str other.head) (.str filename)).on here.outside.1
              = (.error (.bytes fault), reached) →
            outside.answers reached asked = outside.answers here.outside.1 asked →
              ∃ harvest final,
                harvestOver reviewer outside repository number owner session (before ++ .obj fields :: after)
                  = (.ok harvest, final)
                ∧ harvest.PassesOver other := by
  unfold harvestOver at *
  rcases harvest_listing reviewer outside.noting repository number owner session with
    ⟨failure, fails⟩ | ⟨build, linters, reached, switched, ready, built, chosen, covers⟩
  · cases (congrArg Prod.fst ended).symm.trans (fails (before ++ after))
  have known : ∀ linter ∈ linters, linter.kind.IsSpelled := by
    obtain ⟨switches, _, -, made⟩ := Attempt.on_bind_eq_ok_iff.mp chosen
    obtain rfl := Except.ok.inj (Prod.mk.inj made).1
    exact Linter.spelled_forBuild spelled _ _ _ _
  obtain rfl := repository_of_buildAt built
  -- Whatever is listed, the entries are reviewed from one and the same state.
  have gathers : ∀ {entries harvest state},
      (reviewer.harvest (outside.noting.listing entries) build.repository number owner).on session
          = (.ok harvest, state)
        ↔ ∃ reviewed,
            (entries.mapM (reviewEntry outside.noting build linters)).on ready = (.ok reviewed, state)
            ∧ Plan.harvest ⟨build, linters, entries⟩ (gathered reviewed) = harvest := by
    intro entries harvest state
    rw [covers]
    rcases (entries.mapM (reviewEntry outside.noting build linters)).on ready with ⟨failure | made, reached⟩
    · simp [Except.map]
    · simp [Except.map, and_comm]
  obtain ⟨reviewed, ran, rfl⟩ := gathers.mp ended
  obtain ⟨first, here, others, reachedHere, reachedLast, rfl⟩ := Attempt.on_mapM_append_eq_ok_iff.mp ran
  obtain ⟨asked, noted, alike⟩ := exists_asked reachedLast
  refine ⟨_, here, asked, gathers.mpr ⟨first, reachedHere, rfl⟩, noted, ?_⟩
  intro fields filename fault reached named fetched same
  -- The entry leaves the outside where its file was asked for or, if it was not, where it was.
  obtain ⟨there, passed, unmoved⟩ := on_reviewEntry_of_unreadable named known fetched
  have agree : outside.answers there.outside.1 asked = outside.answers here.outside.1 asked := by
    rcases unmoved with stayed | moved
    · rw [stayed]
    · rw [moved, same]
  obtain ⟨second, final, again, untimed⟩ := alike there agree
  have behind : ((.obj fields :: after).mapM (reviewEntry outside.noting build linters)).on here
      = (.ok (none :: second), final) := by
    rw [List.mapM_cons, Attempt.on_bind_eq_ok_iff]
    exact ⟨none, there, passed, Attempt.on_bind_eq_ok_iff.mpr ⟨second, final, again, rfl⟩⟩
  exact ⟨_, final, gathers.mpr ⟨first ++ none :: second, Attempt.on_mapM_append_eq_ok_iff.mpr
    ⟨first, here, none :: second, reachedHere, behind, rfl⟩, rfl⟩, Plan.passesOver build linters untimed⟩

end Runs

/-- (SkipsUnreadable client transport reviewer outside repository number owner session before after other) says
that a run over a pull request which finds this in the entries before and after skips any entry between them
whose content arrives and is no text: it finds the same, provided that what it asks from there on is answered
as it was.
-/
def SkipsUnreadable (client : Client) (transport : Transport τ) (reviewer : Reviewer)
    (outside : Outside (Connection τ)) (repository number : Json) (owner : Owner)
    (session : Session (Connection τ × List Inquiry)) (before after : List Json) (other : Harvest)
    : Prop :=
  let harvested := harvestOver reviewer outside repository number owner (outside.noting.timed session)
  ∃ earlier here last asked,
    harvested before = (.ok earlier, here)
    ∧ harvested (before ++ after) = (.ok other, last)
    ∧ last.outside.2 = here.outside.2 ++ asked
    ∧ ∀ fields filename reply bytes reached,
        Assoc.get? "filename" fields = some (.str filename) →
        (client.request transport (Client.contentsEndpoint repository filename)
            [("ref", .str other.head)]).on here.outside.1
          = (.ok reply, reached) →
        reply.Holds bytes →
        (∀ text : String, bytes.toByteArray ≠ text.toUTF8) →
        outside.answers reached asked = outside.answers here.outside.1 asked →
          ∃ harvest,
            (reviewer.runOver outside.noting repository number owner session
              (before ++ .obj fields :: after)).result = .completed harvest
            ∧ harvest.PassesOver other

/-- The bytes of a file arrive as the text that they are in UTF-8, and not at all if they are none. An entry with
such a file has nothing to review where the names and endings of the linters are texts, and a run over a pull
request finds in the others what it would have found without it.
-/
theorem arrives_or_is_skipped (client : Client) (transport : Transport τ)
    : (∀ start repository ref path reply reached bytes,
        (client.request transport (Client.contentsEndpoint repository path) [("ref", ref)]).on start
          = (.ok reply, reached) →
        reply.Holds bytes →
          (∀ text : String,
            (client.fetchFile transport repository ref (.str path)).on start
                = (.ok (some (.str text)), reached)
              ↔ bytes.toByteArray = text.toUTF8)
          ∧ ((∀ text : String, bytes.toByteArray ≠ text.toUTF8) →
              ∃ fault,
                (client.fetchFile transport repository ref (.str path)).on start
                  = (.error (.bytes fault), reached)))
      ∧ (∀ start (build : Build) linters fields filename reply reached bytes,
          (∀ linter ∈ linters, linter.kind.IsSpelled) →
          Assoc.get? "filename" fields = some (.str filename) →
          (client.request transport (Client.contentsEndpoint build.repository filename)
              [("ref", .str build.commit)]).on start
            = (.ok reply, reached) →
          reply.Holds bytes →
          (∀ text : String, bytes.toByteArray ≠ text.toUTF8) →
            ∃ last,
              (loadFile (client.host transport) build linters (.obj fields)).on start = (.ok none, last)
              ∧ (last = start ∨ last = reached))
      ∧ ∀ (reviewer : Reviewer) (outside : Outside (Connection τ)) repository number owner session before after
            other,
          (∀ kind ∈ reviewer.registry, kind.IsSpelled) →
          outside.host = client.host transport →
          (reviewer.runOver outside.noting repository number owner session (before ++ after)).result
            = .completed other →
            SkipsUnreadable client transport reviewer outside repository number owner session before after
              other := by
  refine ⟨?_, ?_, ?_⟩
  · intro start repository ref path reply reached bytes asked holds
    exact ⟨Client.fetchFile_eq_ok_iff asked holds, Client.exists_fetchFile_eq_error asked holds⟩
  · intro start build linters fields filename reply reached bytes spelled named asked holds noText
    obtain ⟨fault, fetched⟩ := Client.exists_fetchFile_eq_error asked holds noText
    exact on_loadFile_of_unreadable named fetched spelled
  · intro reviewer outside repository number owner session before after other spelled client's completed
    rw [result_runOver] at completed
    obtain ⟨last, ended⟩ : ∃ last, harvestOver reviewer outside repository number owner
        (outside.noting.timed session) (before ++ after) = (.ok other, last) :=
      ⟨_, Prod.ext (RunResult.ofOutcome_eq_completed_iff.mp completed) rfl⟩
    obtain ⟨earlier, here, asked, turned, noted, skips⟩ :=
      exists_turn reviewer outside repository number owner (outside.noting.timed session) spelled ended
    refine ⟨earlier, here, last, asked, turned, ended, noted, ?_⟩
    intro fields filename reply bytes reached named answered holds noText same
    obtain ⟨fault, fetched⟩ := Client.exists_fetchFile_eq_error answered holds noText
    rw [show client.fetchFile transport = outside.host.fetchFile by rw [client's]; rfl] at fetched
    obtain ⟨harvest, final, made, passes⟩ := skips fields filename fault reached named fetched same
    refine ⟨harvest, ?_, passes⟩
    rw [result_runOver]
    exact RunResult.ofOutcome_eq_completed_iff.mpr (congrArg Prod.fst made)

-----------------------------------------------------------------------------------------
-- A file between others
-----------------------------------------------------------------------------------------

/-- What a host says about a file that is spelled in Base64. -/
def fileReply (headers : List (String × Json)) (spelled : String) : Reply :=
  ⟨200, headers,
    (Json.obj [("type", .str "file"), ("encoding", .str "base64"), ("content", .str spelled)]).print⟩

theorem holds_fileReply {headers : List (String × Json)} {spelled : String} {bytes : List UInt8}
    (spells : Base64.Spells spelled bytes)
    : (fileReply headers spelled).Holds bytes := by
  let fields : Json.Fields := [("type", .str "file"), ("encoding", .str "base64"), ("content", .str spelled)]
  have exact : (Json.obj fields).IsExact := by
    have keys : Assoc.keys fields = ["type", "encoding", "content"] := rfl
    refine .obj (keys ▸ by decide) ?_
    simp [fields, Json.IsExact.str]
  have read : (fileReply headers spelled).json = .ok (.obj fields) := Reply.json_print exact
  exact ⟨fields, spelled, read, Or.inr rfl, rfl, rfl, spells⟩

/-- A transport to a host with a pull request, a file that is no text and one that is. Headers come with the
former.
-/
def filesTransport (headers : List (String × Json)) : Transport Unit where
  send request := pure <|
    match request.params with
    | ("page", _) :: _ => .ok ⟨200, [], "[]"⟩
    | _ =>
        if request.url == "https://api.github.com/repos/o/r/pulls/1" then
          .ok ⟨200, [], (Json.obj [("head", .obj [("sha", .str "abc")])]).print⟩
        else if request.url == "https://api.github.com/repos/o/r/contents/bad.coffee" then
          .ok (fileReply headers "/w==")
        else if request.url == "https://api.github.com/repos/o/r/contents/good.coffee" then
          .ok (fileReply [] "eA\no=")
        else .ok ⟨404, [], ""⟩
  now := pure 0

/-- An outside with this host, whose engine says something about line 1 of every file. -/
def filesOutside (headers : List (String × Json)) : Outside (Connection Unit) where
  host := Client.plainClient.host (filesTransport headers)
  runEngine _ := pure (.finished (.str "\x7b\"a\":[\x7b\"line\":1,\"reason\":\"m\"\x7d]\x7d") (.int 2) (.str ""))
  now := pure 0

/-- The pages that the host lists have nothing on them, by cases on whether it is asked for them. -/
theorem eq_nil_of_page {headers : List (String × Json)} {endpoint : String} {page : Nat}
    {start reached : Connection Unit} {entries : List Json}
    (turned : (Client.plainClient.page (filesTransport headers) endpoint page).on start
      = (.ok entries, reached))
    : entries = [] := by
  let params : List (String × Json) := [("page", .int page), ("per_page", .int Client.pageSize)]
  cases limits : start.allowance.waitFor? ((filesTransport headers).now.run start.wire).1 with
  | some reset =>
      rw [Client.page, Client.ask, Attempt.on_bind, Attempt.on_bind,
        Client.on_request_of_limited limits] at turned
      cases turned
  | none =>
      have sent : ((filesTransport headers).send (Client.plainClient.requestFor endpoint params)).run
            ((filesTransport headers).now.run start.wire).2
          = (.ok ⟨200, [], "[]"⟩, ()) :=
        rfl
      have had := Client.on_page_of_arr (Client.on_request_of_allowed limits sent)
        (rfl : Reply.json ⟨200, [], "[]"⟩ = .ok (.arr []))
      exact (Except.ok.inj (Prod.mk.inj (turned.symm.trans had)).1)

/-- What the host lists is on the first page of its listings. -/
theorem filesOutside_eq (headers : List (String × Json))
    : filesOutside headers
      = { filesOutside headers with
          host := { (filesOutside headers).host with
            changedFiles := fun repository number => do
              return .arr (← Client.plainClient.page (filesTransport headers)
                (Client.filesEndpoint repository number) 1) } } := by
  have paged : ∀ repository number,
      Client.plainClient.changedFiles (filesTransport headers) repository number
        = Client.plainClient.page (filesTransport headers) (Client.filesEndpoint repository number) 1 :=
    fun repository number => Client.changedFiles_eq_page fun start entries reached turned =>
      eq_nil_of_page turned ▸ (by decide : ([] : List Json).length < Client.pageSize)
  have same : (filesOutside headers).host.changedFiles = fun repository number => do
      return .arr (← Client.plainClient.page (filesTransport headers)
        (Client.filesEndpoint repository number) 1) := by
    funext repository number
    rw [← paged]
    rfl
  rw [← same]

/-- What an entry of a pull request says about a file whose line 1 is changed. -/
def fileFields (filename : String) : Json.Fields :=
  [("filename", .str filename), ("patch", .str "@@ -0,0 +1 @@\n+x")]

/-- The session in which nothing was asked yet. -/
def filesSession : Session (Connection Unit × List Inquiry) := ⟨(.start (), []), .empty⟩

/-- The run over files of this host. -/
def filesRun (headers : List (String × Json)) (filenames : List String) : Run :=
  plainReviewer.runOver (filesOutside headers).noting (.str "o/r") (.int 1) ⟨"o", false, .null⟩ filesSession
    (filenames.map fun filename => .obj (fileFields filename))

/-- Bytes that are not those of any text. -/
theorem ne_toUTF8 (text : String) : [0xFF].toByteArray ≠ text.toUTF8 := by
  intro same
  cases (Utf8.decode_eq_ok_iff.mpr same : Utf8.decode [0xFF] = .ok text)

/-- There is nothing to wait for when no file was asked for. -/
theorem waitFor_of_harvestOver {earlier : Harvest} {here : Session (Connection Unit × List Inquiry)}
    (turned : harvestOver plainReviewer (filesOutside []) (.str "o/r") (.int 1) ⟨"o", false, .null⟩
      ((filesOutside []).noting.timed filesSession) [] = (.ok earlier, here))
    : here.outside.1.allowance.waitFor? 0 = none := by
  have free : (harvestOver plainReviewer (filesOutside []) (.str "o/r") (.int 1) ⟨"o", false, .null⟩
      ((filesOutside []).noting.timed filesSession) []).2.outside.1.allowance.waitFor? 0 = none := by
    rw [filesOutside_eq]
    decide +kernel
  rwa [turned] at free

theorem arrives_or_is_skipped_between
    : let client := Client.plainClient
      let transport := filesTransport []
      let build : Build := ⟨.str "o/r", "abc", ⟨"o", false, .null⟩, some 1⟩
      (client.fetchFile transport (.str "o/r") (.str "abc") (.str "good.coffee")).on (.start ())
          = (.ok (some (.str "x\n")), .start ())
        ∧ (∃ fault,
            (client.fetchFile transport (.str "o/r") (.str "abc") (.str "bad.coffee")).on (.start ())
              = (.error (.bytes fault), .start ()))
        ∧ (∃ last,
            (loadFile (client.host transport) build (plainReviewer.lintersUnder .empty build)
                (.obj (fileFields "bad.coffee"))).on (.start ())
              = (.ok none, last))
        ∧ ∃ harvest other,
            (filesRun [] ["bad.coffee", "good.coffee"]).result = .completed harvest
            ∧ (filesRun [] ["good.coffee"]).result = .completed other
            ∧ harvest.PassesOver other := by
  intro client transport build
  have goodHolds : (fileReply [] "eA\no=").Holds [0x78, 0x0A] := holds_fileReply rfl
  have badHolds : (fileReply [] "/w==").Holds [0xFF] := holds_fileReply rfl
  have goodSent : (client.request transport (Client.contentsEndpoint (.str "o/r") "good.coffee")
        [("ref", .str "abc")]).on (.start ())
      = (.ok (fileReply [] "eA\no="), .start ()) := rfl
  have badSent : (client.request transport (Client.contentsEndpoint (.str "o/r") "bad.coffee")
        [("ref", .str "abc")]).on (.start ())
      = (.ok (fileReply [] "/w=="), .start ()) := rfl
  have good := (arrives_or_is_skipped client transport).1 _ _ _ _ _ _ _ goodSent goodHolds
  have bad := (arrives_or_is_skipped client transport).1 _ _ _ _ _ _ _ badSent badHolds
  have spelled : ∀ linter ∈ plainReviewer.lintersUnder .empty build, linter.kind.IsSpelled :=
    Linter.spelled_forBuild Registry.isSpelled_standard _ _ _ _
  have skipped := (arrives_or_is_skipped client transport).2.1 (.start ()) build
    _ (fileFields "bad.coffee") "bad.coffee" _ _ _ spelled rfl badSent badHolds ne_toUTF8
  refine ⟨(good.1 "x\n").mpr (by decide), bad.2 ne_toUTF8,
    skipped.imp fun _ => And.left, ?_⟩
  have completed : (filesRun [] ["good.coffee"]).status = "completed" := by
    rw [filesRun, filesOutside_eq]
    decide +kernel
  obtain ⟨other, ended⟩ := Run.exists_of_status completed
  obtain ⟨earlier, here, last, asked, turned, -, -, skips⟩ :=
    (arrives_or_is_skipped client transport).2.2 plainReviewer (filesOutside []) (.str "o/r") (.int 1)
      ⟨"o", false, .null⟩ filesSession [] [.obj (fileFields "good.coffee")] other Registry.isSpelled_standard rfl
      ended
  have answered : (client.request transport (Client.contentsEndpoint (.str "o/r") "bad.coffee")
        [("ref", .str other.head)]).on here.outside.1
      = (.ok (fileReply [] "/w=="), here.outside.1) :=
    Client.on_request_of_allowed (waitFor_of_harvestOver turned) rfl
  obtain ⟨harvest, ends, passes⟩ :=
    skips (fileFields "bad.coffee") "bad.coffee" _ _ _ rfl answered badHolds ne_toUTF8 rfl
  exact ⟨harvest, other, ends, ended, passes⟩

/-- Headers that leave no request before the year 2100. -/
def exhausting : List (String × Json) :=
  [("X-RateLimit-Remaining", .int 0), ("X-RateLimit-Reset", .int 4102444800)]

/-- A run over a file that is no text is failed when the reply about it leaves no requests for the next file. -/
theorem fails_behind_unreadable
    : let request := Client.plainClient.request (filesTransport exhausting)
        (Client.contentsEndpoint (.str "o/r") "bad.coffee") [("ref", .str "abc")]
      (∃ reply reached,
        request.on (.start ()) = (.ok reply, reached)
        ∧ reply.Holds [0xFF]
        ∧ (∀ text : String, [0xFF].toByteArray ≠ text.toUTF8))
        ∧ (filesRun exhausting ["good.coffee"]).status = "completed"
        ∧ (filesRun exhausting ["bad.coffee", "good.coffee"]).status = "failed" := by
  refine ⟨⟨_, _, rfl, holds_fileReply rfl, ne_toUTF8⟩, ?_⟩
  simp only [filesRun]
  rw [filesOutside_eq]
  decide +kernel

end PatchReview.Reviewer
