import PatchReview.Hosting.Client
import PatchReview.Proofs.Attempt
import PatchReview.Proofs.Json.Access

/-! What a client makes of what comes back from a host. A client promises a reply or one of its own
failures, which tells the status of the reply. It keeps the promise for lost requests and for replies
whose limits and errors it can read, and for no others.
-/

namespace PatchReview.Hosting

variable {σ : Type}

-----------------------------------------------------------------------------------------
-- Promises
-----------------------------------------------------------------------------------------

/-- (Promised brought outcome) says what a client promises to make of what comes back: a reply below the
statuses of errors is handed on, the status for too many requests gives the instant to wait for, every
other status of an error gives a failure with this status, and a lost request gives one without.
-/
inductive Promised : Except Loss Reply → Except Failure Reply → Prop where
  | returned {reply} (fine : reply.status < 400) : Promised (.ok reply) (.ok reply)
  | limited {reply reset} (exhausted : reply.status = 429)
    : Promised (.ok reply) (.error (.rateLimit reset))
  | refused {reply message answer} (failed : 400 ≤ reply.status) (other : reply.status ≠ 429)
    : Promised (.ok reply) (.error (.host message (some reply.status) answer))
  | lost {text message answer}
    : Promised (.error (.connection text)) (.error (.host message none answer))

/-- The fields that a body says: none if it is empty, and otherwise those of the object that it spells. -/
def Reply.Says (reply : Reply) (fields : Json.Fields) : Prop :=
  reply.body = "" ∧ fields = [] ∨ Json.parse reply.body = .ok (.obj fields)

/-- (reply.Sound later) says that a client can read a reply when its clock shows `later`: the headers about
its limits, where there are such, give a number and an instant, the status is one of the web, and the
body of an error says something.
-/
structure Reply.Sound (reply : Reply) (later : Int) : Prop where
  counted : ∀ header,
    reply.header? "X-RateLimit-Remaining" = some header → ∃ n, Allowance.numberOf header = .ok n
  dated : ∀ header,
    reply.header? "X-RateLimit-Reset" = some header → ∃ reset, Allowance.instantOf header = .ok reset
  renewed : reply.status = 429 → reply.header? "X-RateLimit-Reset" = none →
    ∃ reset, Calendar.Instant.ofSeconds (later + 3600) = .ok reset
  status : reply.status < 600
  body : 400 ≤ reply.status → reply.status ≠ 429 → ∃ fields, reply.Says fields

-----------------------------------------------------------------------------------------
-- Reading a reply
-----------------------------------------------------------------------------------------

/-- The limits in a reply are noted when each header about them can be read, by cases on which of them
there are.
-/
theorem Allowance.update_eq_ok_iff {allowance : Allowance} {reply : Reply}
    : (allowance.update reply).1 = .ok ()
      ↔ (∀ header, reply.header? "X-RateLimit-Remaining" = some header → ∃ n, numberOf header = .ok n)
        ∧ ∀ header, reply.header? "X-RateLimit-Reset" = some header →
            ∃ reset, instantOf header = .ok reset := by
  unfold update
  cases counted : reply.header? "X-RateLimit-Remaining" with
  | none =>
      cases dated : reply.header? "X-RateLimit-Reset" with
      | none => simp
      | some reset => cases read : instantOf reset <;> simp [read]
  | some count =>
      cases number : numberOf count with
      | error failure => simp [number, Except.map]
      | ok n =>
          cases dated : reply.header? "X-RateLimit-Reset" with
          | none => simp [number, Except.map]
          | some reset => cases read : instantOf reset <;> simp [number, read, Except.map]

/-- A failure of the host: it refused the request, or allows none before an instant. -/
def OfHost : Failure → Prop
  | .host .. | .rateLimit _ => True
  | _ => False

/-- What a header gives no number for is no failure of the host. -/
theorem Allowance.not_ofHost_of_numberOf {header : Json} {failure : Failure}
    (failed : numberOf header = .error failure)
    : ¬ OfHost failure := by
  unfold numberOf at failed
  split at failed
  · next text =>
      cases read : Integer.ofText text <;> rw [read] at failed <;> cases failed
      exact id
  · split at failed <;> cases failed
    exact id

/-- What a header names no instant for is no failure of the host. -/
theorem Allowance.not_ofHost_of_instantOf {header : Json} {failure : Failure}
    (failed : instantOf header = .error failure)
    : ¬ OfHost failure := by
  rcases Except.bind_eq_error_iff.mp failed with unread | ⟨seconds, -, beyond⟩
  · exact not_ofHost_of_numberOf unread
  · cases read : Calendar.Instant.ofSeconds seconds <;> rw [read] at beyond <;> cases beyond
    exact id

/-- Limits that are not noted are no failure of the host, by cases on the headers about them. -/
theorem Allowance.not_ofHost_of_update {allowance : Allowance} {reply : Reply} {failure : Failure}
    (failed : (allowance.update reply).1 = .error failure)
    : ¬ OfHost failure := by
  unfold update at failed
  dsimp only at failed
  split at failed
  · next unread =>
      obtain rfl := Except.error.inj failed
      split at unread
      · cases unread
      · next header _ =>
          cases number : numberOf header <;> rw [number] at unread <;> cases unread
          exact not_ofHost_of_numberOf number
  · split at failed
    · cases failed
    · split at failed
      · next unread =>
          obtain rfl := Except.error.inj failed
          exact not_ofHost_of_instantOf unread
      · cases failed

namespace Client

/-- What the body of an error reply says is told in a failure with the status of the reply. -/
theorem errorOf_of_says {reply : Reply} {fields : Json.Fields} (told : reply.Says fields)
    : ∃ message, errorOf reply = .ok (.host message (some reply.status) (.obj fields)) := by
  unfold errorOf
  rcases told with ⟨empty, rfl⟩ | spelled
  · have silent : reply.body.isEmpty = true := by simp [empty]
    rw [if_pos silent]
    exact ⟨_, rfl⟩
  · have read : reply.json = .ok (.obj fields) := Except.mapError_eq_ok_iff.mpr spelled
    have speaks : ¬ reply.body.isEmpty = true := by
      intro silent
      rw [String.isEmpty_iff.mp silent] at spelled
      cases spelled
    rw [if_neg speaks, read]
    exact ⟨_, rfl⟩

/-- A failure that is told for an error reply is what its body says. -/
theorem says_of_errorOf {reply : Reply} {failure : Failure} (made : errorOf reply = .ok failure)
    : ∃ fields, reply.Says fields := by
  unfold errorOf at made
  split at made
  · next silent => exact ⟨[], Or.inl ⟨String.isEmpty_iff.mp silent, rfl⟩⟩
  · obtain ⟨answer, read, made⟩ := Except.bind_eq_ok_iff.mp made
    obtain ⟨fields, known, -⟩ := Except.bind_eq_ok_iff.mp made
    obtain rfl := Json.fieldsFor_eq_ok_iff.mp known
    exact ⟨fields, Or.inr (Except.mapError_eq_ok_iff.mp read)⟩

/-- What is wrong with the body of an error reply is no failure of the host. -/
theorem not_ofHost_of_errorOf {reply : Reply} {failure : Failure} (failed : errorOf reply = .error failure)
    : ¬ OfHost failure := by
  unfold errorOf at failed
  split at failed
  · cases failed
  · rcases Except.bind_eq_error_iff.mp failed with unread | ⟨answer, -, unknown⟩
    · cases read : Json.parse reply.body with
      | ok value =>
          rw [Reply.json, read] at unread
          cases unread
      | error fault =>
          rw [Reply.json, read] at unread
          cases fault <;> cases unread <;> exact id
    · rcases Except.bind_eq_error_iff.mp unknown with misused | ⟨_, -, told⟩
      · cases answer <;> cases misused <;> exact id
      · cases told

-----------------------------------------------------------------------------------------
-- What is promised is kept
-----------------------------------------------------------------------------------------

/-- (settled allowance brought later) is what a client makes of what comes back. -/
def settled (allowance : Allowance) (brought : Except Loss Reply) (later : Int) : Except Failure Reply :=
  match brought with
  | .error (.connection text) => .error (.host ("Request failed: " ++ text) none .null)
  | .error (.reply failure) => .error failure
  | .ok reply => (allowance.update reply).1 >>= fun _ => accept reply later

theorem ofHost_of_promised {brought : Except Loss Reply} {failure : Failure}
    (promised : Promised brought (.error failure))
    : OfHost failure := by
  cases promised <;> trivial

/-- A reply with noted limits is accepted as promised when it is sound, by cases on its status. -/
theorem promised_accept_iff {allowance : Allowance} {reply : Reply} {later : Int}
    (noted : (allowance.update reply).1 = .ok ())
    : Promised (.ok reply) (accept reply later) ↔ reply.Sound later := by
  obtain ⟨counted, dated⟩ := Allowance.update_eq_ok_iff.mp noted
  unfold accept
  by_cases limited : reply.status = 429
  · -- The body is not read here, whatever it says.
    rw [if_pos limited]
    unfold resetOf
    cases header : reply.header? "X-RateLimit-Reset" with
    | some value =>
        obtain ⟨reset, read⟩ := dated value header
        simp only [read]
        refine ⟨fun _ => ?_, fun _ => .limited limited⟩
        exact ⟨counted, dated, by simp [header], by omega, fun _ other => absurd limited other⟩
    | none =>
        cases read : Calendar.Instant.ofSeconds (later + 3600) with
        | ok reset =>
            refine ⟨fun _ => ?_, fun _ => .limited limited⟩
            exact ⟨counted, dated, fun _ _ => ⟨reset, read⟩, by omega,
              fun _ other => absurd limited other⟩
        | error fault =>
            constructor
            · exact fun promised => (ofHost_of_promised promised).elim
            · intro sound
              obtain ⟨reset, given⟩ := sound.renewed limited header
              rw [read] at given
              cases given
  · rw [if_neg limited]
    have unlimited : reply.status = 429 → reply.header? "X-RateLimit-Reset" = none →
        ∃ reset, Calendar.Instant.ofSeconds (later + 3600) = .ok reset :=
      fun same => absurd same limited
    by_cases fine : reply.isOk = true
    · -- A status from 600 up counts as fine and the reply is handed on, which nobody promised.
      simp only [fine, Bool.not_true, Bool.false_eq_true, if_false]
      have either : reply.status < 400 ∨ 600 ≤ reply.status := by simpa [Reply.isOk] using fine
      constructor
      · rintro ⟨below⟩
        exact ⟨counted, dated, unlimited, by omega, fun failed => by omega⟩
      · exact fun sound => .returned (either.resolve_right (by have := sound.status; omega))
    · have both : 400 ≤ reply.status ∧ reply.status < 600 := by simpa [Reply.isOk] using fine
      simp only [fine, Bool.not_false, if_true]
      cases made : errorOf reply with
      | ok failure =>
          obtain ⟨fields, told⟩ := says_of_errorOf made
          obtain ⟨message, same⟩ := errorOf_of_says told
          obtain rfl := Except.ok.inj (made.symm.trans same)
          refine ⟨fun _ => ?_, fun _ => .refused both.1 limited⟩
          exact ⟨counted, dated, unlimited, both.2, fun _ _ => ⟨fields, told⟩⟩
      | error failure =>
          constructor
          · exact fun promised => (not_ofHost_of_errorOf made (ofHost_of_promised promised)).elim
          · intro sound
            obtain ⟨fields, told⟩ := sound.body both.1 limited
            obtain ⟨message, same⟩ := errorOf_of_says told
            rw [made] at same
            cases same

/-- A client makes of a reply what it promised when the reply is sound, by cases on its limits. -/
theorem promised_settled_ok_iff {allowance : Allowance} {reply : Reply} {later : Int}
    : Promised (.ok reply) (settled allowance (.ok reply) later) ↔ reply.Sound later := by
  rw [settled]
  cases noted : (allowance.update reply).1 with
  | ok _ => exact promised_accept_iff noted
  | error failure =>
      constructor
      · exact fun promised => (Allowance.not_ofHost_of_update noted (ofHost_of_promised promised)).elim
      · intro sound
        rw [Allowance.update_eq_ok_iff.mpr ⟨sound.counted, sound.dated⟩] at noted
        cases noted

/-- A client makes of what comes back what it promised when the request was lost or the reply is sound. -/
theorem promised_settled_iff {allowance : Allowance} {brought : Except Loss Reply} {later : Int}
    : Promised brought (settled allowance brought later)
      ↔ (∃ text, brought = .error (.connection text))
        ∨ ∃ reply, brought = .ok reply ∧ reply.Sound later := by
  rcases brought with (text | failure) | reply
  · exact ⟨fun _ => Or.inl ⟨text, rfl⟩, fun _ => .lost⟩
  · constructor
    · rintro ⟨⟩
    · rintro (⟨_, same⟩ | ⟨_, same, -⟩) <;> cases same
  · simpa using promised_settled_ok_iff

-----------------------------------------------------------------------------------------
-- Requests
-----------------------------------------------------------------------------------------

/-- The request that a client sends for a part of the host's interface. -/
def requestFor (client : Client) (endpoint : String) (params : List (String × Json)) : Request :=
  ⟨"GET", client.baseUrl ++ "/" ++ dropSlashesLeft endpoint, params, client.timeout⟩

/-- (client.Exchange transport endpoint params connection brought later) says that a request goes out, since
there are requests left when the clock is read, what comes back for it, and what the clock shows then.
-/
structure Exchange (client : Client) (transport : Transport σ) (endpoint : String)
    (params : List (String × Json)) (connection : Connection σ) (brought : Except Loss Reply)
    (later : Int)
    : Prop where
  allowed : connection.allowance.waitFor? (transport.now.run connection.wire).1 = none
  sent : ∃ after,
    (transport.send (client.requestFor endpoint params)).run (transport.now.run connection.wire).2
      = (brought, after)
    ∧ (transport.now.run after).1 = later

variable {client : Client} {transport : Transport σ} {connection : Connection σ}
  {brought : Except Loss Reply} {later : Int}

theorem run_onWire {α : Type} (step : StateM σ α) (connection : Connection σ)
    : (Connection.onWire step).run connection
      = ((step.run connection.wire).1, ⟨connection.allowance, (step.run connection.wire).2⟩) :=
  rfl

/-- A request that goes out ends with what the client makes of what comes back. -/
theorem on_request {endpoint : String} {params : List (String × Json)}
    (exchange : client.Exchange transport endpoint params connection brought later)
    : ((client.request transport endpoint params).on connection).1
      = settled connection.allowance brought later := by
  obtain ⟨allowed, after, sent, shown⟩ := exchange
  unfold request
  rw [Attempt.on_ofState_bind, Attempt.on_bind, Attempt.on_get]
  simp only [run_onWire, allowed]
  rw [Attempt.on_ofState_bind, run_onWire]
  dsimp only
  rw [← requestFor, sent]
  rcases brought with (text | failure) | reply
  · rfl
  · rfl
  · rw [Attempt.on_bind, Attempt.on_get]
    dsimp only [settled]
    cases noted : (connection.allowance.update reply).1 with
    | error failure => rfl
    | ok _ =>
        rw [← shown]
        rfl

/-- The part of the host's interface where a file of a repository is. -/
def contentsEndpoint (repository : Json) (path : String) : String :=
  "/repos/" ++ repository.display ++ "/contents/" ++ dropSlashesLeft path

/-- What is answered about a file, by cases on how the request for it ends. -/
theorem on_fetchFile {repository ref : Json} {path : String}
    : ((client.fetchFile transport repository ref (.str path)).on connection).1
      = match ((client.request transport (contentsEndpoint repository path) [("ref", ref)]).on
            connection).1 with
        | .error failure => if isNotFound failure then .ok none else .error failure
        | .ok reply => reply.json >>= contentOf := by
  unfold fetchFile
  rw [Attempt.on_bind, Attempt.on_ofExcept]
  dsimp only [Json.textFor]
  rw [Attempt.on_ofState_bind, Attempt.run_outcome, ← contentsEndpoint]
  cases ((client.request transport (contentsEndpoint repository path) [("ref", ref)]).on
      connection).1 with
  | ok reply => rfl
  | error failure =>
      dsimp only
      split <;> rfl

/-- Only the host says that something is not there. -/
theorem isNotFound_iff {failure : Failure}
    : isNotFound failure = true ↔ ∃ message answer, failure = .host message (some 404) answer := by
  constructor
  · intro notFound
    unfold isNotFound at notFound
    split at notFound
    · exact ⟨_, _, rfl⟩
    · cases notFound
  · rintro ⟨_, _, rfl⟩
    rfl

/-- An error reply is not accepted. -/
theorem settled_ne_ok {allowance : Allowance} {reply accepted : Reply} (failed : reply.isOk = false)
    : settled allowance (.ok reply) later ≠ .ok accepted := by
  intro made
  obtain ⟨_, -, made⟩ := Except.bind_eq_ok_iff.mp made
  unfold accept at made
  simp only [failed, Bool.not_false, if_true] at made
  split at made
  · obtain ⟨_, -, made⟩ := Except.bind_eq_ok_iff.mp made
    cases made
  · obtain ⟨_, -, made⟩ := Except.bind_eq_ok_iff.mp made
    cases made

/-- A file that the host says is not there is taken to be absent exactly when this is told as promised. -/
theorem fetchFile_eq_none_iff {repository ref : Json} {path : String} {reply : Reply}
    (exchange : client.Exchange transport (contentsEndpoint repository path) [("ref", ref)] connection
      (.ok reply) later)
    (absent : reply.status = 404)
    : ((client.fetchFile transport repository ref (.str path)).on connection).1 = .ok none
      ↔ Promised (.ok reply) (settled connection.allowance (.ok reply) later) := by
  have refused : reply.isOk = false := by simp [Reply.isOk, absent]
  rw [on_fetchFile, on_request exchange]
  cases made : settled connection.allowance (.ok reply) later with
  | ok accepted => exact absurd made (settled_ne_ok refused)
  | error failure =>
      constructor
      · intro answered
        have notFound : isNotFound failure = true := by
          dsimp only at answered
          split at answered
          · assumption
          · cases answered
        obtain ⟨message, answer, rfl⟩ := isNotFound_iff.mp notFound
        exact absent ▸ .refused (by omega) (by omega)
      · intro promised
        cases promised with
        | limited exhausted => omega
        | refused => simp [isNotFound, absent]

/-- A request that goes out ends as promised exactly when it was lost or the reply to it is sound. A file
that the host says is not there is taken to be absent exactly when the reply that says so is sound.
-/
theorem promised_iff_sound
    : (∀ endpoint params brought,
        client.Exchange transport endpoint params connection brought later →
          (Promised brought ((client.request transport endpoint params).on connection).1
            ↔ (∃ text, brought = .error (.connection text))
              ∨ ∃ reply, brought = .ok reply ∧ reply.Sound later))
      ∧ ∀ repository ref path reply,
          client.Exchange transport (contentsEndpoint repository path) [("ref", ref)] connection
            (.ok reply) later →
          reply.status = 404 →
            (((client.fetchFile transport repository ref (.str path)).on connection).1 = .ok none
              ↔ reply.Sound later) := by
  constructor
  · intro endpoint params brought exchange
    rw [on_request exchange]
    exact promised_settled_iff
  · intro repository ref path reply exchange absent
    rw [fetchFile_eq_none_iff exchange absent]
    exact promised_settled_ok_iff

/-- A client of the usual host. -/
def plainClient : Client := ⟨.text "t", "https://api.github.com", .whole 30, .whole 3⟩

/-- A transport that brings the same reply for every request, while the clock stands still. -/
def bringing (reply : Reply) : Transport Unit where
  send _ := pure (.ok reply)
  now := pure 0

/-- A reply that says in an object that a file is not there. -/
def toldNotFound : Reply :=
  ⟨404, [], "\x7b\"message\": \"Not Found\"\x7d"⟩

/-- What an object says about a file that is not there is told as promised, and the file is taken to be
absent.
-/
theorem promised_toldNotFound
    : plainClient.Exchange (bringing toldNotFound) (contentsEndpoint (.str "o/r") "a.coffee")
          [("ref", .str "abc")] (.start ()) (.ok toldNotFound) 0
        ∧ toldNotFound.status = 404
        ∧ Promised (.ok toldNotFound)
            ((plainClient.request (bringing toldNotFound) (contentsEndpoint (.str "o/r") "a.coffee")
              [("ref", .str "abc")]).on (.start ())).1
        ∧ ((plainClient.fetchFile (bringing toldNotFound) (.str "o/r") (.str "abc")
            (.str "a.coffee")).on (.start ())).1 = .ok none := by
  have exchange : plainClient.Exchange (bringing toldNotFound)
      (contentsEndpoint (.str "o/r") "a.coffee") [("ref", .str "abc")] (.start ())
      (.ok toldNotFound) 0 :=
    ⟨rfl, (), rfl, rfl⟩
  have told : ∃ fields, toldNotFound.Says fields := by
    have read : (errorOf toldNotFound).toOption.isSome = true := by decide +kernel
    cases made : errorOf toldNotFound with
    | ok failure => exact says_of_errorOf made
    | error failure =>
        rw [made] at read
        cases read
  have sound : toldNotFound.Sound 0 := by
    refine ⟨?_, ?_, ?_, by decide, fun _ _ => told⟩
    · rintro _ ⟨⟩
    · rintro _ ⟨⟩
    · exact fun same => absurd same (by decide)
  exact ⟨exchange, rfl,
    (promised_iff_sound.1 _ _ _ exchange).mpr (Or.inr ⟨_, rfl, sound⟩),
    (promised_iff_sound.2 _ _ _ _ exchange rfl).mpr sound⟩

/-- A page that says that a file is not there. -/
def notFoundPage : Reply := ⟨404, [], "<html>Not Found</html>"⟩

/-- For a page that says that a file is not there a client fails otherwise than promised. -/
theorem not_promised_notFoundPage
    : plainClient.Exchange (bringing notFoundPage) (contentsEndpoint (.str "o/r") "a.coffee")
          [("ref", .str "abc")] (.start ()) (.ok notFoundPage) 0
        ∧ ¬ Promised (.ok notFoundPage)
            ((plainClient.request (bringing notFoundPage) (contentsEndpoint (.str "o/r") "a.coffee")
              [("ref", .str "abc")]).on (.start ())).1
        ∧ ((plainClient.fetchFile (bringing notFoundPage) (.str "o/r") (.str "abc")
            (.str "a.coffee")).on (.start ())).1 ≠ .ok none := by
  have exchange : plainClient.Exchange (bringing notFoundPage)
      (contentsEndpoint (.str "o/r") "a.coffee") [("ref", .str "abc")] (.start ())
      (.ok notFoundPage) 0 :=
    ⟨rfl, (), rfl, rfl⟩
  have unspelled : (Json.parse notFoundPage.body).toOption.isNone = true := by decide +kernel
  have unpromised : ¬ Promised (.ok notFoundPage) (settled .initial (.ok notFoundPage) 0) := by
    intro promised
    obtain ⟨fields, told⟩ := (promised_settled_ok_iff.mp promised).body (by decide) (by decide)
    rcases told with ⟨empty, -⟩ | spelled
    · exact absurd empty (by decide)
    · rw [spelled] at unspelled
      cases unspelled
  refine ⟨exchange, ?_, ?_⟩
  · rw [on_request exchange]
    exact unpromised
  · rw [ne_eq, fetchFile_eq_none_iff exchange rfl]
    exact unpromised

end Client

end PatchReview.Hosting
