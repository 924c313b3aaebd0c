import PatchReview.Host
import PatchReview.Hosting.Exchange
import PatchReview.Settings.Basic

/-!
A client of a repository host's interface. It knows from the last replies how many requests are
left and until when; close to none left it sends nothing before that instant. A reply with an
error status fails; a file that is not there is no failure.
-/

namespace PatchReview.Hosting

/-- What a client is set up with. -/
structure Client where
  token : Datum
  baseUrl : String
  timeout : Datum
  retries : Datum

/-- How many requests are left, and the instant at which they are renewed, where a reply told. -/
structure Allowance where
  remaining : Int
  reset : Option Calendar.Instant

namespace Allowance

/-- What a client starts with. -/
def initial : Allowance := ⟨5000, none⟩

/-- The instant to wait for, when there are hardly any requests left. -/
def waitFor? (allowance : Allowance) (now : Int) : Option Calendar.Instant :=
  if allowance.remaining ≤ 10 then allowance.reset.filter (now < ·.seconds) else none

/-- The whole number that a header gives. -/
def numberOf : Json → Except Failure Int
  | .str text => (Integer.ofText text).mapError .number
  | value =>
      match value.whole? with
      | some n => .ok n
      | none => .error (.misuse (.number value.kind))

/-- The instant that a header names. -/
def instantOf (header : Json) : Except Failure Calendar.Instant := do
  let seconds ← numberOf header
  (Calendar.Instant.ofSeconds seconds).mapError .date

/-- What a reply's headers make of it. The number of requests left is noted even when the instant
makes no sense. -/
def update (allowance : Allowance) (reply : Reply) : Except Failure Unit × Allowance :=
  let afterCount : Except Failure Allowance :=
    match reply.header? "X-RateLimit-Remaining" with
    | none => .ok allowance
    | some header => (numberOf header).map fun n => { allowance with remaining := n }
  match afterCount with
  | .error failure => (.error failure, allowance)
  | .ok counted =>
      match reply.header? "X-RateLimit-Reset" with
      | none => (.ok (), counted)
      | some header =>
          match instantOf header with
          | .error failure => (.error failure, counted)
          | .ok instant => (.ok (), { counted with reset := some instant })

end Allowance

/-- A client's state with that of its transport. -/
structure Connection (σ : Type) where
  allowance : Allowance
  wire : σ

namespace Connection

variable {σ α : Type}

/-- A connection over a transport whose state is given. -/
def start (wire : σ) : Connection σ := ⟨.initial, wire⟩

/-- Works on the transport's state. -/
def onWire (step : StateM σ α) : StateM (Connection σ) α := do
  let (result, wire) := step.run (← get).wire
  modify fun connection => { connection with wire }
  return result

end Connection

namespace Client

variable {σ : Type}

/-- A text without the slashes at its end. -/
def dropSlashesRight (s : String) : String :=
  String.ofList (s.toList.reverse.dropWhile (· == '/')).reverse

/-- A text without the slashes at its start. -/
def dropSlashesLeft (s : String) : String := String.ofList (s.toList.dropWhile (· == '/'))

/-- A client with a token. -/
def ofSettings (settings : HostSettings) : Except Failure Client := do
  if !settings.token.isTruthy then throw (.refused .token)
  match settings.baseUrl with
  | .scalar (.str url) =>
      return ⟨settings.token, dropSlashesRight url, settings.timeout, settings.retries⟩
  | value => throw (.misuse (.operation value.kind "rstrip"))

/-- The fields of a client. -/
def form : Form Json := [
  ("token", none), ("base_url", some (.str "https://api.github.com")),
  ("timeout_seconds", some (.int 30)), ("max_retries", some (.int 3))]

/-- A client given as plain values. -/
def ofFields (given : Json.Fields) : Except Failure Client := do
  let fields ← form.fill given
  let get := fun name => Datum.ofJson (Json.getD fields name .null)
  ofSettings ⟨get "token", get "base_url", get "timeout_seconds", get "max_retries"⟩

/-- Looks at the scheme of the base URL, which has to be one of the web. -/
def checkScheme (client : Client) : Except Failure Unit :=
  let url := (Text.lower client.baseUrl).toList
  if ["https://", "http://"].any fun start => Text.startsWith start.toList url then .ok ()
  else .error (.scheme client.baseUrl)

/-- The headers of every request. -/
def headers (client : Client) : List (String × String) := [
  ("Authorization", "token " ++ client.token.display),
  ("Accept", "application/vnd.github.v3+json"), ("User-Agent", "Lint-Reviewer/1.0")]

/-- The statuses after which a transport tries again. -/
def retryStatuses : List Int := [429, 500, 502, 503, 504]

/-- The failure that an error reply gives. Its body has to be an object, if there is one. -/
def errorOf (reply : Reply) : Except Failure Failure := do
  let answer ← if reply.body.isEmpty then pure (Json.obj []) else reply.json
  let fields ← answer.fieldsFor "get"
  let message := (Json.getD fields "message" (.str "Unknown error")).display
  return .host ("GitHub API error: " ++ toString reply.status ++ " - " ++ message)
    (some reply.status) answer

/-- The instant that a refusal for lack of requests names, an hour from now if it does not. -/
def resetOf (reply : Reply) (now : Int) : Except Failure Calendar.Instant :=
  match reply.header? "X-RateLimit-Reset" with
  | some header => Allowance.instantOf header
  | none => (Calendar.Instant.ofSeconds (now + 3600)).mapError .date

/-- What a reply is taken for, once its allowance is noted. -/
def accept (reply : Reply) (now : Int) : Except Failure Reply := do
  if reply.status = 429 then throw (.rateLimit (← resetOf reply now))
  if !reply.isOk then throw (← errorOf reply)
  return reply

/-- Sends a request for a part of the host's interface. -/
def request (client : Client) (transport : Transport σ) (endpoint : String)
    (params : List (String × Json)) : Attempt (Connection σ) Reply := do
  let now ← Attempt.ofState (Connection.onWire transport.now)
  if let some reset := (← get).allowance.waitFor? now then throw (.rateLimit reset)
  let url := client.baseUrl ++ "/" ++ dropSlashesLeft endpoint
  let request : Request := ⟨"GET", url, params, client.timeout⟩
  match ← Attempt.ofState (Connection.onWire (transport.send request)) with
  | .error (.connection text) => throw (.host ("Request failed: " ++ text) none .null)
  | .error (.reply failure) => throw failure
  | .ok reply =>
      let (noted, allowance) := (← get).allowance.update reply
      modify fun connection => { connection with allowance }
      Attempt.ofExcept noted
      let now ← Attempt.ofState (Connection.onWire transport.now)
      Attempt.ofExcept (accept reply now)

/-- What the host says under an endpoint. -/
def ask (client : Client) (transport : Transport σ) (endpoint : String)
    (params : List (String × Json)) : Attempt (Connection σ) Json := do
  let reply ← client.request transport endpoint params
  Attempt.ofExcept reply.json

/-- What the host says about a pull request. -/
def pullRequest (client : Client) (transport : Transport σ) (repository number : Json)
    : Attempt (Connection σ) Json :=
  client.ask transport ("/repos/" ++ repository.display ++ "/pulls/" ++ number.display) []

/-- How many entries a page of a listing has. -/
def pageSize : Nat := 100

/-- The entries on a page of a listing. An answer that stands for nothing has none. -/
def page (client : Client) (transport : Transport σ) (endpoint : String) (number : Nat)
    : Attempt (Connection σ) (List Json) := do
  let answer ← client.ask transport endpoint
    [("page", .int number), ("per_page", .int pageSize)]
  if !answer.isTruthy then return []
  Attempt.ofExcept answer.items

/-- The entries of a listing from a page on, behind those of the pages before. The listing ends with
the first page that is not full, and one whose pages are all full has no end. -/
def listFrom (client : Client) (transport : Transport σ) (endpoint : String) (number : Nat)
    (before : List Json) (connection : Connection σ)
    : Option (Except Failure (List Json) × Connection σ) :=
  match (client.page transport endpoint number).on connection with
  | (.error failure, reached) => some (.error failure, reached)
  | (.ok entries, reached) =>
      if entries.length < pageSize then some (.ok (before ++ entries), reached)
      else client |>.listFrom transport endpoint (number + 1) (before ++ entries) reached
partial_fixpoint

/-- The listing of the files that a pull request changes. -/
def filesEndpoint (repository number : Json) : String :=
  "/repos/" ++ repository.display ++ "/pulls/" ++ number.display ++ "/files"

/-- The files that a pull request changes. A listing without an end is never heard of again: what is
given for it tells nothing of the pages, which `listFrom` turns one by one. -/
def changedFiles (client : Client) (transport : Transport σ) (repository number : Json)
    : Attempt (Connection σ) (List Json) :=
  ExceptT.mk fun connection =>
    (client.listFrom transport (filesEndpoint repository number) 1 [] connection).getD
      (.error .endless, connection)

/-- The commit at the tip of the default branch. -/
def branchHead (client : Client) (transport : Transport σ) (repository : Json)
    : Attempt (Connection σ) Json := do
  let endpoint := "/repos/" ++ repository.display
  let about ← client.ask transport endpoint []
  let fields ← Attempt.ofExcept (about.fieldsFor "get")
  let branch := Json.getD fields "default_branch" (.str "master")
  let commit ← client.ask transport (endpoint ++ "/commits/" ++ branch.display) []
  Attempt.ofExcept (commit.entry "sha")

/-- The content in an answer about a file, which may be given in Base64. Directories and the like
have none. -/
def contentOf (answer : Json) : Except Failure (Option Json) := do
  match answer with
  | .obj fields =>
      if !(Json.getD fields "type" (.str "file")).same (.str "file") then return none
      let content := Json.getD fields "content" (.str "")
      if (Json.getD fields "encoding" .null).same (.str "base64") then
        match content with
        | .str text =>
            let bytes ← (Base64.decode text).mapError .base64
            let text ← (Utf8.decode bytes).mapError .bytes
            return some (.str text)
        | value => throw (.misuse (.base64 value.kind))
      match content with
      | .null => return none
      | value => return some value
  | _ => return none

/-- Whether a failure says that something is not there. -/
def isNotFound : Failure → Bool
  | .host _ (some 404) _ => true
  | _ => false

/-- The content of a file at a commit or branch, if it is there. Its path has to be a text. -/
def fetchFile (client : Client) (transport : Transport σ) (repository ref path : Json)
    : Attempt (Connection σ) (Option Json) := do
  let path ← Attempt.ofExcept (path.textFor "lstrip")
  let endpoint := "/repos/" ++ repository.display ++ "/contents/" ++ dropSlashesLeft path
  match ← Attempt.ofState (client.request transport endpoint [("ref", ref)]).outcome with
  | .error failure => if isNotFound failure then return none else throw failure
  | .ok reply => Attempt.ofExcept do contentOf (← reply.json)

/-- The host that a client speaks to. -/
def host (client : Client) (transport : Transport σ) : Host (Connection σ) where
  pullRequest := client.pullRequest transport
  changedFiles := fun repository number => do
    return .arr (← client.changedFiles transport repository number)
  branchHead := client.branchHead transport
  fetchFile := client.fetchFile transport

end Client

end PatchReview.Hosting
