import PatchReview.Hosting.Client
import PatchReview.Linter.Run

/-!
Recordings: what a host, a server and the lint engine will answer, written down beforehand, and
what each of them has been asked so far. Over a recording a review needs no network and no program.
-/

namespace PatchReview

open PatchReview.Hosting

/-- The content of a recorded file. Bytes are read as text each time the file is fetched. -/
inductive RecordedContent where
  | value (v : Json)
  | bytes (bs : List UInt8)

/-- Where a recorded file is: its repository, the commit or branch, and its path. A recording may
also have files in places of fewer or more parts, which nobody asks for. -/
abbrev FileKey := List Json

/-- Whether the parts of a place are of kinds that can be keys. -/
def FileKey.check (key : FileKey) : Except Failure Unit := key.forM Json.checkKey

/-- A question that a host was asked. -/
inductive Question where
  | file (repository ref path : Json)
  | branchHead (repository : Json)
  | pullRequest (repository number : Json)
  | changedFiles (repository number : Json)

/-- What a server answers to a request: a reply, or why there is none. -/
abbrev Response := Except Loss Reply

/-- The responses of a server. -/
inductive Wire where
  /-- One after the other, whatever is asked. -/
  | inOrder (responses : List Response)
  /-- By what is asked for: the part of the URL after the server, with its parameters. -/
  | byName (responses : List (String × Response))

/-- A recording. -/
structure Recording where
  files : List (FileKey × RecordedContent)
  heads : List (String × Json)
  /-- Paths that cannot be fetched, and what the host says then. -/
  failing : List (String × String)
  pullRequest : Json
  changedFiles : Json
  /-- How the next runs of the engine end. -/
  runs : List Outcome
  wire : Wire
  /-- The seconds that the clock shows. -/
  clock : Int
  asked : List Question
  invocations : List (Invocation Datum)
  sent : List Hosting.Request

namespace Recording

/-- Notes a question before it is answered. -/
def note (question : Question) : Attempt Recording Unit :=
  modify fun recording => { recording with asked := recording.asked ++ [question] }

/-- The content of a recorded file. -/
def contentOf : RecordedContent → Except Failure (Option Json)
  | .value .null => .ok none
  | .value v => .ok (some v)
  | .bytes bs => ((Utf8.decode bs).map fun text => some (.str text)).mapError .bytes

/-- The head of a repository, if the recording has it. -/
def headOf (recording : Recording) (repository : Json) : Except Failure Json := do
  repository.checkKey
  match repository.str?.bind fun name => Assoc.get? name recording.heads with
  | some head => return head
  | none => throw (.host ("Not Found: " ++ repository.display) (some 404) .null)

/-- The content of a file, if the recording has it. Its path is looked at first. -/
def fetch (recording : Recording) (repository ref path : Json) : Except Failure (Option Json) := do
  path.checkKey
  match path.str?.bind fun path => Assoc.get? path recording.failing with
  | some message => throw (.host message (some 502) .null)
  | none =>
      let key : FileKey := [repository, ref, path]
      key.check
      match Assoc.get? key recording.files with
      | some content => contentOf content
      | none => return none

/-- The host that answers what the recording holds. -/
def host : Host Recording where
  pullRequest := fun repository number => do
    note (.pullRequest repository number)
    return (← get).pullRequest
  changedFiles := fun repository number => do
    note (.changedFiles repository number)
    return (← get).changedFiles
  branchHead := fun repository => do
    note (.branchHead repository)
    Attempt.ofExcept ((← get).headOf repository)
  fetchFile := fun repository ref path => do
    note (.file repository ref path)
    Attempt.ofExcept ((← get).fetch repository ref path)

/-- Runs the engine. Runs beyond the recorded ones write nothing and end well. -/
def runEngine (invocation : Invocation Datum) : StateM Recording Outcome := do
  let recording ← get
  let invocations := recording.invocations ++ [invocation]
  match recording.runs with
  | [] =>
      set { recording with invocations }
      return .finished (.str "") (.int 0) (.str "")
  | outcome :: runs =>
      set { recording with invocations, runs }
      return outcome

/-- What comes after the scheme of a URL, if it has one. -/
def afterScheme? : List Char → Option (List Char)
  | ':' :: '/' :: '/' :: rest => some rest
  | [] => none
  | _ :: rest => afterScheme? rest

/-- What comes after the server of a URL. The scheme may be left out. -/
def afterServer (url : List Char) : List Char :=
  (((afterScheme? url).getD url).dropWhile (· != '/')).drop 1

/-- What a request asks for: its URL after the server, with its parameters. -/
def nameOf (request : Hosting.Request) : String :=
  let path := String.ofList (afterServer request.url.toList)
  let params := request.params.map fun (key, value) => key ++ "=" ++ value.display
  if params.isEmpty then path else path ++ "?" ++ "&".intercalate params

/-- The reply to a request for what a server does not have. -/
def notFound : Reply := ⟨404, [], "\x7b\x22message\x22: \x22Not Found\x22\x7d"⟩

/-- The response of a wire, and what is left of it. -/
def Wire.respond (request : Hosting.Request) : Wire → Response × Wire
  | .inOrder [] => (.error (.connection "no response scripted"), .inOrder [])
  | .inOrder (response :: rest) => (response, .inOrder rest)
  | .byName responses =>
      ((Assoc.get? (nameOf request) responses).getD (.ok notFound), .byName responses)

/-- The transport that brings the recorded responses. -/
def transport : Transport Recording where
  send := fun request => do
    let recording ← get
    let (response, wire) := Wire.respond request recording.wire
    set { recording with wire, sent := recording.sent ++ [request] }
    return response
  now := return (← get).clock

/-- All that a review reaches, given a host. -/
def outside (host : Host (Connection Recording)) : Outside (Connection Recording) where
  host
  runEngine := fun invocation => Connection.onWire (runEngine invocation)
  now := Connection.onWire transport.now

/-- A review's surroundings in which the host answers from the recording. -/
def hosted : Outside (Connection Recording) :=
  outside (host.within Connection.wire fun recording connection =>
    { connection with wire := recording })

/-- A review's surroundings in which a client asks the recorded server. -/
def served (client : Client) : Outside (Connection Recording) := outside (client.host transport)

end Recording

/-- A session over a recording. -/
abbrev RecordedSession := Session (Connection Recording)

namespace RecordedSession

/-- A session at its start. -/
def start (recording : Recording) : RecordedSession := ⟨.start recording, .empty⟩

/-- The recording of a session. -/
def recording (session : RecordedSession) : Recording := session.outside.wire

/-- Changes the recording of a session. -/
def change (session : RecordedSession) (f : Recording → Recording) : RecordedSession :=
  { session with outside := { session.outside with wire := f session.recording } }

/-- A session that does not know any more what has been asked. -/
def forget (session : RecordedSession) : RecordedSession :=
  session.change fun recording => { recording with asked := [], invocations := [], sent := [] }

end RecordedSession

end PatchReview
