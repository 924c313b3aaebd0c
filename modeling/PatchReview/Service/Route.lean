import PatchReview.Json.Bytes
import PatchReview.Pull.Run
import PatchReview.Schema.Request
import PatchReview.Schema.Response
import PatchReview.Service.Target

/-!
The web service: one route tells that it is up, one reviews a pull request, and one a single file.
Answers are JSON. A request that is not valid touches nothing.
-/

namespace PatchReview.Service

variable {σ : Type}

/-- A request to the service. -/
structure Request where
  method : String
  target : String
  contentType : Option String
  body : String
  deriving DecidableEq, Repr

/-- A request written as JSON. With a body its content is JSON unless it says otherwise. -/
def Request.ofJson (value : Json) : Except Failure Request := do
  let text := fun (name default : String) => ((value.field? name).map Json.display).getD default
  let target ← value.entry "path"
  let method ← (← value.entry "method").textFor "upper"
  return {
    method
    target := target.display
    contentType := (value.field? "body").map fun _ => text "content_type" "application/json"
    body := text "body" "" }

/-- An answer of the service. One that is not JSON has no body here. -/
structure Answer where
  status : Nat
  body : Option Json

/-- The version the service tells. -/
def version : String := "1.0.0"

/-- Whether a header has a line end in it. -/
def hasBreak (header : String) : Bool := header.toList.any fun c => c == '\r' || c == '\n'

/-- The kind of content that a header names, without its parameters, one character for each byte. -/
def mediaType (header : String) : List Char :=
  let bytes := (Utf8.encode header).map fun b => Char.ofNat b.toNat
  (Text.trimRight (Text.trimLeft (bytes.takeWhile (· != ';')))).map Char.toLower

/-- Whether a header names JSON. -/
def isJsonType (header : String) : Bool :=
  let type := mediaType header
  type == "application/json".toList
    || (Text.startsWith "application/".toList type && Text.endsWith "+json".toList type)

/-- The fields in the body of a request. A body that is no JSON object has none. -/
def bodyFields (request : Request) : Json.Fields :=
  if request.contentType.any isJsonType then
    match Json.ofBytes? (Utf8.encode request.body) with
    | some (.obj fields) => fields
    | _ => []
  else []

/-- What is wrong with a request, as JSON. -/
def errorsJson (errors : List FieldError) : Json :=
  .arr (errors.map fun e =>
    .obj [("loc", .arr (e.place.map Json.str)), ("msg", .str e.text)])

/-- The answer to a request that is not valid. -/
def invalid (error : Json) : Answer :=
  ⟨400, some (.obj [("error", error), ("status", .str "invalid")])⟩

/-- The answer when something unforeseen goes wrong. -/
def crashed : Answer := ⟨500, none⟩

/-- Tells that the service is up. -/
def health : Answer :=
  ⟨200, some (.obj [
    ("status", .str "healthy"), ("service", .str "lint-reviewer"), ("version", .str version)])⟩

/-- The answer that a run gives. -/
def answerRun (run : Run) : Answer :=
  match run.result with
  | .failed failure =>
      ⟨500, some (.obj [
        ("review_id", .str run.identifier), ("error", .str failure.message),
        ("status", .str run.status)])⟩
  | .completed _ =>
      match ReviewResponse.ofReviews run.reviews with
      | .faulty _ => crashed
      | .ok reviews =>
          ⟨200, some (.obj [
            ("review_id", .str run.identifier), ("status", .str run.status),
            ("repository", run.repository), ("pr_number", run.number),
            ("total_violations", .int run.violationCount),
            ("processing_time", .float (Binary64.ofInt run.duration)),
            ("file_reviews", .arr (reviews.map ReviewResponse.toJson))])⟩

/-- Reviews a pull request. -/
def lintPullRequest (reviewer : Reviewer) (outside : Outside σ) (request : Request)
    : StateM (Session σ) Answer := do
  match PullRequest.ofFields (bodyFields request) with
  | .faulty errors => return invalid (errorsJson errors)
  | .ok payload =>
      match payload.owner.toOwner with
      | .error _ => return crashed
      | .ok owner =>
          let run ← reviewer.reviewPullRequest outside (.str payload.repository)
            (.int payload.number) owner
          return answerRun run

/-- The build and the file of a checked request. -/
def fileOf (payload : SingleFileRequest) : Except Refusal (Build × ChangedFile) := do
  let build ← payload.toBuild
  let file ← payload.file.toChangedFile
  return (build, file)

/-- Reviews a single file. -/
def lintFile (reviewer : Reviewer) (outside : Outside σ) (request : Request)
    : StateM (Session σ) Answer := do
  match SingleFileRequest.ofFields (bodyFields request) with
  | .faulty errors => return invalid (errorsJson errors)
  | .ok payload =>
      match fileOf payload with
      | .error refusal => return invalid (.str refusal.text)
      | .ok (build, file) =>
          match ← (reviewer.reviewFile outside build file).outcome with
          | .error failure =>
              return ⟨500, some (.obj [
                ("error", .str failure.message), ("status", .str "failed")])⟩
          | .ok reviews =>
              match ReviewResponse.ofReviews reviews with
              | .faulty _ => return crashed
              | .ok reviews =>
                  return ⟨200, some (.obj [
                    ("status", .str "completed"),
                    ("file_reviews", .arr (reviews.map ReviewResponse.toJson))])⟩

/-- A part of the service. -/
inductive Route where
  | health
  | pullRequest
  | file
  /-- Files that come with the service, of which there are none. -/
  | asset
  deriving DecidableEq, Repr

namespace Route

/-- Whether a path names a file that could come with the service. -/
def isAsset (path : List Char) : Bool :=
  let start := "/static/".toList
  match path.drop start.length with
  | first :: rest => Text.startsWith start path && first != '/' && rest.all (· != '\n')
  | [] => false

/-- The route of a path. -/
def ofPath? (path : List Char) : Option Route :=
  if path == "/api/v1/health".toList then some .health
  else if path == "/api/v1/reviews/lint".toList then some .pullRequest
  else if path == "/api/v1/files/lint".toList then some .file
  else if isAsset path then some .asset
  else none

/-- The methods of a route. What can be read can also be asked for its headers alone, and every
route tells what it allows. -/
def methods : Route → List String
  | .health | .asset => ["GET", "HEAD", "OPTIONS"]
  | .pullRequest | .file => ["POST", "OPTIONS"]

/-- Whether a route has a method. -/
def allows (route : Route) (method : String) : Bool := route.methods.contains method

end Route

/-- Where a request leads. -/
inductive Direction where
  | to (route : Route)
  /-- To the same path with fewer slashes. -/
  | moved
  /-- To a route that has no such method. -/
  | refused
  | nowhere
  deriving DecidableEq, Repr

/-- Where a path and a method lead. A path that names no route may do so with fewer slashes. -/
def direction (path : List Char) (method : String) : Direction :=
  match Route.ofPath? path, Route.ofPath? (Target.mergeSlashes path) with
  | some route, _ => if route.allows method then .to route else .refused
  | none, some route => if route.allows method then .moved else .refused
  | none, none => .nowhere

/-- Answers a request to a path with a method. -/
def respondAt (reviewer : Reviewer) (outside : Outside σ) (request : Request) (path : List Char)
    (method : String) : StateM (Session σ) Answer :=
  match direction path method, method with
  | .nowhere, _ => return ⟨404, none⟩
  | .moved, _ => return ⟨308, none⟩
  | .refused, _ => return ⟨405, none⟩
  | .to _, "OPTIONS" => return ⟨200, none⟩
  | .to .health, "GET" => return health
  | .to .health, _ => return ⟨200, none⟩
  | .to .pullRequest, _ => lintPullRequest reviewer outside request
  | .to .file, _ => lintFile reviewer outside request
  | .to .asset, _ => return ⟨404, none⟩

/-- Answers a request, whose method may be in letters of either case. A request whose target cannot
be read is not sent, nor is one with a line end in its header. -/
def respond (reviewer : Reviewer) (outside : Outside σ) (request : Request)
    : Attempt (Session σ) Answer := do
  let target ← Attempt.ofExcept ((Target.ofText request.target).mapError .server)
  if request.contentType.any hasBreak then throw .header
  Attempt.ofState (respondAt reviewer outside request target.path (Text.upper request.method))

/-- Answers a request that is written as JSON. -/
def respondTo (reviewer : Reviewer) (outside : Outside σ) (value : Json)
    : Attempt (Session σ) Answer := do
  respond reviewer outside (← Attempt.ofExcept (Request.ofJson value))

end PatchReview.Service
