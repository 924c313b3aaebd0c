import PatchReview.Datum
import PatchReview.Failure
import PatchReview.Json.Access
import PatchReview.Text.Letter

/-!
Exchanges with a host over HTTP: requests, replies, and what carries the one and brings the other.
-/

namespace PatchReview.Hosting

/-- A request. Its parameters have an order. -/
structure Request where
  method : String
  url : String
  params : List (String × Json)
  timeout : Datum

/-- A reply. A header is a text, or the number that it would be read as. -/
structure Reply where
  status : Int
  headers : List (String × Json)
  body : String

namespace Reply

/-- The value of a header, whose name is compared in letters of either case. Of several the last
counts. -/
def header? (reply : Reply) (name : String) : Option Json :=
  (reply.headers.reverse.find? fun entry => Text.lower entry.1 == Text.lower name).map Prod.snd

/-- Whether the host did what it was asked: the statuses of errors are those from 400 to 599. -/
def isOk (reply : Reply) : Bool := reply.status < 400 || 600 ≤ reply.status

/-- The JSON value in the body. -/
def json (reply : Reply) : Except Failure Json := (Json.parse reply.body).mapError Failure.ofJson

end Reply

/-- Why a request has no reply. -/
inductive Loss where
  /-- The host is not reached, as a message says. -/
  | connection (message : String)
  /-- What came back is no reply. -/
  | reply (failure : Failure)

/-- What sends requests and tells the time, in seconds. -/
structure Transport (σ : Type) where
  send : Request → StateM σ (Except Loss Reply)
  now : StateM σ Int

end PatchReview.Hosting
