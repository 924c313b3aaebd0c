import PatchReview.Proofs.Hosting.Replies
import PatchReview.Recording.Basic

/-! What a client sends, and when. A transport may note what it is used for, so that it can be told which
requests went out and what came back for them.
-/

namespace PatchReview

variable {σ α β : Type}

-----------------------------------------------------------------------------------------
-- Questions
-----------------------------------------------------------------------------------------

/-- What a host answers to a question. -/
def Host.answer (host : Host σ) : Question → Attempt σ (Option Json)
  | .file repository ref path => host.fetchFile repository ref path
  | .branchHead repository => some <$> host.branchHead repository
  | .pullRequest repository number => some <$> host.pullRequest repository number
  | .changedFiles repository number => some <$> host.changedFiles repository number

namespace Hosting

-----------------------------------------------------------------------------------------
-- Traffic
-----------------------------------------------------------------------------------------

/-- What a transport was used for: what its clock showed, and the requests with what came back for them. -/
structure Traffic where
  readings : List Int
  exchanges : List (Request × Except Loss Reply)

namespace Traffic

/-- Nothing was sent and nobody looked at the clock. -/
def empty : Traffic := ⟨[], []⟩

def looked (traffic : Traffic) (now : Int) : Traffic :=
  { traffic with readings := traffic.readings ++ [now] }

def sent (traffic : Traffic) (request : Request) (brought : Except Loss Reply) : Traffic :=
  { traffic with exchanges := traffic.exchanges ++ [(request, brought)] }

/-- The requests that went out. -/
def requests (traffic : Traffic) : List Request := traffic.exchanges.map Prod.fst

end Traffic

/-- A transport that does what another one does, and notes what it is used for. -/
def Transport.noting (transport : Transport σ) : Transport (σ × Traffic) where
  send := fun request (wire, traffic) =>
    let (brought, after) := (transport.send request).run wire
    (brought, after, traffic.sent request brought)
  now := fun (wire, traffic) =>
    let (now, after) := transport.now.run wire
    (now, after, traffic.looked now)

@[simp] theorem Transport.run_noting_send (transport : Transport σ) (request : Request) (wire : σ)
    (traffic : Traffic)
    : (transport.noting.send request).run (wire, traffic)
      = (((transport.send request).run wire).1, ((transport.send request).run wire).2,
          traffic.sent request ((transport.send request).run wire).1) := rfl

@[simp] theorem Transport.run_noting_now (transport : Transport σ) (wire : σ) (traffic : Traffic)
    : transport.noting.now.run (wire, traffic)
      = ((transport.now.run wire).1, (transport.now.run wire).2,
          traffic.looked (transport.now.run wire).1) := rfl

/-- What a client knows of its limits once something came back. -/
def Allowance.after (allowance : Allowance) : Except Loss Reply → Allowance
  | .ok reply => (allowance.update reply).2
  | .error _ => allowance

/-- Where a transport is once a client made something of what came back. It looks at the clock again when the
limits in a reply could be noted.
-/
def Transport.consulted (transport : Transport σ) (allowance : Allowance) (brought : Except Loss Reply)
    (after : σ)
    : σ :=
  match brought with
  | .ok reply =>
      match (allowance.update reply).1 with
      | .ok _ => (transport.now.run after).2
      | .error _ => after
  | .error _ => after

-----------------------------------------------------------------------------------------
-- Single requests
-----------------------------------------------------------------------------------------

namespace Client

variable {client : Client} {transport : Transport σ} {connection : Connection σ} {endpoint : String}
  {params : List (String × Json)}

/-- A request is withheld while there is an instant to wait for. -/
theorem on_request_of_limited {reset : Calendar.Instant}
    (limited : connection.allowance.waitFor? (transport.now.run connection.wire).1 = some reset)
    : (client.request transport endpoint params).on connection
      = (.error (.rateLimit reset), ⟨connection.allowance, (transport.now.run connection.wire).2⟩) := by
  unfold request
  rw [Attempt.on_ofState_bind, Attempt.on_bind, Attempt.on_get]
  simp only [run_onWire, limited]
  rfl

/-- A request that goes out leaves the limits that are known from what came back for it. -/
theorem on_request_of_allowed {brought : Except Loss Reply} {after : σ}
    (allowed : connection.allowance.waitFor? (transport.now.run connection.wire).1 = none)
    (sent : (transport.send (client.requestFor endpoint params)).run (transport.now.run connection.wire).2
      = (brought, after))
    : (client.request transport endpoint params).on connection
      = (settled connection.allowance brought (transport.now.run after).1,
          ⟨connection.allowance.after brought,
            transport.consulted connection.allowance brought after⟩) := by
  refine Prod.ext (on_request ⟨allowed, after, sent, rfl⟩) ?_
  unfold request
  rw [Attempt.on_ofState_bind, Attempt.on_bind, Attempt.on_get]
  simp only [run_onWire, allowed]
  rw [Attempt.on_ofState_bind, run_onWire]
  dsimp only
  rw [← requestFor, sent]
  rcases brought with (text | failure) | reply
  · rfl
  · rfl
  · rw [Attempt.on_bind, Attempt.on_get]
    dsimp only [Transport.consulted]
    cases noted : (connection.allowance.update reply).1 with
    | error failure => rfl
    | ok _ => rfl

end Client

end Hosting

end PatchReview
