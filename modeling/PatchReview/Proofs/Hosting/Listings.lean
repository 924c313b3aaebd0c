import PatchReview.Proofs.Hosting.Traffic
import PatchReview.Proofs.Json.Documents

/-! Listings that a host gives page by page. A client turns the pages up to the first that is not full, and has
all entries then, in order. A page that cannot be had fails the listing.
-/

namespace PatchReview.Hosting

variable {σ : Type}

-----------------------------------------------------------------------------------------
-- Pages
-----------------------------------------------------------------------------------------

/-- The entries on a page of a listing. Pages are counted from one. -/
def blockOf (entries : List Json) (number : Nat) : List Json :=
  (entries.drop ((number - 1) * Client.pageSize)).take Client.pageSize

theorem length_blockOf (entries : List Json) (before : Nat)
    : (blockOf entries (before + 1)).length
      = min Client.pageSize (entries.length - before * Client.pageSize) := by
  simp [blockOf]

/-- A page that the whole pages reach to is full, and the rest of the entries is behind it. -/
theorem blockOf_of_lt {entries : List Json} {before : Nat} (full : before < entries.length / Client.pageSize)
    : (blockOf entries (before + 1)).length = Client.pageSize
      ∧ entries.drop (before * Client.pageSize)
        = blockOf entries (before + 1) ++ entries.drop ((before + 1) * Client.pageSize) := by
  have reaches : (before + 1) * Client.pageSize ≤ entries.length :=
    (Nat.le_div_iff_mul_le (by decide)).mp full
  rw [Nat.succ_mul] at reaches ⊢
  constructor
  · rw [length_blockOf]
    omega
  · rw [← List.drop_drop]
    exact (List.take_append_drop Client.pageSize _).symm

/-- The page behind the whole ones is not full, and has all the rest of the entries. -/
theorem blockOf_last (entries : List Json)
    : (blockOf entries (entries.length / Client.pageSize + 1)).length < Client.pageSize
      ∧ entries.drop (entries.length / Client.pageSize * Client.pageSize)
        = blockOf entries (entries.length / Client.pageSize + 1) := by
  have rest : entries.length - entries.length / Client.pageSize * Client.pageSize < Client.pageSize := by
    rw [← Nat.mod_eq_sub_div_mul]
    exact Nat.mod_lt _ (by decide)
  constructor
  · rw [length_blockOf]
    omega
  · refine (List.take_of_length_le ?_).symm
    rw [List.length_drop]
    exact Nat.le_of_lt rest

/-- A reply whose body is a printed value holds that value. -/
theorem Reply.json_print {status : Int} {headers : List (String × Json)} {value : Json} (exact : value.IsExact)
    : (Reply.mk status headers value.print).json = .ok value := by
  rw [json, Json.parse_print exact]
  rfl

/-- The entries that a reply lists, if it lists any. -/
def Reply.entries? (reply : Reply) : Option (List Json) :=
  match reply.json with
  | .ok answer => if answer.isTruthy then answer.items.toOption else some []
  | .error _ => none

namespace Client

/-- The request for a page of a listing. -/
def pageRequest (client : Client) (endpoint : String) (number : Nat) : Request :=
  client.requestFor endpoint [("page", .int number), ("per_page", .int pageSize)]

/-- (client.Serves transport endpoint entries ready) says that from every connection that is ready a page of a
listing can be had with its entries, none of them past the end, and that the connection is ready again
afterwards: nothing fails, and no limits keep the client from asking.
-/
structure Serves (client : Client) (transport : Transport σ) (endpoint : String) (entries : List Json)
    (ready : Connection σ → Prop)
    : Prop where
  allowed : ∀ connection,
    ready connection → connection.allowance.waitFor? (transport.now.run connection.wire).1 = none
  served : ∀ connection number,
    ready connection → 0 < number →
      ∃ reply after,
        (transport.send (client.pageRequest endpoint number)).run (transport.now.run connection.wire).2
          = (.ok reply, after)
        ∧ reply.status < 400
        ∧ reply.json = .ok (.arr (blockOf entries number))
        ∧ (connection.allowance.update reply).1 = .ok ()
        ∧ ready ⟨(connection.allowance.update reply).2, (transport.now.run after).2⟩

/-- (client.Turns transport endpoint number start page reached) says that full pages were turned from one to
another.
-/
inductive Turns (client : Client) (transport : Transport σ) (endpoint : String)
    : Nat → Connection σ → Nat → Connection σ → Prop where
  | done (number : Nat) (connection : Connection σ)
    : Turns client transport endpoint number connection number connection
  | page {number page : Nat} {start middle reached : Connection σ} {entries : List Json}
    (turned : (client.page transport endpoint number).on start = (.ok entries, middle))
    (full : pageSize ≤ entries.length)
    (later : Turns client transport endpoint (number + 1) middle page reached)
    : Turns client transport endpoint number start page reached

variable {client : Client} {transport : Transport σ} {endpoint : String} {entries : List Json}
  {ready : Connection σ → Prop}

-----------------------------------------------------------------------------------------
-- Turning pages
-----------------------------------------------------------------------------------------

/-- A reply below the statuses of errors is accepted. -/
theorem accept_of_fine {reply : Reply} (fine : reply.status < 400) (later : Int)
    : accept reply later = .ok reply := by
  have unlimited : reply.status ≠ 429 := by omega
  have ok : reply.isOk = true := by simp [Reply.isOk, fine]
  simp [accept, unlimited, ok]
  rfl

theorem entries?_of_arr {reply : Reply} (read : reply.json = .ok (.arr entries))
    : reply.entries? = some entries := by
  rw [Reply.entries?, read]
  cases entries with
  | nil => rfl
  | cons entry rest => rfl

/-- A page that is replied to has the entries that the reply lists, if it lists any. -/
theorem on_page_of_replied {number : Nat} {start reached : Connection σ} {reply : Reply}
    (replied : (client.request transport endpoint [("page", .int number), ("per_page", .int pageSize)]).on
        start
      = (.ok reply, reached))
    : ∃ result,
        (client.page transport endpoint number).on start = (result, reached)
        ∧ result.toOption = reply.entries? := by
  unfold page ask
  rw [Attempt.on_bind, Attempt.on_bind, replied]
  simp only [Attempt.on_ofExcept, Reply.entries?]
  cases reply.json with
  | error failure => exact ⟨_, rfl, rfl⟩
  | ok answer =>
      dsimp only
      cases answer.isTruthy with
      | false => exact ⟨_, rfl, rfl⟩
      | true => exact ⟨_, rfl, rfl⟩

/-- A page is had when the reply about it is a list. -/
theorem on_page_of_arr {number : Nat} {start reached : Connection σ} {reply : Reply}
    (asked : (client.request transport endpoint [("page", .int number), ("per_page", .int pageSize)]).on start
      = (.ok reply, reached))
    (read : reply.json = .ok (.arr entries))
    : (client.page transport endpoint number).on start = (.ok entries, reached) := by
  obtain ⟨result, turned, lists⟩ := on_page_of_replied asked
  rw [entries?_of_arr read] at lists
  rw [turned, Except.eq_ok_of_toOption lists]

/-- A page that is served is had, with one more request. -/
theorem on_page_of_serves (serves : client.Serves transport endpoint entries ready) {number : Nat}
    (positive : 0 < number) {allowance : Allowance} {wire : σ} (traffic : Traffic)
    (start : ready ⟨allowance, wire⟩)
    : ∃ noted next more,
        (client.page transport.noting endpoint number).on ⟨allowance, wire, traffic⟩
          = (.ok (blockOf entries number), ⟨noted, next, more⟩)
        ∧ ready ⟨noted, next⟩
        ∧ more.requests = traffic.requests ++ [client.pageRequest endpoint number] := by
  obtain ⟨reply, after, sent, fine, read, noted, again⟩ := serves.served _ number start positive
  have brought : (transport.noting.send (client.pageRequest endpoint number)).run
        (transport.noting.now.run (wire, traffic)).2
      = (.ok reply, after, (traffic.looked (transport.now.run wire).1).sent
          (client.pageRequest endpoint number) (.ok reply)) := by
    rw [Transport.run_noting_now, Transport.run_noting_send, sent]
  have made : (client.request transport.noting endpoint
        [("page", .int number), ("per_page", .int pageSize)]).on ⟨allowance, wire, traffic⟩
      = _ :=
    on_request_of_allowed (serves.allowed _ start) brought
  refine ⟨(allowance.update reply).2, (transport.now.run after).2,
    ((traffic.looked (transport.now.run wire).1).sent (client.pageRequest endpoint number)
      (.ok reply)).looked (transport.now.run after).1, ?_, again, ?_⟩
  · have consulted : transport.noting.consulted allowance (.ok reply) (after, (traffic.looked
          (transport.now.run wire).1).sent (client.pageRequest endpoint number) (.ok reply))
        = ((transport.now.run after).2, ((traffic.looked (transport.now.run wire).1).sent
          (client.pageRequest endpoint number) (.ok reply)).looked (transport.now.run after).1) := by
      simp [Transport.consulted, noted]
    rw [consulted] at made
    refine on_page_of_arr ?_ read
    rw [made]
    simp [settled, noted, accept_of_fine fine, Allowance.after]
    rfl
  · simp [Traffic.requests, Traffic.looked, Traffic.sent]

/-- A page that is not full ends a listing. -/
theorem listFrom_of_short {number : Nat} {before : List Json} {start reached : Connection σ}
    (turned : (client.page transport endpoint number).on start = (.ok entries, reached))
    (short : entries.length < pageSize)
    : client.listFrom transport endpoint number before start = some (.ok (before ++ entries), reached) := by
  rw [listFrom, turned]
  simp only [short, if_true]

/-- Behind a full page the listing goes on. -/
theorem listFrom_of_full {number : Nat} {before : List Json} {start reached : Connection σ}
    (turned : (client.page transport endpoint number).on start = (.ok entries, reached))
    (full : pageSize ≤ entries.length)
    : client.listFrom transport endpoint number before start
      = client.listFrom transport endpoint (number + 1) (before ++ entries) reached := by
  rw [listFrom, turned]
  simp only [Nat.not_lt.mpr full, if_false]

/-- The rest of a served listing is had behind what there is, by induction on the whole pages to come. -/
theorem listFrom_of_serves (serves : client.Serves transport endpoint entries ready) (whole : Nat)
    (number : Nat) (left : number + whole = entries.length / pageSize) (before : List Json)
    {allowance : Allowance} {wire : σ} (traffic : Traffic) (start : ready ⟨allowance, wire⟩)
    : ∃ last,
        client.listFrom transport.noting endpoint (number + 1) before ⟨allowance, wire, traffic⟩
          = some (.ok (before ++ entries.drop (number * pageSize)), last)
        ∧ last.wire.2.requests
          = traffic.requests ++ (List.range' (number + 1) (whole + 1)).map (client.pageRequest endpoint) := by
  induction whole generalizing number before allowance wire traffic with
  | zero =>
      obtain ⟨noted, next, more, turned, -, requests⟩ :=
        on_page_of_serves serves number.succ_pos traffic start
      obtain rfl : number = entries.length / pageSize := left
      obtain ⟨short, rest⟩ := blockOf_last entries
      exact ⟨_, rest ▸ listFrom_of_short turned short, requests⟩
  | succ whole ih =>
      obtain ⟨noted, next, more, turned, again, requests⟩ :=
        on_page_of_serves serves number.succ_pos traffic start
      obtain ⟨full, rest⟩ := blockOf_of_lt (by omega : number < entries.length / pageSize)
      obtain ⟨last, listed, all⟩ :=
        ih (number + 1) (by omega) (before ++ blockOf entries (number + 1)) more again
      refine ⟨last, ?_, ?_⟩
      · rw [listFrom_of_full turned (Nat.le_of_eq full.symm), listed, rest, List.append_assoc]
      · rw [all, requests, List.append_assoc]
        rfl

/-- A listing fails with the page that cannot be had, by induction on the full pages before it. -/
theorem Turns.listFrom_of_error {number last : Nat} {start reached ended : Connection σ} {failure : Failure}
    (turns : client.Turns transport endpoint number start last reached)
    (failed : (client.page transport endpoint last).on reached = (.error failure, ended))
    (before : List Json)
    : client.listFrom transport endpoint number before start = some (.error failure, ended) := by
  induction turns generalizing before with
  | done number connection => rw [listFrom, failed]
  | page turned full _ ih => rw [listFrom_of_full turned full, ih failed]

/-- The files that a served listing names are had in order, for as many requests as it has pages, the last
of which is not full. If a page cannot be had, neither are the files on those before it.
-/
theorem changedFiles_lists (client : Client) (transport : Transport σ) (repository number : Json)
    : (∀ entries ready allowance wire traffic,
        client.Serves transport (filesEndpoint repository number) entries ready → ready ⟨allowance, wire⟩ →
          ∃ last,
            (client.changedFiles transport.noting repository number).on ⟨allowance, wire, traffic⟩
              = (.ok entries, last)
            ∧ last.wire.2.requests
              = traffic.requests ++ (List.range' 1 (entries.length / 100 + 1)).map
                  (client.pageRequest (filesEndpoint repository number)))
      ∧ ∀ start page reached failure last,
          client.Turns transport (filesEndpoint repository number) 1 start page reached →
          (client.page transport (filesEndpoint repository number) page).on reached = (.error failure, last) →
            (client.changedFiles transport repository number).on start = (.error failure, last) := by
  constructor
  · intro entries ready allowance wire traffic serves start
    obtain ⟨last, listed, requests⟩ :=
      listFrom_of_serves serves (entries.length / pageSize) 0 (Nat.zero_add _) [] traffic start
    refine ⟨last, ?_, requests⟩
    show (client.listFrom transport.noting (filesEndpoint repository number) 1 []
      ⟨allowance, wire, traffic⟩).getD _ = _
    rw [listed, Nat.zero_mul]
    rfl
  · intro start page reached failure last turns failed
    show (client.listFrom transport (filesEndpoint repository number) 1 [] start).getD _ = _
    rw [turns.listFrom_of_error failed]
    rfl

/-- A listing whose first page is never full is that page. -/
theorem changedFiles_eq_page {repository number : Json}
    (short : ∀ start entries reached,
      (client.page transport (filesEndpoint repository number) 1).on start = (.ok entries, reached) →
        entries.length < pageSize)
    : client.changedFiles transport repository number
      = client.page transport (filesEndpoint repository number) 1 := by
  funext start
  show (client.listFrom transport (filesEndpoint repository number) 1 [] start).getD _
    = (client.page transport (filesEndpoint repository number) 1).on start
  cases turned : (client.page transport (filesEndpoint repository number) 1).on start with
  | mk result reached =>
      cases result with
      | error failure => rw [(Turns.done 1 start).listFrom_of_error turned, Option.getD_some]
      | ok entries =>
          rw [listFrom_of_short turned (short _ _ _ turned), Option.getD_some, List.nil_append]

/-- Two hundred files, on two whole pages. -/
def twoHundred : List Json := List.replicate 200 (.obj [("filename", .str "a.coffee")])

/-- A transport to a host that lists two hundred files. Some of the pages are lost. -/
def listingTransport (lost : Int → Bool) : Transport Unit where
  send request := pure <|
    match request.params with
    | ("page", .int number) :: _ =>
        if lost number then .error (.connection "reset")
        else .ok ⟨200, [], (Json.arr (blockOf twoHundred number.toNat)).print⟩
    | _ => .error (.connection "unknown")
  now := pure 0

theorem json_of_listed (number : Nat)
    : Reply.json ⟨200, [], (Json.arr (blockOf twoHundred number)).print⟩
      = .ok (.arr (blockOf twoHundred number)) := by
  have exact : (Json.arr (blockOf twoHundred number)).IsExact := by
    refine .arr fun item member => ?_
    obtain rfl := List.eq_of_mem_replicate (List.mem_of_mem_drop (List.mem_of_mem_take member))
    exact .obj (by decide) (List.forall_mem_singleton.mpr (.str _))
  exact Reply.json_print exact

theorem serves_listingTransport (endpoint : String)
    : plainClient.Serves (listingTransport fun _ => false) endpoint twoHundred (·.allowance = .initial) := by
  constructor
  · intro connection initial
    rw [initial]
    rfl
  · intro connection number initial _
    rw [initial]
    exact ⟨_, (), rfl, (by decide : (200 : Int) < 400), json_of_listed number, rfl, rfl⟩

theorem changedFiles_lists_twoHundred
    : let endpoint := filesEndpoint (.str "o/r") (.int 1)
      (∃ last,
        (plainClient.changedFiles (listingTransport fun _ => false).noting (.str "o/r") (.int 1)).on
            (.start ((), .empty))
          = (.ok twoHundred, last)
        ∧ last.wire.2.requests = [1, 2, 3].map (plainClient.pageRequest endpoint))
      ∧ (plainClient.changedFiles (listingTransport (· = 2)) (.str "o/r") (.int 1)).on (.start ())
          = (.error (.host "Request failed: reset" none .null), .start ()) := by
  intro endpoint
  constructor
  · obtain ⟨last, listed, requests⟩ := (changedFiles_lists plainClient _ _ _).1 twoHundred _ .initial () .empty
      (serves_listingTransport _) rfl
    refine ⟨last, listed, ?_⟩
    rw [requests, twoHundred, List.length_replicate]
    rfl
  · have first : (plainClient.page (listingTransport (· = 2)) endpoint 1).on (.start ())
        = (.ok (blockOf twoHundred 1), .start ()) :=
      on_page_of_arr rfl (json_of_listed 1)
    exact (changedFiles_lists plainClient _ _ _).2 _ 2 _ _ _ (.page first (by decide) (.done 2 _)) rfl

end Client

end PatchReview.Hosting
