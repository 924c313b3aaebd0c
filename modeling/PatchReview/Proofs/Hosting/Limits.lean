import PatchReview.Proofs.Hosting.Courses

/-! How a client keeps to the limits of a host. Before every request it knows the limits that the last replies
told, and it sends nothing while hardly any requests are left and they are not renewed yet. What it is
asked for fails then, and nothing else is asked.
-/

namespace PatchReview.Hosting

variable {σ : Type}

-----------------------------------------------------------------------------------------
-- Limits that replies tell
-----------------------------------------------------------------------------------------

/-- The number that a header gives, if it does. -/
def number? (header : Json) : Option Int := (Allowance.numberOf header).toOption

/-- The instant that a header names, if it does. -/
def instant? (header : Json) : Option Calendar.Instant := (Allowance.instantOf header).toOption

/-- The value of a header in what came back, if it is a reply that has it. -/
def broughtHeader? (name : String) : Except Loss Reply → Option Json
  | .ok reply => reply.header? name
  | .error _ => none

/-- The limits in what came back can be read, where it tells them. -/
structure Marked (brought : Except Loss Reply) : Prop where
  counted : ∀ header ∈ broughtHeader? "X-RateLimit-Remaining" brought, (number? header).isSome
  dated : ∀ header ∈ broughtHeader? "X-RateLimit-Reset" brought, (instant? header).isSome

instance (brought : Except Loss Reply) : Decidable (Marked brought) :=
  decidable_of_iff
    ((∀ header ∈ broughtHeader? "X-RateLimit-Remaining" brought, (number? header).isSome)
      ∧ ∀ header ∈ broughtHeader? "X-RateLimit-Reset" brought, (instant? header).isSome)
    ⟨fun both => ⟨both.1, both.2⟩, fun marked => ⟨marked.counted, marked.dated⟩⟩

namespace Traffic

/-- The value of a header in the last reply that had it. -/
def lastHeader? (traffic : Traffic) (name : String) : Option Json :=
  traffic.exchanges.reverse.findSome? fun exchange => broughtHeader? name exchange.2

/-- How many requests are left, as the last reply told that told it. -/
def remaining (traffic : Traffic) : Int :=
  ((traffic.lastHeader? "X-RateLimit-Remaining").bind number?).getD 5000

/-- When the requests are renewed, as the last reply told that told it. -/
def renewal? (traffic : Traffic) : Option Calendar.Instant :=
  (traffic.lastHeader? "X-RateLimit-Reset").bind instant?

/-- When the requests are renewed for a client that was made at an instant. -/
def renewal (traffic : Traffic) (created : Calendar.Instant) : Calendar.Instant :=
  traffic.renewal?.getD created

/-- (traffic.Exhausted created now) says that hardly any requests are left, and that they are not renewed
yet when the clock shows `now`.
-/
def Exhausted (traffic : Traffic) (created : Calendar.Instant) (now : Int) : Prop :=
  traffic.remaining ≤ 10 ∧ now < (traffic.renewal created).seconds

theorem lastHeader?_sent (traffic : Traffic) (request : Request) (brought : Except Loss Reply)
    (name : String)
    : (traffic.sent request brought).lastHeader? name
      = (broughtHeader? name brought).or (traffic.lastHeader? name) := by
  simp only [lastHeader?, sent, List.reverse_append, List.reverse_singleton, List.singleton_append,
    List.findSome?_cons]
  cases broughtHeader? name brought <;> rfl

end Traffic

variable {created : Calendar.Instant} {traffic : Traffic} {brought : Except Loss Reply}

/-- Limits that can be read are noted, by cases on which of them came back. -/
theorem Allowance.after_of_marked {allowance : Allowance} (marked : Marked brought)
    : allowance.after brought
      = ⟨((broughtHeader? "X-RateLimit-Remaining" brought).bind number?).getD allowance.remaining,
          ((broughtHeader? "X-RateLimit-Reset" brought).bind instant?).or allowance.reset⟩ := by
  obtain ⟨counted, dated⟩ := marked
  cases brought with
  | error loss => rfl
  | ok reply =>
      rw [broughtHeader?] at counted dated ⊢
      rw [after, broughtHeader?]
      unfold update
      cases count : reply.header? "X-RateLimit-Remaining" with
      | none =>
          cases date : reply.header? "X-RateLimit-Reset" with
          | none => rfl
          | some header =>
              obtain ⟨reset, named⟩ := Except.exists_of_isSome_toOption (dated header date)
              simp [named, instant?, Except.toOption]
      | some header =>
          obtain ⟨n, number⟩ := Except.exists_of_isSome_toOption (counted header count)
          cases date : reply.header? "X-RateLimit-Reset" with
          | none => simp [number, number?, Except.map, Except.toOption]
          | some header =>
              obtain ⟨reset, named⟩ := Except.exists_of_isSome_toOption (dated header date)
              simp [number, named, number?, instant?, Except.map, Except.toOption]

namespace Traffic

/-- Limits that can be read tell what is left, or leave it as it was told before. -/
theorem remaining_sent (request : Request) (marked : Marked brought)
    : (traffic.sent request brought).remaining
      = ((broughtHeader? "X-RateLimit-Remaining" brought).bind number?).getD traffic.remaining := by
  rw [remaining, lastHeader?_sent]
  cases count : broughtHeader? "X-RateLimit-Remaining" brought with
  | none => rfl
  | some header =>
      obtain ⟨n, number⟩ := Option.isSome_iff_exists.mp (marked.counted header count)
      simp [number]

theorem renewal?_sent (request : Request) (marked : Marked brought)
    : (traffic.sent request brought).renewal?
      = ((broughtHeader? "X-RateLimit-Reset" brought).bind instant?).or traffic.renewal? := by
  rw [renewal?, lastHeader?_sent]
  cases date : broughtHeader? "X-RateLimit-Reset" brought with
  | none => rfl
  | some header =>
      obtain ⟨reset, named⟩ := Option.isSome_iff_exists.mp (marked.dated header date)
      simp [named]

end Traffic

-----------------------------------------------------------------------------------------
-- Informed connections
-----------------------------------------------------------------------------------------

/-- A connection knows the limits that its traffic told. -/
structure Connection.Informed (connection : Connection (σ × Traffic)) : Prop where
  remaining : connection.allowance.remaining = connection.wire.2.remaining
  reset : connection.allowance.reset = connection.wire.2.renewal?

theorem Connection.informed_start (wire : σ) : (Connection.start (wire, Traffic.empty)).Informed :=
  ⟨rfl, rfl⟩

/-- There is an instant to wait for when the requests are exhausted. Before the first reply none is awaited,
since the clock does not go back behind the making of the client.
-/
theorem Connection.Informed.waitFor?_eq {connection : Connection (σ × Traffic)} {now : Int}
    (informed : connection.Informed) (clock : created.seconds ≤ now)
    : (connection.wire.2.Exhausted created now →
        connection.allowance.waitFor? now = some (connection.wire.2.renewal created))
      ∧ (¬ connection.wire.2.Exhausted created now → connection.allowance.waitFor? now = none) := by
  unfold Allowance.waitFor? Traffic.Exhausted Traffic.renewal
  rw [informed.remaining, informed.reset]
  cases connection.wire.2.renewal? with
  | none => simp [Int.not_lt.mpr clock]
  | some reset =>
      by_cases left : connection.wire.2.remaining ≤ 10
      · by_cases soon : now < reset.seconds <;> simp [left, soon, Int.not_lt.mp]
      · simp [left]

namespace Client

variable {client : Client} {transport : Transport σ}

/-- What the clock shows when a call is about to be made. -/
def Call.reading (transport : Transport σ) (call : Call (σ × Traffic)) : Int :=
  (transport.now.run call.found.wire.1).1

/-- (call.Minds client transport created) says that a call minds the limits: it knows those that were told,
its request goes out exactly when there are requests left, and otherwise it fails, naming the instant to
wait for, and leaves all that is known as it was.
-/
structure Call.Minds (client : Client) (transport : Transport σ) (created : Calendar.Instant)
    (call : Call (σ × Traffic))
    : Prop where
  remaining : call.found.allowance.remaining = call.found.wire.2.remaining
  reset : call.found.allowance.reset.getD created = call.found.wire.2.renewal created
  sends : (∃ brought,
      (call.made client transport.noting).2.wire.2.exchanges
        = call.found.wire.2.exchanges
          ++ [(client.requestFor call.part.endpoint call.part.params, brought)])
    ↔ ¬ call.found.wire.2.Exhausted created (call.reading transport)
  withholds : call.found.wire.2.Exhausted created (call.reading transport) →
    call.made client transport.noting
      = (.error (.rateLimit (call.found.wire.2.renewal created)),
          ⟨call.found.allowance, (transport.now.run call.found.wire.1).2,
            call.found.wire.2.looked (call.reading transport)⟩)

/-- A call whose request goes out leaves more traffic, and what is known from what came back. -/
theorem Call.sent_of_allowed (client : Client) (call : Call (σ × Traffic))
    (allowed : call.found.allowance.waitFor? (call.reading transport) = none)
    : ∃ brought,
        (call.made client transport.noting).2.allowance = call.found.allowance.after brought
        ∧ (call.made client transport.noting).2.wire.2.exchanges
          = (call.found.wire.2.sent (client.requestFor call.part.endpoint call.part.params)
              brought).exchanges := by
  obtain ⟨⟨allowance, wire, traffic⟩, endpoint, params⟩ := call
  have made : (client.request transport.noting endpoint params).on ⟨allowance, wire, traffic⟩ = _ :=
    on_request_of_allowed allowed rfl
  refine ⟨_, congrArg (fun made => made.2.allowance) made, ?_⟩
  have wired := congrArg (fun made => made.2.wire.2) made
  dsimp only [Transport.consulted] at wired
  rw [Call.made, wired]
  split
  · split <;> rfl
  · rfl

variable {call : Call (σ × Traffic)} {result : Except Failure Reply} {after : Connection (σ × Traffic)}

/-- No call takes traffic back. -/
theorem Call.subset_of_made (made : call.made client transport.noting = (result, after))
    : call.found.wire.2.exchanges ⊆ after.wire.2.exchanges := by
  cases waited : call.found.allowance.waitFor? (call.reading transport) with
  | some reset =>
      have withheld : call.made client transport.noting = _ := on_request_of_limited waited
      rw [made] at withheld
      cases withheld
      exact List.Subset.refl _
  | none =>
      obtain ⟨brought, -, exchanges⟩ := call.sent_of_allowed client waited
      rw [made] at exchanges
      rw [exchanges]
      exact List.subset_append_left _ _

/-- A call that finds an informed connection leaves one, by cases on whether its request goes out. -/
theorem Call.informed_of_made (made : call.made client transport.noting = (result, after))
    (informed : call.found.Informed) (marked : ∀ exchange ∈ after.wire.2.exchanges, Marked exchange.2)
    : after.Informed := by
  cases waited : call.found.allowance.waitFor? (call.reading transport) with
  | some reset =>
      have withheld : call.made client transport.noting = _ := on_request_of_limited waited
      rw [made] at withheld
      cases withheld
      exact ⟨informed.remaining, informed.reset⟩
  | none =>
      obtain ⟨brought, allowance, exchanges⟩ := call.sent_of_allowed client waited
      rw [made] at allowance exchanges
      have read : Marked brought := by
        rw [exchanges] at marked
        exact marked _ (List.mem_append_right _ (List.mem_singleton_self _))
      constructor
      · rw [allowance, Allowance.after_of_marked read, Traffic.remaining, Traffic.lastHeader?, exchanges]
        exact (informed.remaining ▸ Traffic.remaining_sent _ read).symm
      · rw [allowance, Allowance.after_of_marked read, Traffic.renewal?, Traffic.lastHeader?, exchanges]
        exact (informed.reset ▸ Traffic.renewal?_sent _ read).symm

/-- A call that finds an informed connection minds the limits, by cases on whether there are requests left. -/
theorem Call.minds_of_informed (informed : call.found.Informed)
    (clock : created.seconds ≤ call.reading transport)
    : call.Minds client transport created := by
  have waits := informed.waitFor?_eq clock
  by_cases exhausted : call.found.wire.2.Exhausted created (call.reading transport)
  · have made : call.made client transport.noting = _ := on_request_of_limited (waits.1 exhausted)
    refine ⟨informed.remaining, congrArg (·.getD created) informed.reset, ?_, fun _ => made⟩
    rw [made]
    refine ⟨?_, fun left => absurd exhausted left⟩
    rintro ⟨brought, more⟩
    have same : call.found.wire.2.exchanges = call.found.wire.2.exchanges ++ [_] := more
    simp at same
  · obtain ⟨brought, -, exchanges⟩ := call.sent_of_allowed client (waits.2 exhausted)
    exact ⟨informed.remaining, congrArg (·.getD created) informed.reset,
      ⟨fun _ => exhausted, fun _ => ⟨brought, exchanges⟩⟩, fun left => absurd left exhausted⟩

-----------------------------------------------------------------------------------------
-- Histories
-----------------------------------------------------------------------------------------

variable {question : Question} {first start here last : Connection (σ × Traffic)} {replies : List Reply}
  {questions : List Question}

/-- The calls for a question take no traffic back, by induction on the calls. -/
theorem Reaches.subset (reaches : client.Reaches transport.noting question start replies here)
    : start.wire.2.exchanges ⊆ here.wire.2.exchanges := by
  induction reaches with
  | asked => exact List.Subset.refl _
  | replied _ _ made ih => exact List.Subset.trans ih (Call.subset_of_made made)

/-- The calls for a question lead from an informed connection to informed ones, by induction on the calls. -/
theorem Reaches.informed (reaches : client.Reaches transport.noting question start replies here)
    (informed : start.Informed) (marked : ∀ exchange ∈ here.wire.2.exchanges, Marked exchange.2)
    : here.Informed := by
  induction reaches with
  | asked => exact informed
  | replied _ _ made ih =>
      have before := ih fun exchange member => marked exchange (Call.subset_of_made made member)
      exact Call.informed_of_made made before marked

theorem Ends.subset (ends : client.Ends transport.noting question start last)
    : start.wire.2.exchanges ⊆ last.wire.2.exchanges := by
  cases ends with
  | complete reaches _ => exact reaches.subset
  | failed reaches _ failed => exact List.Subset.trans reaches.subset (Call.subset_of_made failed)

theorem Ends.informed (ends : client.Ends transport.noting question start last) (informed : start.Informed)
    (marked : ∀ exchange ∈ last.wire.2.exchanges, Marked exchange.2)
    : last.Informed := by
  cases ends with
  | complete reaches _ => exact reaches.informed informed marked
  | failed reaches _ failed =>
      have before := reaches.informed informed fun exchange member =>
        marked exchange (Call.subset_of_made failed member)
      exact Call.informed_of_made failed before marked

/-- Questions one after the other lead from an informed connection to an informed one, by induction on the
questions.
-/
theorem Answered.informed (answered : client.Answered transport.noting first questions last)
    (informed : first.Informed) (marked : ∀ exchange ∈ last.wire.2.exchanges, Marked exchange.2)
    : last.Informed := by
  induction answered with
  | start => exact informed
  | answer _ hears ih =>
      obtain ⟨reached, ends⟩ := hears.exists_ends
      rw [ends.snd_on_answer] at marked ⊢
      exact ends.informed (ih fun exchange member => marked exchange (ends.subset member)) marked

/-- (client.Guards transport created question start replies here) says that a client keeps to the limits when
the calls for a question were replied to like this: the one that comes next minds them, and if no requests
are left the question fails, naming the instant to wait for, whatever it is about. From one call to the
next it proceeds as it has to.
-/
structure Guards (client : Client) (transport : Transport σ) (created : Calendar.Instant)
    (question : Question) (start : Connection (σ × Traffic)) (replies : List Reply)
    (here : Connection (σ × Traffic))
    : Prop where
  proceeds : client.Proceeds transport.noting question start replies here
  minds : ∀ part, part? question replies = some part → (Call.mk here part).Minds client transport created
  withholds : ∀ part,
    part? question replies = some part →
      here.wire.2.Exhausted created ((Call.mk here part).reading transport) →
        ((client.host transport.noting).answer question).on start
          = (.error (.rateLimit (here.wire.2.renewal created)),
              ⟨here.allowance, (transport.now.run here.wire.1).2,
                here.wire.2.looked ((Call.mk here part).reading transport)⟩)

/-- Whatever a client was asked before and is asked now, and however far it has come with it, it keeps to the
limits that the replies told, as long as these can be read and the clock does not go back behind the making
of the client.
-/
theorem guards_of_marked (client : Client) (transport : Transport σ) (created : Calendar.Instant) (wire : σ)
    (earlier : List Question) (question : Question) (start here : Connection (σ × Traffic))
    (replies : List Reply)
    (answered : client.Answered transport.noting (.start (wire, .empty)) earlier start)
    (reaches : client.Reaches transport.noting question start replies here)
    (marked : ∀ exchange ∈ here.wire.2.exchanges, Marked exchange.2)
    (clock : created.seconds ≤ (transport.now.run here.wire.1).1)
    : Guards client transport created question start replies here := by
  have asked : start.Informed :=
    answered.informed (Connection.informed_start wire) fun exchange member =>
      marked exchange (reaches.subset member)
  have minds (part : Part) : (Call.mk here part).Minds client transport created :=
    Call.minds_of_informed (reaches.informed asked marked) clock
  refine ⟨reaches.proceeds, fun part _ => minds part, ?_⟩
  intro part next exhausted
  have withheld := (minds part).withholds exhausted
  obtain ⟨reached, failed⟩ := reaches.passesOn next withheld
  exact Prod.ext (failed rfl) reached

/-- A reply that tells that ten requests are left, long before they are renewed. -/
def tellingTen (answer : Json) : Reply :=
  ⟨200, [("x-ratelimit-remaining", .int 10), ("x-ratelimit-reset", .int 2000000000)], answer.print⟩

/-- A transport whose replies tell that ten requests are left. The pages of a listing are full. -/
def almostExhausted : Transport Unit where
  send request := pure (.ok (tellingTen
    (if request.params.isEmpty then .obj [("default_branch", .str "main")] else .arr (blockOf twoHundred 1))))
  now := pure 1000000000

/-- A connection over which one request for a part went out, with what was replied. -/
def afterOne (part : Part) (answer : Json) : Connection (Unit × Traffic) :=
  ⟨⟨10, some ⟨2000000000⟩⟩, (), ⟨[1000000000, 1000000000],
    [(plainClient.requestFor part.endpoint part.params, .ok (tellingTen answer))]⟩⟩

theorem marked_afterOne (part : Part) (answer : Json)
    : ∀ exchange ∈ (afterOne part answer).wire.2.exchanges, Marked exchange.2 := by
  have counted : broughtHeader? "X-RateLimit-Remaining" (.ok (tellingTen answer)) = some (.int 10) := rfl
  have dated : broughtHeader? "X-RateLimit-Reset" (.ok (tellingTen answer)) = some (.int 2000000000) := rfl
  refine List.forall_mem_singleton.mpr ⟨?_, ?_⟩
  · rw [counted]
    decide
  · rw [dated]
    decide

theorem exhausted_afterOne (part : Part) (answer : Json)
    : (afterOne part answer).wire.2.Exhausted ⟨1000000000⟩ 1000000000 := by
  have remaining : (afterOne part answer).wire.2.remaining = 10 := rfl
  have renewal : (afterOne part answer).wire.2.renewal ⟨1000000000⟩ = ⟨2000000000⟩ := rfl
  rw [Traffic.Exhausted, remaining, renewal]
  decide

theorem guards_almostExhausted
    : let host := plainClient.host almostExhausted.noting
      let start := Connection.start ((), Traffic.empty)
      let branch := Question.branchHead (.str "o/r")
      let file := Question.file (.str "o/r") (.str "main") (.str "a.coffee")
      let files := Question.changedFiles (.str "o/r") (.int 1)
      (∃ about here,
        plainClient.Reaches almostExhausted.noting branch start [about] here
        ∧ Guards plainClient almostExhausted ⟨1000000000⟩ branch start [about] here
        ∧ ((host.answer branch).on start).1 = .error (.rateLimit ⟨2000000000⟩))
      ∧ (∃ behind,
        plainClient.Answered almostExhausted.noting start [branch] behind
        ∧ Guards plainClient almostExhausted ⟨1000000000⟩ file behind [] behind
        ∧ ((host.answer file).on behind).1 = .error (.rateLimit ⟨2000000000⟩))
      ∧ ∃ page here,
        plainClient.Reaches almostExhausted.noting files start [page] here
        ∧ Guards plainClient almostExhausted ⟨1000000000⟩ files start [page] here
        ∧ ((host.answer files).on start).1 = .error (.rateLimit ⟨2000000000⟩) := by
  intro host start branch file files
  have named : plainClient.Reaches almostExhausted.noting branch start
      [tellingTen (.obj [("default_branch", .str "main")])] (afterOne (.repository (.str "o/r")) _) :=
    .replied .asked rfl rfl
  have exact : (Json.obj [("default_branch", .str "main")]).IsExact :=
    .obj (by decide) (List.forall_mem_singleton.mpr (.str _))
  have said : (tellingTen (.obj [("default_branch", .str "main")])).json
      = .ok (.obj [("default_branch", .str "main")]) :=
    Reply.json_print exact
  have tip : part? branch [tellingTen (.obj [("default_branch", .str "main")])]
      = some (.tip (.str "o/r") (.str "main")) :=
    part?_branchHead_of_told (.str "o/r") said
  have guardsTip := guards_of_marked plainClient almostExhausted ⟨1000000000⟩ () [] branch start _ _ .start
    named (marked_afterOne _ _) (Int.le_refl _)
  have atTip := guardsTip.withholds _ tip (exhausted_afterOne _ _)
  have asked : plainClient.Answered almostExhausted.noting start ([] ++ [branch])
      ((host.answer branch).on start).2 :=
    .answer .start trivial
  rw [atTip] at asked
  have guardsFile := guards_of_marked plainClient almostExhausted ⟨1000000000⟩ () _ file _ _ [] asked .asked
    (marked_afterOne _ _) (Int.le_refl _)
  have atFile := guardsFile.withholds _ rfl (exhausted_afterOne _ _)
  have turned : plainClient.Reaches almostExhausted.noting files start
      [tellingTen (.arr (blockOf twoHundred 1))] (afterOne (.files (.str "o/r") (.int 1) 1) _) :=
    .replied .asked rfl rfl
  have full : (tellingTen (.arr (blockOf twoHundred 1))).IsFull :=
    ⟨blockOf twoHundred 1, entries?_of_arr (json_of_listed 1), by decide⟩
  have second : part? files [tellingTen (.arr (blockOf twoHundred 1))]
      = some (.files (.str "o/r") (.int 1) 2) :=
    part?_changedFiles_of_isFull (.str "o/r") (.int 1) (List.forall_mem_singleton.mpr full)
  have guardsPage := guards_of_marked plainClient almostExhausted ⟨1000000000⟩ () [] files start _ _ .start
    turned (marked_afterOne _ _) (Int.le_refl _)
  have atPage := guardsPage.withholds _ second (exhausted_afterOne _ _)
  exact ⟨⟨_, _, named, guardsTip, congrArg Prod.fst atTip⟩, ⟨_, asked, guardsFile, congrArg Prod.fst atFile⟩,
    _, _, turned, guardsPage, congrArg Prod.fst atPage⟩

end Client

end PatchReview.Hosting
