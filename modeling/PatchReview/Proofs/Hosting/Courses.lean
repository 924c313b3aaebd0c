import PatchReview.Proofs.Hosting.Listings

/-! What a client calls for when it is asked something. Each question goes on from reply to reply: what was
replied so far decides for which part of the host's interface the client calls next, and with a call that
fails the question is over.
-/

namespace PatchReview.Hosting

variable {σ : Type}

-----------------------------------------------------------------------------------------
-- Parts of an interface
-----------------------------------------------------------------------------------------

/-- A part of a host's interface, with what it is called with. -/
structure Part where
  endpoint : String
  params : List (String × Json)

namespace Part

/-- What is said of a repository. -/
def repository (repository : Json) : Part := ⟨"/repos/" ++ repository.display, []⟩

/-- The commit at the tip of a branch. -/
def tip (repository branch : Json) : Part :=
  ⟨"/repos/" ++ repository.display ++ "/commits/" ++ branch.display, []⟩

/-- What is said of a pull request. -/
def pull (repository number : Json) : Part :=
  ⟨"/repos/" ++ repository.display ++ "/pulls/" ++ number.display, []⟩

/-- A page of the files that a pull request changes. -/
def files (repository number : Json) (page : Nat) : Part :=
  ⟨Client.filesEndpoint repository number, [("page", .int page), ("per_page", .int Client.pageSize)]⟩

/-- A file at a commit or branch. -/
def contents (repository ref : Json) (path : String) : Part :=
  ⟨Client.contentsEndpoint repository path, [("ref", ref)]⟩

end Part

/-- A reply lists as many entries as a page has, or more. -/
def Reply.IsFull (reply : Reply) : Prop := ∃ entries ∈ reply.entries?, Client.pageSize ≤ entries.length

instance (reply : Reply) : Decidable reply.IsFull :=
  decidable_of_iff (reply.entries?.any (Client.pageSize ≤ ·.length)) (by simp [Reply.IsFull, Option.any_eq_true])

/-- The part that a client calls for next, when it is asked a question and has these replies. Whoever asks
for the tip of the default branch has to be told its name first, and a listing goes on behind full pages.
-/
def part? : Question → List Reply → Option Part
  | .pullRequest repository number, [] => some (.pull repository number)
  | .branchHead repository, [] => some (.repository repository)
  | .branchHead repository, [about] =>
      match about.json with
      | .ok (.obj fields) => some (.tip repository (Json.getD fields "default_branch" (.str "master")))
      | _ => none
  | .changedFiles repository number, replies =>
      if ∀ reply ∈ replies, reply.IsFull then some (.files repository number (replies.length + 1)) else none
  | .file repository ref (.str path), [] => some (.contents repository ref path)
  | _, _ => none

namespace Client

-----------------------------------------------------------------------------------------
-- Calls
-----------------------------------------------------------------------------------------

/-- A call for a part of the host's interface, and the connection that it finds. -/
structure Call (σ : Type) where
  found : Connection σ
  part : Part

/-- How a call ends. -/
def Call.made (client : Client) (transport : Transport σ) (call : Call σ)
    : Except Failure Reply × Connection σ :=
  (client.request transport call.part.endpoint call.part.params).on call.found

/-- (client.Reaches transport question start replies here) says that a client that is asked a question has
made the calls for it that were replied to like this, and that they led from one connection to another.
-/
inductive Reaches (client : Client) (transport : Transport σ) (question : Question) (start : Connection σ)
    : List Reply → Connection σ → Prop where
  | asked : Reaches client transport question start [] start
  | replied {replies : List Reply} {here after : Connection σ} {part : Part} {reply : Reply}
    (earlier : Reaches client transport question start replies here)
    (next : part? question replies = some part)
    (made : (Call.mk here part).made client transport = (.ok reply, after))
    : Reaches client transport question start (replies ++ [reply]) after

/-- An answer to a question is heard, unless it is about a listing without an end. -/
def Hears (client : Client) (transport : Transport σ) (start : Connection σ) : Question → Prop
  | .changedFiles repository number =>
      (client.listFrom transport (filesEndpoint repository number) 1 [] start).isSome
  | _ => True

variable {client : Client} {transport : Transport σ} {question : Question} {start here last : Connection σ}
  {replies : List Reply} {part : Part} {reply : Reply} {failure : Failure}

theorem Reaches.eq_start (reaches : client.Reaches transport question start [] here) : here = start := by
  generalize none : [] = replies at reaches
  cases reaches with
  | asked => rfl
  | replied _ _ _ => simp at none

/-- What was replied first was replied to the call that comes first. -/
theorem Reaches.exists_first (reaches : client.Reaches transport question start [reply] here)
    : ∃ part,
        part? question [] = some part
        ∧ (Call.mk start part).made client transport = (.ok reply, here) := by
  generalize all : [reply] = told at reaches
  cases reaches with
  | asked => cases all
  | @replied replies _ _ _ _ earlier next made =>
      cases replies with
      | nil =>
          obtain rfl := earlier.eq_start
          obtain rfl := List.singleton_injective all
          exact ⟨_, next, made⟩
      | cons _ _ => simp at all

-----------------------------------------------------------------------------------------
-- Questions on their way
-----------------------------------------------------------------------------------------

/-- What the host says under a part of its interface. -/
def askFor (client : Client) (transport : Transport σ) (part : Part) : Attempt (Connection σ) Json :=
  client.ask transport part.endpoint part.params

theorem on_askFor_of_failed (failed : (Call.mk here part).made client transport = (.error failure, last))
    : (client.askFor transport part).on here = (.error failure, last) := by
  have failed : (client.request transport part.endpoint part.params).on here = (.error failure, last) := failed
  rw [askFor, ask, Attempt.on_bind, failed]

theorem on_askFor_of_replied (made : (Call.mk here part).made client transport = (.ok reply, last))
    : (client.askFor transport part).on here = (reply.json, last) := by
  have replied : (client.request transport part.endpoint part.params).on here = (.ok reply, last) := made
  rw [askFor, ask, Attempt.on_bind, replied]
  exact Attempt.on_ofExcept _ _

theorem pullRequest_eq (repository number : Json)
    : client.pullRequest transport repository number = client.askFor transport (.pull repository number) := rfl

theorem branchHead_eq (repository : Json)
    : client.branchHead transport repository
      = (do
          let about ← client.askFor transport (.repository repository)
          let fields ← Attempt.ofExcept (about.fieldsFor "get")
          let commit ←
            client.askFor transport (.tip repository (Json.getD fields "default_branch" (.str "master")))
          Attempt.ofExcept (commit.entry "sha")) :=
  rfl

theorem page_eq (repository number : Json) (page : Nat)
    : client.page transport (filesEndpoint repository number) page
      = (do
          let answer ← client.askFor transport (.files repository number page)
          if !answer.isTruthy then return []
          Attempt.ofExcept answer.items) :=
  rfl

theorem eq_nil_of_pullRequest {repository number : Json}
    (next : part? (.pullRequest repository number) replies = some part)
    : replies = [] := by
  cases replies with
  | nil => rfl
  | cons _ _ => cases next

theorem eq_nil_of_file {repository ref path : Json}
    (next : part? (.file repository ref path) replies = some part)
    : replies = [] := by
  cases replies with
  | nil => rfl
  | cons _ _ => cases path <;> cases next

theorem part?_changedFiles {repository number : Json}
    (next : part? (.changedFiles repository number) replies = some part)
    : (∀ reply ∈ replies, reply.IsFull) ∧ part = .files repository number (replies.length + 1) := by
  rw [part?] at next
  split at next
  · next full => exact ⟨full, (Option.some.inj next).symm⟩
  · cases next

theorem part?_changedFiles_of_isFull (repository number : Json) (full : ∀ reply ∈ replies, reply.IsFull)
    : part? (.changedFiles repository number) replies = some (.files repository number (replies.length + 1)) :=
  if_pos full

theorem part?_changedFiles_of_not_isFull {repository number : Json} (short : ¬ reply.IsFull)
    : part? (.changedFiles repository number) (replies ++ [reply]) = none := by
  rw [part?, if_neg]
  intro all
  exact short (all reply (List.mem_append_right _ (List.mem_singleton_self _)))

/-- A page that is replied to has the entries that the reply lists. -/
theorem on_page_of_made {repository number : Json} {page : Nat} {entries : List Json}
    (made : (Call.mk here (.files repository number page)).made client transport = (.ok reply, last))
    (lists : entries ∈ reply.entries?)
    : (client.page transport (filesEndpoint repository number) page).on here = (.ok entries, last) := by
  obtain ⟨result, turned, had⟩ := on_page_of_replied made
  rw [Option.mem_def.mp lists] at had
  obtain rfl := Except.eq_ok_of_toOption had
  exact turned

theorem answer_changedFiles (repository number : Json)
    : (client.host transport).answer (.changedFiles repository number)
      = (some ∘ Json.arr) <$> client.changedFiles transport repository number := by
  show some <$> (client.changedFiles transport repository number >>= fun files => pure (Json.arr files)) = _
  rw [← map_eq_pure_bind, ← comp_map]

/-- A listing that goes on is, from the connection that its pages led to, one of the pages to come behind
their entries, by induction on the pages.
-/
theorem Reaches.listFrom_eq {repository number : Json}
    (reaches : client.Reaches transport (.changedFiles repository number) start replies here)
    (full : ∀ reply ∈ replies, reply.IsFull)
    : client.listFrom transport (filesEndpoint repository number) 1 [] start
      = client.listFrom transport (filesEndpoint repository number) (replies.length + 1)
          (replies.flatMap fun reply => reply.entries?.getD []) here := by
  induction reaches with
  | asked => rfl
  | @replied replies here after part reply earlier next made ih =>
      obtain ⟨before, rfl⟩ := part?_changedFiles next
      obtain ⟨entries, lists, enough⟩ := full _ (List.mem_append_right _ (List.mem_singleton_self _))
      rw [ih before, listFrom_of_full (on_page_of_made made lists) enough]
      simp [Option.mem_def.mp lists]

-----------------------------------------------------------------------------------------
-- Failed calls
-----------------------------------------------------------------------------------------

/-- (PassesOn failure last ended) says that what ended like this has come to `last` and failed like a call.
What is not there may be no failure.
-/
def PassesOn {α : Type} (failure : Failure) (last : Connection σ)
    (ended : Except Failure α × Connection σ)
    : Prop :=
  ended.2 = last ∧ (isNotFound failure = false → ended.1 = .error failure)

theorem PassesOn.map {α β : Type} {attempt : Attempt (Connection σ) α}
    (passedOn : PassesOn failure last (attempt.on here)) (f : α → β)
    : PassesOn failure last ((f <$> attempt).on here) := by
  obtain ⟨reached, failed⟩ := passedOn
  rw [Attempt.on_map]
  exact ⟨reached, fun there => by rw [failed there]; rfl⟩

theorem PassesOn.of_eq {α : Type} {ended : Except Failure α × Connection σ}
    (failed : ended = (.error failure, last))
    : PassesOn failure last ended := by
  subst failed
  exact ⟨rfl, fun _ => rfl⟩

theorem passesOn_fetchFile {repository ref : Json} {path : String}
    (failed : (client.request transport (contentsEndpoint repository path) [("ref", ref)]).on here
      = (.error failure, last))
    : PassesOn failure last ((client.fetchFile transport repository ref (.str path)).on here) := by
  unfold fetchFile
  rw [Attempt.on_bind, Attempt.on_ofExcept]
  dsimp only [Json.textFor]
  rw [← contentsEndpoint, Attempt.on_outcome_bind failed]
  dsimp only
  split
  · next absent => exact ⟨rfl, fun there => by simp [absent] at there⟩
  · exact ⟨rfl, fun _ => rfl⟩

theorem part?_branchHead {repository : Json} (next : part? (.branchHead repository) replies = some part)
    : replies = [] ∧ part = .repository repository
      ∨ ∃ about fields,
          replies = [about]
          ∧ about.json = .ok (.obj fields)
          ∧ part = .tip repository (Json.getD fields "default_branch" (.str "master")) := by
  match replies with
  | [] => exact .inl ⟨rfl, (Option.some.inj next).symm⟩
  | [about] =>
      rw [part?] at next
      split at next
      · next fields said => exact .inr ⟨about, fields, rfl, said, (Option.some.inj next).symm⟩
      · cases next
  | _ :: _ :: _ => cases next

/-- Once the name of the default branch is told, its tip is asked for. -/
theorem part?_branchHead_of_told {about : Reply} {fields : Json.Fields} (repository : Json)
    (said : about.json = .ok (.obj fields))
    : part? (.branchHead repository) [about]
      = some (.tip repository (Json.getD fields "default_branch" (.str "master"))) := by
  rw [part?, said]

/-- Once the name of the default branch is told, what is left is to ask for its tip. -/
theorem on_branchHead_of_told {repository : Json} {about : Reply} {fields : Json.Fields}
    (made : (Call.mk start (.repository repository)).made client transport = (.ok about, here))
    (said : about.json = .ok (.obj fields))
    : (client.branchHead transport repository).on start
      = (client.askFor transport (.tip repository (Json.getD fields "default_branch" (.str "master")))
          >>= fun commit => Attempt.ofExcept (commit.entry "sha")).on here := by
  rw [branchHead_eq, Attempt.on_bind, on_askFor_of_replied made, said]
  rfl

/-- With a call that fails a question is over, and fails like it, unless it is only told that a file is not
there, by cases on the question.
-/
theorem Reaches.passesOn (reaches : client.Reaches transport question start replies here)
    (next : part? question replies = some part)
    (failed : (Call.mk here part).made client transport = (.error failure, last))
    : PassesOn failure last (((client.host transport).answer question).on start) := by
  cases question with
  | pullRequest repository number =>
      obtain rfl := eq_nil_of_pullRequest next
      obtain rfl := reaches.eq_start
      obtain rfl := Option.some.inj next
      exact PassesOn.map (.of_eq (on_askFor_of_failed failed)) some
  | branchHead repository =>
      suffices ended : (client.branchHead transport repository).on start = (.error failure, last) from
        PassesOn.map (.of_eq ended) some
      rcases part?_branchHead next with ⟨rfl, rfl⟩ | ⟨about, fields, rfl, said, rfl⟩
      · obtain rfl := reaches.eq_start
        rw [branchHead_eq, Attempt.on_bind, on_askFor_of_failed failed]
      · obtain ⟨part, first, made⟩ := reaches.exists_first
        obtain rfl := Option.some.inj first
        rw [on_branchHead_of_told made said, Attempt.on_bind, on_askFor_of_failed failed]
  | changedFiles repository number =>
      obtain ⟨full, rfl⟩ := part?_changedFiles next
      have unturned : (client.page transport (filesEndpoint repository number) (replies.length + 1)).on here
          = (.error failure, last) := by
        rw [page_eq, Attempt.on_bind, on_askFor_of_failed failed]
      have ended : (client.changedFiles transport repository number).on start = (.error failure, last) := by
        show (client.listFrom transport (filesEndpoint repository number) 1 [] start).getD _ = _
        rw [reaches.listFrom_eq full, (Turns.done _ here).listFrom_of_error unturned]
        rfl
      rw [answer_changedFiles]
      exact (PassesOn.of_eq ended).map _
  | file repository ref path =>
      obtain rfl := eq_nil_of_file next
      obtain rfl := reaches.eq_start
      cases path with
      | str path =>
          obtain rfl := Option.some.inj next
          exact passesOn_fetchFile failed
      | _ => cases next

-----------------------------------------------------------------------------------------
-- Questions that are over
-----------------------------------------------------------------------------------------

theorem snd_on_fetchFile {repository ref : Json} {path : String}
    (made : (Call.mk start (.contents repository ref path)).made client transport = (.ok reply, here))
    : ((client.fetchFile transport repository ref (.str path)).on start).2 = here := by
  have replied : (client.request transport (contentsEndpoint repository path) [("ref", ref)]).on start
      = (.ok reply, here) := made
  unfold fetchFile
  rw [Attempt.on_bind, Attempt.on_ofExcept]
  dsimp only [Json.textFor]
  rw [← contentsEndpoint, Attempt.on_outcome_bind replied]
  rfl

/-- A repository whose default branch is not told has no tip. -/
theorem snd_on_branchHead_of_untold {repository : Json} {about : Reply}
    (made : (Call.mk start (.repository repository)).made client transport = (.ok about, here))
    (untold : part? (.branchHead repository) [about] = none)
    : ((client.branchHead transport repository).on start).2 = here := by
  rw [branchHead_eq, Attempt.on_bind, on_askFor_of_replied made]
  rw [part?] at untold
  cases said : about.json with
  | error failure => rfl
  | ok answer =>
      cases answer with
      | obj fields => simp [said] at untold
      | _ => rfl

/-- A listing ends with a page that is not full or cannot be read. -/
theorem snd_on_changedFiles {repository number : Json}
    (reaches : client.Reaches transport (.changedFiles repository number) start replies here)
    (full : ∀ reply ∈ replies, reply.IsFull)
    (made : (Call.mk here (.files repository number (replies.length + 1))).made client transport
      = (.ok reply, last))
    (short : ¬ reply.IsFull)
    : ((client.changedFiles transport repository number).on start).2 = last := by
  show ((client.listFrom transport (filesEndpoint repository number) 1 [] start).getD _).2 = _
  obtain ⟨result, turned, lists⟩ := on_page_of_replied made
  have turned : (client.page transport (filesEndpoint repository number) (replies.length + 1)).on here
      = (result, last) := turned
  rw [reaches.listFrom_eq full]
  cases result with
  | error failure =>
      rw [(Turns.done _ here).listFrom_of_error turned]
      rfl
  | ok entries =>
      have short : entries.length < pageSize :=
        Nat.not_le.mp fun enough => short ⟨entries, lists.symm, enough⟩
      rw [listFrom_of_short turned short]
      rfl

/-- A question that no call is left for is over where its calls led to, by cases on the question. -/
theorem Reaches.snd_on_answer (reaches : client.Reaches transport question start replies here)
    (none : part? question replies = none)
    : (((client.host transport).answer question).on start).2 = here := by
  cases reaches with
  | asked =>
      cases question with
      | file repository ref path =>
          cases path with
          | str path => cases none
          | _ => rfl
      | changedFiles repository number => simp [part?] at none
      | _ => cases none
  | @replied replies before after part reply earlier next made =>
      cases question with
      | pullRequest repository number =>
          obtain rfl := eq_nil_of_pullRequest next
          obtain rfl := earlier.eq_start
          obtain rfl := Option.some.inj next
          show ((some <$> client.pullRequest transport repository number).on before).2 = _
          rw [Attempt.on_map, pullRequest_eq, on_askFor_of_replied made]
      | branchHead repository =>
          show ((some <$> client.branchHead transport repository).on start).2 = _
          rw [Attempt.on_map]
          rcases part?_branchHead next with ⟨rfl, rfl⟩ | ⟨about, fields, rfl, said, rfl⟩
          · obtain rfl := earlier.eq_start
            exact snd_on_branchHead_of_untold made none
          · obtain ⟨part, first, told⟩ := earlier.exists_first
            obtain rfl := Option.some.inj first
            rw [on_branchHead_of_told told said, Attempt.on_bind, on_askFor_of_replied made]
            cases reply.json <;> rfl
      | changedFiles repository number =>
          obtain ⟨full, rfl⟩ := part?_changedFiles next
          rw [answer_changedFiles, Attempt.on_map]
          refine snd_on_changedFiles earlier full made fun enough => ?_
          have all : ∀ reply ∈ replies ++ [_], Reply.IsFull reply :=
            List.forall_mem_append.mpr ⟨full, List.forall_mem_singleton.mpr enough⟩
          cases (part?_changedFiles_of_isFull repository number all).symm.trans none
      | file repository ref path =>
          obtain rfl := eq_nil_of_file next
          obtain rfl := earlier.eq_start
          cases path with
          | str path =>
              obtain rfl := Option.some.inj next
              exact snd_on_fetchFile made
          | _ => cases next

-----------------------------------------------------------------------------------------
-- Ends
-----------------------------------------------------------------------------------------

/-- (client.Ends transport question start last) says that the calls for a question come to an end, and where:
there is none left to make, or one of them fails.
-/
inductive Ends (client : Client) (transport : Transport σ) (question : Question) (start : Connection σ)
    : Connection σ → Prop where
  | complete {replies : List Reply} {here : Connection σ}
    (reaches : client.Reaches transport question start replies here)
    (none : part? question replies = none)
    : Ends client transport question start here
  | failed {replies : List Reply} {here last : Connection σ} {part : Part} {failure : Failure}
    (reaches : client.Reaches transport question start replies here)
    (next : part? question replies = some part)
    (failed : (Call.mk here part).made client transport = (.error failure, last))
    : Ends client transport question start last

/-- The calls for a question end where its answer does. -/
theorem Ends.snd_on_answer (ends : client.Ends transport question start last)
    : (((client.host transport).answer question).on start).2 = last := by
  cases ends with
  | complete reaches none => exact reaches.snd_on_answer none
  | failed reaches next failed => exact (reaches.passesOn next failed).1

/-- Calls that did not fail yet are at their end, or are followed by one that does not fail either. -/
theorem Reaches.ends_or (reaches : client.Reaches transport question start replies here)
    : (∃ last, client.Ends transport question start last)
      ∨ ∃ part reply after,
          part? question replies = some part
          ∧ (Call.mk here part).made client transport = (.ok reply, after) := by
  cases next : part? question replies with
  | none => exact .inl ⟨_, .complete reaches next⟩
  | some part =>
      cases made : (Call.mk here part).made client transport with
      | mk result after =>
          cases result with
          | error failure => exact .inl ⟨_, .failed reaches next made⟩
          | ok reply => exact .inr ⟨part, reply, after, rfl, made⟩

/-- The calls for a question end when there is none left after two. -/
theorem exists_ends_of_two (short : ∀ first second, part? question [first, second] = none)
    : ∃ last, client.Ends transport question start last := by
  have fresh : client.Reaches transport question start [] start := .asked
  rcases fresh.ends_or with ends | ⟨part, first, after, next, made⟩
  · exact ends
  · have once := fresh.replied next made
    rcases once.ends_or with ends | ⟨part, second, after, next, made⟩
    · exact ends
    · exact ⟨_, .complete (once.replied next made) (short first second)⟩

/-- The calls for a listing end when it does, by induction on its pages. -/
theorem Reaches.exists_ends {repository number : Json} {ended : Except Failure (List Json) × Connection σ}
    {before : List Json}
    (reaches : client.Reaches transport (.changedFiles repository number) start replies here)
    (full : ∀ reply ∈ replies, reply.IsFull)
    (listed : client.listFrom transport (filesEndpoint repository number) (replies.length + 1) before here
      = some ended)
    : ∃ last, client.Ends transport (.changedFiles repository number) start last := by
  generalize turning : replies.length + 1 = page at listed
  refine listFrom.partial_correctness client transport (filesEndpoint repository number)
    (fun page _ here _ => ∀ replies,
      client.Reaches transport (.changedFiles repository number) start replies here →
      (∀ reply ∈ replies, reply.IsFull) → replies.length + 1 = page →
        ∃ last, client.Ends transport (.changedFiles repository number) start last)
    ?_ page before here ended listed replies reaches full turning
  rintro listFrom ih _ before here ended listed replies reaches full rfl
  rcases reaches.ends_or with ends | ⟨part, reply, after, next, made⟩
  · exact ends
  · have later := reaches.replied next made
    obtain ⟨-, rfl⟩ := part?_changedFiles next
    by_cases more : reply.IsFull
    · have all : ∀ other ∈ replies ++ [reply], other.IsFull :=
        List.forall_mem_append.mpr ⟨full, List.forall_mem_singleton.mpr more⟩
      obtain ⟨entries, lists, enough⟩ := more
      rw [on_page_of_made made lists] at listed
      dsimp only at listed
      rw [if_neg (Nat.not_lt.mpr enough)] at listed
      exact ih _ _ _ _ listed _ later all (by simp)
    · refine ⟨after, .complete later ?_⟩
      exact part?_changedFiles_of_not_isFull more

/-- The calls for a question end when its answer is heard. -/
theorem Hears.exists_ends (hears : client.Hears transport start question)
    : ∃ last, client.Ends transport question start last := by
  cases question with
  | changedFiles repository number =>
      obtain ⟨ended, listed⟩ := Option.isSome_iff_exists.mp hears
      exact Reaches.asked.exists_ends (List.forall_mem_nil _) listed
  | file repository ref path => exact exists_ends_of_two fun _ _ => by cases path <;> rfl
  | _ => exact exists_ends_of_two fun _ _ => rfl

-----------------------------------------------------------------------------------------
-- Courses
-----------------------------------------------------------------------------------------

/-- (client.Proceeds transport question start replies here) says what becomes of a question once its calls were
replied to like this. With a call that fails it is over, and without one to make as well. A listing is one
of the pages to come, behind the entries that were replied, so that it goes on even if it has no end.
-/
structure Proceeds (client : Client) (transport : Transport σ) (question : Question) (start : Connection σ)
    (replies : List Reply) (here : Connection σ)
    : Prop where
  fails : ∀ part failure last,
    part? question replies = some part →
      (Call.mk here part).made client transport = (.error failure, last) →
        PassesOn failure last (((client.host transport).answer question).on start)
  ends : part? question replies = none → (((client.host transport).answer question).on start).2 = here
  goesOn : ∀ repository number,
    question = .changedFiles repository number → (∀ reply ∈ replies, reply.IsFull) →
      client.listFrom transport (filesEndpoint repository number) 1 [] start
        = client.listFrom transport (filesEndpoint repository number) (replies.length + 1)
            (replies.flatMap fun reply => reply.entries?.getD []) here

theorem Reaches.proceeds (reaches : client.Reaches transport question start replies here)
    : client.Proceeds transport question start replies here where
  fails _ _ _ := reaches.passesOn
  ends := reaches.snd_on_answer
  goesOn := by
    rintro repository number rfl full
    exact reaches.listFrom_eq full

/-- (client.Answered transport first questions last) says that a client was asked questions one after the other
and heard an answer to each, whatever it was.
-/
inductive Answered (client : Client) (transport : Transport σ) (first : Connection σ)
    : List Question → Connection σ → Prop where
  | start : Answered client transport first [] first
  | answer {questions : List Question} {here : Connection σ} {question : Question}
    (earlier : Answered client transport first questions here)
    (hears : client.Hears transport here question)
    : Answered client transport first (questions ++ [question])
        (((client.host transport).answer question).on here).2

end Client

end PatchReview.Hosting
