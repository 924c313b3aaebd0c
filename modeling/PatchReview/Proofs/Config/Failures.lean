import PatchReview.Config.Resolver
import PatchReview.Proofs.Attempt
import PatchReview.Proofs.Json.Reading

/-! When looking for a configuration fails. A fetch that goes wrong and a document that is no
configuration are passed over, but a document also stops the search when reading it fails in another
way: on a number that is too long, a date that does not exist, or a tag that its text does not fit.
-/

namespace PatchReview

variable {σ : Type}

-----------------------------------------------------------------------------------------
-- Steps that fail in one way
-----------------------------------------------------------------------------------------

section OneFailure

variable {ε α β : Type} {only : ε} {Fails : α → Prop}

/-- Two steps that can fail in one way only fail when one of them does, by cases on the first. -/
theorem Except.bind_fails_iff {first : Except ε α} {next : α → Except ε β} {here later : Prop}
    (single : ∀ failure, first = .error failure ↔ failure = only ∧ here)
    (singleNext : ∀ value failure, next value = .error failure ↔ failure = only ∧ later) {failure : ε}
    : first >>= next = .error failure ↔ failure = only ∧ (here ∨ later) := by
  rw [Except.bind_eq_error_iff, single]
  constructor
  · rintro (⟨rfl, fails⟩ | ⟨value, -, failed⟩)
    · exact ⟨rfl, Or.inl fails⟩
    · obtain ⟨rfl, fails⟩ := (singleNext value failure).mp failed
      exact ⟨rfl, Or.inr fails⟩
  · rintro ⟨rfl, either⟩
    cases made : first with
    | error earlier => exact Or.inl ⟨rfl, ((single earlier).mp made).2⟩
    | ok value =>
        rcases either with fails | fails
        · rw [(single failure).mpr ⟨rfl, fails⟩] at made
          cases made
        · exact Or.inr ⟨value, rfl, (singleNext value failure).mpr ⟨rfl, fails⟩⟩

/-- What is made of a value fails when there is none. -/
theorem Except.bind_pure_eq_error_iff {first : Except ε α} {f : α → β} {failure : ε}
    : (first >>= fun value => pure (f value)) = .error failure ↔ first = .error failure := by
  rw [Except.bind_eq_error_iff]
  simp [pure, Except.pure]

/-- Where each item can fail in one way only, steps for all items fail when one of them does, by
induction on the items.
-/
theorem Except.mapM_eq_error_iff {step : α → Except ε β}
    (single : ∀ item failure, step item = .error failure ↔ failure = only ∧ Fails item)
    {items : List α} {failure : ε}
    : items.mapM step = .error failure ↔ failure = only ∧ ∃ item ∈ items, Fails item := by
  induction items generalizing failure with
  | nil => simp [pure, Except.pure]
  | cons item rest ih =>
      simp only [List.mapM_cons, List.mem_cons, exists_eq_or_imp]
      refine Except.bind_fails_iff (single item) fun value fault => ?_
      rw [Except.bind_pure_eq_error_iff]
      exact ih

/-- Where each item can fail in one way only, whatever came before it, a run over all items fails when
one of them does, by induction on the items.
-/
theorem Except.foldlM_eq_error_iff {step : β → α → Except ε β}
    (single : ∀ before item failure, step before item = .error failure ↔ failure = only ∧ Fails item)
    {items : List α} {start : β} {failure : ε}
    : items.foldlM step start = .error failure ↔ failure = only ∧ ∃ item ∈ items, Fails item := by
  induction items generalizing start failure with
  | nil => simp [pure, Except.pure]
  | cons item rest ih =>
      simp only [List.foldlM_cons, List.mem_cons, exists_eq_or_imp]
      exact Except.bind_fails_iff (single start item) fun _ _ => ih

end OneFailure

-----------------------------------------------------------------------------------------
-- Documents that fail
-----------------------------------------------------------------------------------------

/-- (Config.FailsWith document failure) says that a JSON document stops a search: it has a number that
cannot be read, or is no text.
-/
inductive Config.FailsWith : Json → Failure → Prop where
  | number {text fault} (read : Json.parse text = .error (.number fault))
    : FailsWith (.str text) (.number fault)
  | noText {document} (other : ∀ text, document ≠ .str text)
    : FailsWith document (.misuse (.document document.kind))

/-- A key that is a number with too many digits has no text. -/
def Scalar.Oversized (key : Scalar) : Prop :=
  ∃ n, key = .int n ∧ Nat.pow 10 Integer.maxDigits ≤ n.natAbs

/-- An entry is a section with a key, its own or that of an option, that has no text. -/
def Switches.OversizedSection (content : Datum.Entries) (entry : Scalar × Datum) : Prop :=
  ∃ options,
    Switches.entriesOf? content entry.2 = some options
    ∧ (entry.1.Oversized ∨ ∃ option ∈ options, option.1.Oversized)

/-- (Switches.FailsWith document failure) says that a YAML document stops a search: reading it fails, but
not because it is no YAML, or it has a section with a key that is too long, or it is no text.
-/
inductive Switches.FailsWith : Json → Failure → Prop where
  | yaml {text failure} (filled : text ≠ "") (read : Datum.ofYaml text = .error failure)
    (other : failure ≠ .yaml)
    : FailsWith (.str text) failure
  | key {text content entry} (filled : text ≠ "") (read : Datum.ofYaml text = .ok (.map content))
    (member : entry ∈ content) (oversized : Switches.OversizedSection content entry)
    : FailsWith (.str text) (.number .unwritable)
  | noText {document : Json} (truthy : document.isTruthy = true) (other : ∀ text, document ≠ .str text)
    : FailsWith document (.misuse (.operation document.kind "read"))

/-- A JSON document fails to be read, other than as no configuration, when it stops a search. -/
theorem Config.ofDocument_fails_iff {repository path document : Json} {failure : Failure}
    : Config.ofDocument repository path document = .error failure ∧ failure.isConfig = false
      ↔ Config.FailsWith document failure := by
  constructor
  · rintro ⟨failed, other⟩
    cases document with
    | str text =>
        simp only [Config.ofDocument, Config.ofText] at failed
        split at failed
        · cases failed
          cases other
        · next fault malformed read =>
            -- Without a limit on brackets only a number is left to stop at.
            cases fault with
            | malformed problem place => exact absurd rfl (malformed problem place)
            | number fault =>
                cases failed
                exact .number read
            | tooDeep bracket => exact absurd read (Json.parse_ne_tooDeep text bracket)
        · cases failed
        · cases failed
          cases other
    | null | bool | int | float | arr | obj =>
        cases failed
        exact .noText nofun
  · intro fails
    cases fails with
    | number read => exact ⟨by simp only [Config.ofDocument, Config.ofText, read, Failure.ofJson], rfl⟩
    | noText other =>
        refine ⟨?_, rfl⟩
        cases document with
        | str text => exact absurd rfl (other text)
        | null | bool | int | float | arr | obj => rfl

/-- A key has no text when it is too long. -/
theorem Scalar.keyText_eq_error_iff (key : Scalar) (failure : Failure)
    : key.keyText = .error failure ↔ failure = .number .unwritable ∧ key.Oversized := by
  cases key with
  | int n =>
      have oversized : (Scalar.int n).Oversized ↔ ¬ n.natAbs < Nat.pow 10 Integer.maxDigits := by
        constructor
        · rintro ⟨_, same, long⟩
          obtain rfl := Scalar.int.inj same
          exact Nat.not_lt_of_le long
        · exact fun long => ⟨n, rfl, Nat.le_of_not_lt long⟩
      rw [oversized, Scalar.keyText, Integer.toText]
      by_cases within : n.natAbs < Nat.pow 10 Integer.maxDigits
      · rw [if_pos within]
        exact ⟨nofun, fun long => absurd within long.2⟩
      · rw [if_neg within]
        constructor
        · intro failed
          cases failed
          exact ⟨rfl, within⟩
        · rintro ⟨rfl, -⟩
          rfl
  | null | bool | float | str | date | moment | bytes => simp [Scalar.keyText, Scalar.Oversized]

namespace Switches

/-- The entries of a section have texts unless the key of an option is too long. -/
theorem sectionEntries_eq_error_iff {options : Datum.Entries} {failure : Failure}
    : sectionEntries options = .error failure
      ↔ failure = .number .unwritable ∧ ∃ option ∈ options, option.1.Oversized := by
  have single (option : Scalar × Datum) (failure : Failure)
      : (do return (← option.1.keyText, option.2) : Except Failure (String × Datum)) = .error failure
        ↔ failure = .number .unwritable ∧ option.1.Oversized := by
    rw [Except.bind_pure_eq_error_iff, Scalar.keyText_eq_error_iff]
  rw [← Except.mapM_eq_error_iff single, sectionEntries, Except.bind_pure_eq_error_iff]

/-- An entry of a document is read unless it is a section with a key that is too long. -/
theorem readEntry_eq_error_iff (content : Datum.Entries) (before : List (String × LinterOptions))
    (entry : Scalar × Datum) (failure : Failure)
    : readEntry content before entry = .error failure
      ↔ failure = .number .unwritable ∧ OversizedSection content entry := by
  unfold readEntry OversizedSection
  cases isSection : entriesOf? content entry.2 with
  | none => simp
  | some options =>
      simp only [Option.some.injEq, exists_eq_left', or_comm (a := entry.1.Oversized)]
      refine Except.bind_fails_iff (fun _ => sectionEntries_eq_error_iff) fun entries fault => ?_
      rw [Except.bind_pure_eq_error_iff, Scalar.keyText_eq_error_iff]

/-- The entries of a document are read unless one is a section with a key that is too long. -/
theorem ofEntries_eq_error_iff {content : Datum.Entries} {failure : Failure}
    : ofEntries content = .error failure
      ↔ failure = .number .unwritable ∧ ∃ entry ∈ content, OversizedSection content entry := by
  have run : content.foldlM (readEntry content) [] = .error failure ↔ _ :=
    Except.foldlM_eq_error_iff (readEntry_eq_error_iff content)
  rw [← run, ofEntries, Except.bind_pure_eq_error_iff]

/-- A YAML document fails to be read, other than as an invalid one, when it stops a search. -/
theorem ofDocument_fails_iff {document : Json} {failure : Failure}
    (other : ∀ fault repository path, failure ≠ .configParse fault repository path)
    : ofDocument document = .error failure ↔ FailsWith document failure := by
  constructor
  · intro failed
    unfold ofDocument at failed
    split at failed
    · cases failed
    · next truthy =>
        split at failed
        · next text =>
            have filled : text ≠ "" := by
              rintro rfl
              exact truthy rfl
            unfold ofText at failed
            split at failed
            · cases failed
            · split at failed
              · cases failed
                exact absurd rfl (other _ _ _)
              · next given notYaml read =>
                  cases failed
                  exact .yaml filled read notYaml
              · cases failed
              · next content read =>
                  obtain ⟨rfl, entry, member, oversized⟩ := ofEntries_eq_error_iff.mp failed
                  exact .key filled read member oversized
              · cases failed
                exact absurd rfl (other _ _ _)
        · next noText =>
            cases failed
            exact .noText (by simpa using truthy) noText
  · intro fails
    have ofFilled {text : String} (filled : text ≠ "") : ofDocument (.str text) = ofText text := by
      simp [ofDocument, Json.isTruthy, filled]
    cases fails with
    | yaml filled read notYaml =>
        rw [ofFilled filled, ofText, if_neg (by simpa using filled), read]
        split <;> simp_all
    | key filled read member oversized =>
        rw [ofFilled filled, ofText, if_neg (by simpa using filled), read]
        exact ofEntries_eq_error_iff.mpr ⟨rfl, _, member, oversized⟩
    | noText truthy noText =>
        rw [ofDocument, if_neg (by simpa using truthy)]
        exact noText

end Switches

-----------------------------------------------------------------------------------------
-- Searches that fail
-----------------------------------------------------------------------------------------

/-- (Candidate.Fails host repository ref failure state candidate) says that a document on the way of a
candidate stops the search.
-/
inductive Candidate.Fails (host : Host σ) (repository ref : Json) (failure : Failure)
    : σ → Candidate → Prop where
  | fixed {path document state last}
    (fetched : (host.fetchFile repository ref path).on state = (.ok (some document), last))
    (fails : Config.FailsWith document failure)
    : Fails host repository ref failure state (.fixed path)
  | pointer {linter pointer document state last}
    (fetched : (host.fetchFile repository ref pointer).on state = (.ok (some document), last))
    (fails : Switches.FailsWith document failure) (other : failure.isConfig = false)
    : Fails host repository ref failure state (.pointed linter pointer)
  | target {name path : String} {pointer document target switches state middle last}
    (fetched : (host.fetchFile repository ref pointer).on state = (.ok (some document), middle))
    (read : Switches.ofDocument document = .ok switches)
    (named : switches.configFileFor name = some path)
    (followed : (host.fetchFile repository ref (.str path)).on middle = (.ok (some target), last))
    (fails : Config.FailsWith target failure)
    : Fails host repository ref failure state (.pointed (.str name) pointer)

/-- (FailsFrom host repository ref failure state candidates) says that one of the candidates stops the
search after those before it were passed over.
-/
inductive Candidate.FailsFrom (host : Host σ) (repository ref : Json) (failure : Failure)
    : σ → List Candidate → Prop where
  | here {state candidate rest} (fails : candidate.Fails host repository ref failure state)
    : FailsFrom host repository ref failure state (candidate :: rest)
  | later {state reached candidate rest fault}
    (unavailable : (candidate.load host repository ref).on state = (.error fault, reached))
    (passed : fault.isConfig = true) (below : FailsFrom host repository ref failure reached rest)
    : FailsFrom host repository ref failure state (candidate :: rest)

/-- A document is fetched when the host has it. -/
theorem Config.fetch_eq_ok_iff {host : Host σ} {repository ref path document : Json} {state last : σ}
    : (Config.fetch host repository ref path).on state = (.ok document, last)
      ↔ (host.fetchFile repository ref path).on state = (.ok (some document), last) := by
  cases ended : (host.fetchFile repository ref path).on state with
  | mk result reached =>
      rw [Config.fetch, Attempt.on_outcome_bind ended]
      cases result with
      | error failure => simp
      | ok found => cases found <;> simp

/-- Whatever goes wrong with a fetch is a failure of a configuration. -/
theorem Config.isConfig_of_fetch {host : Host σ} {repository ref path : Json} {state last : σ}
    {failure : Failure}
    (failed : (Config.fetch host repository ref path).on state = (.error failure, last))
    : failure.isConfig = true := by
  cases ended : (host.fetchFile repository ref path).on state with
  | mk result reached =>
      rw [Config.fetch, Attempt.on_outcome_bind ended] at failed
      cases result with
      | error fault =>
          cases failed
          rfl
      | ok found =>
          cases found with
          | none =>
              cases failed
              rfl
          | some document => cases failed

/-- A configuration fails to be fetched, other than as one that is not to be had, when its document stops
the search.
-/
theorem Config.load_fails_iff {host : Host σ} {repository ref path : Json} {state last : σ}
    {failure : Failure}
    : (Config.load host repository ref path).on state = (.error failure, last)
        ∧ failure.isConfig = false
      ↔ ∃ document,
          (host.fetchFile repository ref path).on state = (.ok (some document), last)
          ∧ Config.FailsWith document failure := by
  rw [Config.load, Attempt.on_bind_eq_error_iff]
  constructor
  · rintro ⟨failed | ⟨document, reached, fetched, failed⟩, other⟩
    · rw [Config.isConfig_of_fetch failed] at other
      cases other
    · rw [Attempt.on_ofExcept] at failed
      obtain ⟨unread, rfl⟩ := Prod.mk.inj failed
      exact ⟨document, Config.fetch_eq_ok_iff.mp fetched, Config.ofDocument_fails_iff.mp ⟨unread, other⟩⟩
  · rintro ⟨document, fetched, fails⟩
    obtain ⟨failed, other⟩ := Config.ofDocument_fails_iff.mpr fails
    refine ⟨Or.inr ⟨document, last, Config.fetch_eq_ok_iff.mpr fetched, ?_⟩, other⟩
    rw [Attempt.on_ofExcept, failed]

/-- A failure that is none of a configuration is none of an invalid document. -/
theorem Failure.ne_configParse {failure : Failure} (other : failure.isConfig = false)
    : ∀ fault repository path, failure ≠ .configParse fault repository path := by
  rintro fault repository path rfl
  cases other

/-- A candidate for a linter that is named fails, other than as one without a configuration, when a
document on its way stops the search.
-/
theorem Candidate.load_pointed_fails_iff {host : Host σ} {repository ref pointer : Json} {name : String}
    {state : σ} {failure : Failure}
    : (∃ last, ((Candidate.pointed (.str name) pointer).load host repository ref).on state
          = (.error failure, last))
        ∧ failure.isConfig = false
      ↔ (Candidate.pointed (.str name) pointer).Fails host repository ref failure state := by
  constructor
  · rintro ⟨⟨last, failed⟩, other⟩
    rcases Attempt.on_bind_eq_error_iff.mp failed with unfetched | ⟨document, middle, fetched, failed⟩
    · rw [Config.isConfig_of_fetch unfetched] at other
      cases other
    rcases Attempt.on_ofExcept_bind_eq_error_iff.mp failed with ⟨unread, -⟩ | ⟨switches, read, failed⟩
    · have fails := (Switches.ofDocument_fails_iff (Failure.ne_configParse other)).mp unread
      exact .pointer (Config.fetch_eq_ok_iff.mp fetched) fails other
    rcases Attempt.on_ofExcept_bind_eq_error_iff.mp failed with ⟨noText, -⟩ | ⟨spelled, same, failed⟩
    · cases noText
    obtain rfl : name = spelled := Except.ok.inj same
    split at failed
    · cases failed
      cases other
    · next path found =>
        obtain ⟨target, followed, fails⟩ := Config.load_fails_iff.mp ⟨failed, other⟩
        exact .target (Config.fetch_eq_ok_iff.mp fetched) read found followed fails
  · intro fails
    cases fails with
    | @pointer _ _ _ _ last fetched fails other =>
        have unread := (Switches.ofDocument_fails_iff (Failure.ne_configParse other)).mpr fails
        refine ⟨⟨last, Attempt.on_bind_eq_error_iff.mpr (Or.inr ?_)⟩, other⟩
        exact ⟨_, _, Config.fetch_eq_ok_iff.mpr fetched,
          Attempt.on_ofExcept_bind_eq_error_iff.mpr (Or.inl ⟨unread, rfl⟩)⟩
    | @target _ _ _ _ _ switches _ _ last fetched read found followed fails =>
        obtain ⟨failed, other⟩ := Config.load_fails_iff.mpr ⟨_, followed, fails⟩
        refine ⟨⟨last, Attempt.on_bind_eq_error_iff.mpr (Or.inr ?_)⟩, other⟩
        refine ⟨_, _, Config.fetch_eq_ok_iff.mpr fetched,
          Attempt.on_ofExcept_bind_eq_error_iff.mpr (Or.inr ⟨switches, read, ?_⟩)⟩
        refine Attempt.on_ofExcept_bind_eq_error_iff.mpr (Or.inr ⟨name, rfl, ?_⟩)
        rw [found]
        exact failed

/-- A candidate of a fixed file fails, other than as one without a configuration, when the file stops
the search.
-/
theorem Candidate.load_fixed_fails_iff {host : Host σ} {repository ref path : Json} {state : σ}
    {failure : Failure}
    : (∃ last, ((Candidate.fixed path).load host repository ref).on state = (.error failure, last))
        ∧ failure.isConfig = false
      ↔ (Candidate.fixed path).Fails host repository ref failure state := by
  constructor
  · rintro ⟨⟨last, failed⟩, other⟩
    obtain ⟨document, fetched, fails⟩ := Config.load_fails_iff.mp ⟨failed, other⟩
    exact .fixed fetched fails
  · intro fails
    cases fails with
    | fixed fetched fails =>
        obtain ⟨failed, other⟩ := Config.load_fails_iff.mpr ⟨_, fetched, fails⟩
        exact ⟨⟨_, failed⟩, other⟩

/-- A candidate for a linter that is named fails, other than as one without a configuration, when it stops
the search, by cases on what it is.
-/
theorem Candidate.load_fails_iff_of_mem {host : Host σ} {repository ref pointer : Json} {name : String}
    {legacy : List Json} {candidate : Candidate} {state : σ} {failure : Failure}
    (member : candidate ∈ Candidate.forLinter pointer (.str name) legacy)
    : (∃ last, (candidate.load host repository ref).on state = (.error failure, last))
        ∧ failure.isConfig = false
      ↔ candidate.Fails host repository ref failure state := by
  rcases List.mem_cons.mp member with rfl | fixed
  · exact Candidate.load_pointed_fails_iff
  · obtain ⟨path, -, rfl⟩ := List.mem_map.mp fixed
    exact Candidate.load_fixed_fails_iff

/-- A search through candidates fails when one of them stops it after those before it were passed over.
Witness: induction on the candidates, of which each fails when one of its documents stops the search.
-/
theorem Candidate.firstUsable_fails_iff {host : Host σ} {repository ref : Json} {failure : Failure}
    {candidates : List Candidate}
    (each : ∀ candidate ∈ candidates, ∀ state,
      (∃ last, (candidate.load host repository ref).on state = (.error failure, last))
          ∧ failure.isConfig = false
        ↔ candidate.Fails host repository ref failure state)
    {state : σ}
    : ((Candidate.firstUsable host repository ref candidates).on state).1 = .error failure
      ↔ Candidate.FailsFrom host repository ref failure state candidates := by
  induction candidates generalizing state with
  | nil => exact ⟨nofun, nofun⟩
  | cons candidate rest ih =>
      have here := each candidate List.mem_cons_self state
      have below (reached : σ)
          : ((Candidate.firstUsable host repository ref rest).on reached).1 = .error failure
            ↔ Candidate.FailsFrom host repository ref failure reached rest :=
        ih fun other member => each other (List.mem_cons_of_mem candidate member)
      cases ended : (candidate.load host repository ref).on state with
      | mk result reached =>
          rw [Candidate.firstUsable, Attempt.on_outcome_bind ended]
          constructor
          · intro failed
            cases result with
            | ok config => cases failed
            | error fault =>
                cases passed : fault.isConfig with
                | true =>
                    simp only [passed, if_true] at failed
                    exact .later ended passed ((below reached).mp failed)
                | false =>
                    simp only [passed, Bool.false_eq_true, if_false] at failed
                    cases failed
                    exact .here (here.mp ⟨⟨reached, ended⟩, passed⟩)
          · intro fails
            cases fails with
            | here fails =>
                obtain ⟨⟨last, failed⟩, other⟩ := here.mpr fails
                rw [failed] at ended
                cases ended
                simp [other]
            | later unavailable passed more =>
                rw [unavailable] at ended
                cases ended
                simpa [passed] using (below _).mpr more

/-- Looking for an owner's configuration fails when a candidate in the style repository stops it. -/
theorem Config.ofOwner_fails_iff {host : Host σ} {state : σ} {name : String} {failure : Failure}
    {pointer : Json} {owner : Owner} {legacy : List Json}
    : ((Config.ofOwner host pointer owner (.str name) legacy).on state).1 = .error failure
      ↔ ∃ repository ref reached,
          owner.styleRepository? = some repository
          ∧ (host.branchHead repository).on state = (.ok ref, reached)
          ∧ Candidate.FailsFrom host repository ref failure reached
              (Candidate.forLinter pointer (.str name) legacy) := by
  unfold Config.ofOwner
  cases owner.styleRepository? with
  | none => exact ⟨nofun, nofun⟩
  | some repository =>
      cases ended : (host.branchHead repository).on state with
      | mk result reached =>
          simp only [Attempt.on_outcome_bind ended]
          cases result with
          | error fault =>
              refine ⟨nofun, ?_⟩
              rintro ⟨_, ref, _, same, known, -⟩
              cases same
              rw [ended] at known
              cases known
          | ok ref =>
              rw [Candidate.firstUsable_fails_iff fun _ member _ => Candidate.load_fails_iff_of_mem member]
              constructor
              · exact fun fails => ⟨repository, ref, reached, rfl, ended, fails⟩
              · rintro ⟨_, _, _, same, known, fails⟩
                cases same
                rw [ended] at known
                cases known
                exact fails

/-- Looking for a repository's own configuration fails when the file that is named stops it. -/
theorem Config.ofRepository_fails_iff {host : Host σ} {state : σ} {name : String} {failure : Failure}
    {build : Build} {switches : Switches}
    : ((Config.ofRepository host build switches (.str name)).on state).1 = .error failure
      ↔ ∃ path document last,
          switches.configFileFor name = some path
          ∧ (host.fetchFile build.repository (.str build.commit) (.str path)).on state
            = (.ok (some document), last)
          ∧ Config.FailsWith document failure := by
  have named : Attempt.ofExcept (Json.textFor "lower" (.str name)) = (pure name : Attempt σ String) := rfl
  rw [Config.ofRepository, named, pure_bind]
  dsimp only
  cases found : switches.configFileFor name with
  | none => exact ⟨nofun, nofun⟩
  | some path =>
      cases ended : (Config.load host build.repository (.str build.commit) (.str path)).on state with
      | mk result last =>
          simp only [Attempt.on_outcome_bind ended]
          constructor
          · intro failed
            cases result with
            | ok config => cases failed
            | error fault =>
                cases passed : fault.isConfig with
                | true => simp [passed] at failed
                | false =>
                    simp only [passed, Bool.false_eq_true, if_false] at failed
                    cases failed
                    obtain ⟨document, fetched, fails⟩ := Config.load_fails_iff.mp ⟨ended, passed⟩
                    exact ⟨path, document, last, rfl, fetched, fails⟩
          · rintro ⟨_, document, _, same, fetched, fails⟩
            cases same
            obtain ⟨failed, other⟩ := Config.load_fails_iff.mpr ⟨document, fetched, fails⟩
            rw [failed] at ended
            cases ended
            simp [other]

/-- Fetching the switches of a repository fails when their document stops it. -/
theorem Switches.load_fails_iff {host : Host σ} {state : σ} {repository ref path : Json}
    {failure : Failure}
    : ((Switches.load host repository ref path).on state).1 = .error failure
      ↔ ∃ document last,
          (host.fetchFile repository ref path).on state = (.ok (some document), last)
          ∧ Switches.FailsWith document failure
          ∧ ∀ fault repository path, failure ≠ .configParse fault repository path := by
  cases ended : (host.fetchFile repository ref path).on state with
  | mk result last =>
      rw [Switches.load, Attempt.on_outcome_bind ended]
      cases result with
      | error fault => exact ⟨nofun, nofun⟩
      | ok found =>
          cases found with
          | none => exact ⟨nofun, nofun⟩
          | some document =>
              constructor
              · intro failed
                dsimp only at failed
                split at failed
                · cases failed
                · cases failed
                · next fault other unread =>
                    cases failed
                    have fails := (Switches.ofDocument_fails_iff other).mp unread
                    exact ⟨document, last, rfl, fails, other⟩
              · rintro ⟨_, _, same, fails, other⟩
                cases same
                have unread := (Switches.ofDocument_fails_iff other).mpr fails
                dsimp only
                rw [unread]
                split <;> simp_all

/-- The search for a configuration of a linter fails with the failure of a document that stops it, and in
no other way: for an owner when a candidate has such a document after those before it were passed over,
for a repository when the file that is named is one, and for the switches when their document is one.
-/
theorem Config.search_fails_iff (host : Host σ) (state : σ) (name : String) (failure : Failure)
    : (∀ pointer owner legacy,
        ((Config.ofOwner host pointer owner (.str name) legacy).on state).1 = .error failure
          ↔ ∃ repository ref reached,
              owner.styleRepository? = some repository
              ∧ (host.branchHead repository).on state = (.ok ref, reached)
              ∧ Candidate.FailsFrom host repository ref failure reached
                  (Candidate.forLinter pointer (.str name) legacy))
      ∧ (∀ build switches,
          ((Config.ofRepository host build switches (.str name)).on state).1 = .error failure
            ↔ ∃ path document last,
                switches.configFileFor name = some path
                ∧ (host.fetchFile build.repository (.str build.commit) (.str path)).on state
                  = (.ok (some document), last)
                ∧ Config.FailsWith document failure)
      ∧ (∀ repository ref path,
          ((Switches.load host repository ref path).on state).1 = .error failure
            ↔ ∃ document last,
                (host.fetchFile repository ref path).on state = (.ok (some document), last)
                ∧ Switches.FailsWith document failure
                ∧ ∀ fault repository path, failure ≠ .configParse fault repository path) :=
  ⟨fun _ _ _ => Config.ofOwner_fails_iff, fun _ _ => Config.ofRepository_fails_iff,
    fun _ _ _ => Switches.load_fails_iff⟩

/-- A host that has one document, with a date that does not exist, under every path. -/
def impossibleDateHost : Host Unit where
  pullRequest _ _ := throw .endless
  changedFiles _ _ := throw .endless
  branchHead _ := return .str "head"
  fetchFile _ _ _ := return some (.str "a: 2001-99-99")

/-- Neither the switches of a repository nor an owner's configuration come from the host whose document
has such a date.
-/
theorem Config.search_impossibleDateHost
    : (¬ ∃ switches,
        ((Switches.load impossibleDateHost (.str "o/r") (.str "abc") (.str ".hound.yml")).on ()).1
          = .ok switches)
      ∧ ¬ ∃ config,
          ((Config.ofOwner impossibleDateHost (.str ".hound.yml") ⟨"o", true, .str "o/style"⟩
              (.str "coffeescript") []).on ()).1
            = .ok config := by
  have unloaded
      : ((Switches.load impossibleDateHost (.str "o/r") (.str "abc") (.str ".hound.yml")).on
          ()).1.toOption.isNone = true := by
    decide +kernel
  have unresolved
      : ((Config.ofOwner impossibleDateHost (.str ".hound.yml") ⟨"o", true, .str "o/style"⟩
          (.str "coffeescript") []).on ()).1.toOption.isNone = true := by
    decide +kernel
  refine ⟨?_, ?_⟩
  · rintro ⟨switches, loaded⟩
    rw [loaded] at unloaded
    cases unloaded
  · rintro ⟨config, resolved⟩
    rw [resolved] at unresolved
    cases unresolved

end PatchReview
