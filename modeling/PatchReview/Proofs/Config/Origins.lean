import PatchReview.Proofs.Config.Fetches
import PatchReview.Proofs.Json.Access
import PatchReview.Proofs.Yaml.Documents

/-! What a failed configuration lookup says about where it failed. Every failure names the repository and the
document at fault, but for a pointer document that is no mapping in YAML, of which nothing is named.
-/

namespace PatchReview

variable {σ : Type}

/-- The repository and the path that a failure of a configuration lookup names, null for what it leaves out. -/
def Failure.origin? : Failure → Option (Json × Json)
  | .configFetch _ repository path | .configParse _ repository path => some (repository, path)
  | _ => none

-----------------------------------------------------------------------------------------
-- Documents that cannot be used
-----------------------------------------------------------------------------------------

/-- (Config.Unusable answer) says that a file gives no configuration: it is not to be had, its text is not JSON, or
its value is no object.
-/
inductive Config.Unusable : FileAnswer → Prop where
  | unfetched {failure} : Unusable (.error failure)
  | absent : Unusable (.ok none)
  | malformed {text problem place} (read : Json.parse text = .error (.malformed problem place))
    : Unusable (.ok (some (.str text)))
  | noObject {text value} (read : Json.parse text = .ok value) (other : ∀ fields, value ≠ .obj fields)
    : Unusable (.ok (some (.str text)))

/-- (Switches.Malformed answer) says that a pointer document is there, but its text is not YAML, or its value is
neither a mapping nor nothing.
-/
inductive Switches.Malformed : FileAnswer → Prop where
  | noYaml {text} (filled : text ≠ "") (read : Datum.ofYaml text = .error .yaml)
    : Malformed (.ok (some (.str text)))
  | noMapping {text value} (filled : text ≠ "") (read : Datum.ofYaml text = .ok value) (said : value ≠ .null)
    (other : ∀ entries, value ≠ .map entries)
    : Malformed (.ok (some (.str text)))

theorem Switches.Malformed.exists_document {answer : FileAnswer} (malformed : Malformed answer)
    : ∃ document, answer = .ok (some document) := by
  cases malformed with
  | noYaml | noMapping => exact ⟨_, rfl⟩

/-- A document that is read as none in a configuration lookup fails with its repository and path. -/
theorem Config.unusable_of_ofDocument {repository path document : Json} {failure : Failure}
    (failed : ofDocument repository path document = .error failure) (lookup : failure.isConfig = true)
    : Unusable (.ok (some document)) ∧ failure.origin? = some (repository, path) := by
  cases document with
  | str text =>
      simp only [ofDocument, ofText] at failed
      split at failed
      · next problem place read =>
          cases failed
          exact ⟨.malformed read, rfl⟩
      · next fault malformed read =>
          cases failed
          cases fault with
          | malformed problem place => exact absurd rfl (malformed problem place)
          | number | tooDeep => cases lookup
      · cases failed
      · next value other read =>
          cases failed
          exact ⟨.noObject read other, rfl⟩
  | null | bool | int | float | arr | obj =>
      cases failed
      cases lookup

/-- A fetch that fails names its repository and path, by cases on what the host says. -/
theorem Config.origin?_of_fetch {host : Host σ} {repository ref path : Json} {state last : σ} {failure : Failure}
    (failed : (fetch host repository ref path).on state = (.error failure, last))
    : (∀ document, host.files repository ref state path ≠ .ok (some document))
      ∧ failure.origin? = some (repository, path) := by
  cases told : (host.fetchFile repository ref path).on state with
  | mk answer reached =>
      rw [fetch, Attempt.on_outcome_bind told] at failed
      simp only [Host.files, told]
      rcases answer with fault | _ | document
      · cases failed
        exact ⟨by simp, rfl⟩
      · cases failed
        exact ⟨by simp, rfl⟩
      · cases failed

/-- A file that is not loaded fails with its repository and path. -/
theorem Config.unusable_of_load {host : Host σ} {repository ref path : Json} {state last : σ} {failure : Failure}
    (failed : (load host repository ref path).on state = (.error failure, last)) (lookup : failure.isConfig = true)
    : Unusable (host.files repository ref state path) ∧ failure.origin? = some (repository, path) := by
  rw [load, Attempt.on_bind_eq_error_iff] at failed
  rcases failed with unfetched | ⟨document, reached, fetched, failed⟩
  · obtain ⟨absent, names⟩ := origin?_of_fetch unfetched
    refine ⟨?_, names⟩
    rcases answer : host.files repository ref state path with fault | _ | document
    · exact .unfetched
    · exact .absent
    · exact absurd answer (absent document)
  · have files : host.files repository ref state path = .ok (some document) := by
      rw [Host.files, fetch_eq_ok_iff.mp fetched]
    rw [files]
    rw [Attempt.on_ofExcept] at failed
    exact unusable_of_ofDocument (Prod.mk.inj failed).1 lookup

namespace Switches

/-- A document whose switches are not read in a configuration lookup is malformed, because the YAML reader itself
never fails as a lookup.
-/
theorem malformed_of_ofDocument {document : Json} {failure : Failure}
    (failed : ofDocument document = .error failure) (lookup : failure.isConfig = true)
    : Malformed (.ok (some document)) := by
  unfold ofDocument at failed
  split at failed
  · cases failed
  · next truthy =>
      split at failed
      · next text =>
          have filled : text ≠ "" := by
            rintro rfl
            exact truthy rfl
          unfold ofText at failed
          split at failed
          · cases failed
          · split at failed
            · next read => exact .noYaml filled read
            · next fault _ read =>
                cases failed
                rw [Datum.isConfig_of_ofYaml read] at lookup
                cases lookup
            · cases failed
            · obtain ⟨rfl, -⟩ := ofEntries_eq_error_iff.mp failed
              cases lookup
            · next value said other read => exact .noMapping filled read said other
      · cases failed
        cases lookup

/-- A malformed document fails as one without a repository or a path. -/
theorem exists_of_malformed {document : Json} (malformed : Malformed (.ok (some document)))
    : ∃ fault, ofDocument document = .error (.configParse fault .null .null) := by
  have ofFilled {text : String} (filled : text ≠ "") : ofDocument (.str text) = ofText text := by
    simp [ofDocument, Json.isTruthy, filled]
  cases malformed with
  | noYaml filled read =>
      rw [ofFilled filled, ofText, if_neg (by simpa using filled), read]
      exact ⟨.yaml, rfl⟩
  | noMapping filled read said other =>
      rw [ofFilled filled, ofText, if_neg (by simpa using filled), read]
      split
      · next same => cases same
      · next same => cases same
      · next same => exact absurd (Except.ok.inj same) said
      · next same => exact absurd (Except.ok.inj same) (other _)
      · exact ⟨_, rfl⟩

end Switches

-----------------------------------------------------------------------------------------
-- Candidates that are not to be had
-----------------------------------------------------------------------------------------

namespace Candidate

open Config

variable {host : Host σ} {repository ref : Json} {state last : σ}

/-- (candidate.AtFault host repository ref state path) says that a document on the way of a candidate cannot be
fetched or parsed: the pointer document, which also has to name a file for the linter, or the file that holds the
configuration.
-/
inductive AtFault (host : Host σ) (repository ref : Json) (state : σ) : Candidate → Json → Prop where
  | fixed {path} (unusable : Unusable (host.files repository ref state path))
    : AtFault host repository ref state (.fixed path) path
  | absent {linter pointer} (absent : ∀ document, host.files repository ref state pointer ≠ .ok (some document))
    : AtFault host repository ref state (.pointed linter pointer) pointer
  | malformed {linter pointer} (malformed : Switches.Malformed (host.files repository ref state pointer))
    : AtFault host repository ref state (.pointed linter pointer) pointer
  | unnamed {name pointer document switches}
    (fetched : host.files repository ref state pointer = .ok (some document))
    (read : Switches.ofDocument document = .ok switches) (unnamed : switches.configFileFor name = none)
    : AtFault host repository ref state (.pointed (.str name) pointer) pointer
  | target {name path pointer}
    (named : named? (host.files repository ref state) pointer name = some path)
    (unusable : Unusable
      (host.files repository ref ((host.fetchFile repository ref pointer).on state).2 (.str path)))
    : AtFault host repository ref state (.pointed (.str name) pointer) (.str path)

/-- (candidate.Misreads host repository ref state) says that a candidate's pointer document is malformed. -/
inductive Misreads (host : Host σ) (repository ref : Json) (state : σ) : Candidate → Prop where
  | pointed {linter pointer} (malformed : Switches.Malformed (host.files repository ref state pointer))
    : Misreads host repository ref state (.pointed linter pointer)

theorem not_misreads_of_absent {linter pointer : Json}
    (absent : ∀ document, host.files repository ref state pointer ≠ .ok (some document))
    : ¬ Misreads host repository ref state (.pointed linter pointer) := by
  rintro ⟨malformed⟩
  obtain ⟨document, files⟩ := malformed.exists_document
  exact absent document files

theorem not_misreads_of_read {linter pointer document : Json} {switches : Switches}
    (files : host.files repository ref state pointer = .ok (some document))
    (read : Switches.ofDocument document = .ok switches)
    : ¬ Misreads host repository ref state (.pointed linter pointer) := by
  rintro ⟨malformed⟩
  obtain ⟨fault, unread⟩ := Switches.exists_of_malformed (files ▸ malformed)
  rw [read] at unread
  cases unread

/-- A configuration lookup that fails at a candidate has a document at fault, and names the repository and that
document unless it is a malformed pointer document, of which it names neither. Witness: the candidate is followed
to the first step that fails.
-/
theorem load_names_document {candidate : Candidate} {failure : Failure}
    (failed : (candidate.load host repository ref).on state = (.error failure, last))
    (lookup : failure.isConfig = true)
    : ∃ path,
        candidate.AtFault host repository ref state path
        ∧ (¬ candidate.Misreads host repository ref state → failure.origin? = some (repository, path))
        ∧ (candidate.Misreads host repository ref state → failure.origin? = some (.null, .null)) := by
  cases candidate with
  | fixed path =>
      obtain ⟨unusable, names⟩ := unusable_of_load failed lookup
      exact ⟨path, .fixed unusable, fun _ => names, nofun⟩
  | pointed linter pointer =>
      rw [load, Attempt.on_bind_eq_error_iff] at failed
      rcases failed with unfetched | ⟨document, reached, fetched, failed⟩
      · obtain ⟨absent, names⟩ := origin?_of_fetch unfetched
        exact ⟨pointer, .absent absent, fun _ => names,
          fun misreads => absurd misreads (not_misreads_of_absent absent)⟩
      · have told := fetch_eq_ok_iff.mp fetched
        have files : host.files repository ref state pointer = .ok (some document) := by rw [Host.files, told]
        rw [Attempt.on_ofExcept_bind_eq_error_iff] at failed
        rcases failed with ⟨unread, -⟩ | ⟨switches, read, failed⟩
        · have malformed := Switches.malformed_of_ofDocument unread lookup
          refine ⟨pointer, .malformed (files ▸ malformed), fun never => ?_, fun _ => ?_⟩
          · exact absurd (.pointed (files ▸ malformed)) never
          · obtain ⟨fault, failed⟩ := Switches.exists_of_malformed malformed
            rw [unread] at failed
            cases failed
            rfl
        · have well : ¬ Misreads host repository ref state (.pointed linter pointer) :=
            not_misreads_of_read files read
          rw [Attempt.on_ofExcept_bind_eq_error_iff] at failed
          rcases failed with ⟨noText, -⟩ | ⟨name, given, failed⟩
          · cases linter with
            | str name => cases noText
            | null | bool | int | float | arr | obj =>
                cases noText
                cases lookup
          · obtain rfl := Json.textFor_eq_ok_iff.mp given
            split at failed
            · next unnamed =>
                cases failed
                exact ⟨pointer, .unnamed files read unnamed, fun _ => rfl, fun misreads => absurd misreads well⟩
            · next path named =>
                obtain ⟨unusable, names⟩ := unusable_of_load failed lookup
                have said : named? (host.files repository ref state) pointer name = some path := by
                  rw [named?_of_document files, read]
                  exact named
                have reaches : ((host.fetchFile repository ref pointer).on state).2 = reached := by rw [told]
                exact ⟨.str path, .target said (reaches ▸ unusable), fun _ => names,
                  fun misreads => absurd misreads well⟩

/-- The file of old that the pointer document also names is not there. -/
theorem load_names_document_renamed
    : ∃ failure,
        ((fixed (.str "coffeelint.json")).load renamedHost (.str "o/style") (.str "head")).on ()
          = (.error failure, ())
        ∧ failure.isConfig = true
        ∧ ∃ path,
            (fixed (.str "coffeelint.json")).AtFault renamedHost (.str "o/style") (.str "head") () path
            ∧ failure.origin? = some (.str "o/style", path) := by
  have failed : ((fixed (.str "coffeelint.json")).load renamedHost (.str "o/style") (.str "head")).on ()
      = (.error (.configFetch (.absent (.str "coffeelint.json")) (.str "o/style") (.str "coffeelint.json")), ()) :=
    rfl
  obtain ⟨path, fault, names, -⟩ := load_names_document failed rfl
  exact ⟨_, failed, rfl, path, fault, names nofun⟩

/-- A host whose pointer document opens a list that it does not close. -/
def unclosedHost : Host Unit where
  pullRequest _ _ := throw .endless
  changedFiles _ _ := throw .endless
  branchHead _ := return .str "head"
  fetchFile _ _ _ := return some (.str "coffeescript: [unclosed")

/-- The document is at fault, but the failure names neither the repository nor the document. -/
theorem not_names_document_unclosedHost
    : ∃ failure,
        ((pointed (.str "coffeescript") (.str ".hound.yml")).load unclosedHost (.str "o/style")
          (.str "head")).on () = (.error failure, ())
        ∧ failure.isConfig = true
        ∧ ∀ path, failure.origin? ≠ some (.str "o/style", path) := by
  have refused : ((Switches.ofDocument (.str "coffeescript: [unclosed")).mapError Failure.isConfig).map
      (fun _ => ()) = .error true := by
    decide +kernel
  rw [Except.map_eq_error_iff, Except.mapError_eq_error_iff] at refused
  obtain ⟨failure, read, lookup⟩ := refused
  obtain ⟨fault, unread⟩ := Switches.exists_of_malformed (Switches.malformed_of_ofDocument read lookup)
  have told : (fetch unclosedHost (.str "o/style") (.str "head") (.str ".hound.yml")).on ()
      = (.ok (.str "coffeescript: [unclosed"), ()) := rfl
  refine ⟨.configParse fault .null .null, ?_, rfl, by simp [Failure.origin?]⟩
  simp only [load, Attempt.on_bind, told, Attempt.on_ofExcept, unread]

end Candidate

end PatchReview
