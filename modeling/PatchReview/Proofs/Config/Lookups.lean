import PatchReview.Proofs.Assoc
import PatchReview.Proofs.Config.Failures
import PatchReview.Proofs.Json.Documents
import PatchReview.Proofs.Text.Blank
import PatchReview.Recording.Basic

/-! Which configuration an owner's linter gets, and what is asked for it. The first candidate that is a JSON
object counts; the documents before it are fetched once each, in order, and no other ones.
-/

namespace PatchReview

open PatchReview.Text

variable {σ α : Type}

-----------------------------------------------------------------------------------------
-- Noted questions
-----------------------------------------------------------------------------------------

/-- An attempt that notes a question, whatever becomes of it. -/
def Attempt.noting (question : Question) (attempt : Attempt σ α) : Attempt (σ × List Question) α :=
  ExceptT.mk fun (state, asked) =>
    let (result, reached) := attempt.on state
    (result, reached, asked ++ [question])

@[simp] theorem Attempt.on_noting (question : Question) (attempt : Attempt σ α) (state : σ)
    (asked : List Question)
    : (attempt.noting question).on (state, asked)
      = ((attempt.on state).1, (attempt.on state).2, asked ++ [question]) := rfl

/-- A host that answers as another one does and notes all that it is asked. -/
def Host.noting (host : Host σ) : Host (σ × List Question) where
  pullRequest := fun repository number =>
    (host.pullRequest repository number).noting (.pullRequest repository number)
  changedFiles := fun repository number =>
    (host.changedFiles repository number).noting (.changedFiles repository number)
  branchHead := fun repository => (host.branchHead repository).noting (.branchHead repository)
  fetchFile := fun repository ref path =>
    (host.fetchFile repository ref path).noting (.file repository ref path)

/-- What a host says about a file: its content if it is there, or why it cannot say. -/
abbrev FileAnswer := Except Failure (Option Json)

/-- A host says this about the files of a repository at a commit, whenever it is asked. -/
def Host.Holds (host : Host σ) (repository ref : Json) (files : Json → FileAnswer) : Prop :=
  ∀ path state, ((host.fetchFile repository ref path).on state).1 = files path

/-- A host that notes its questions says the same, and notes the file. -/
theorem Host.Holds.told {host : Host σ} {repository ref : Json} {files : Json → FileAnswer}
    (holds : host.Holds repository ref files) (path : Json) (state : σ) (asked : List Question)
    : (host.noting.fetchFile repository ref path).on (state, asked)
      = (files path, ((host.fetchFile repository ref path).on state).2,
          asked ++ [.file repository ref path]) := by
  rw [← holds path state]
  rfl

-----------------------------------------------------------------------------------------
-- Names of files
-----------------------------------------------------------------------------------------

/-- A file that is named shows in its name. -/
def LinterOptions.IsShown (options : LinterOptions) : Prop :=
  ∀ path, options.configFile = some path → isBlankText path = false

/-- A name without the blanks around it shows if any of it is left. -/
theorem LinterOptions.isBlankText_of_fileName? {name path : String} (named : fileName? name = some path)
    : isBlankText path = false := by
  unfold fileName? at named
  dsimp only at named
  split at named
  · cases named
  · next filled =>
      obtain rfl := Option.some.inj named
      have nonempty : trimRight (trimLeft name.toList) ≠ [] := by
        intro empty
        apply filled
        rw [trim, empty]
        rfl
      have last := List.getLast?_eq_some_getLast nonempty
      have shows := isBlank_getLast?_trimRight last
      rw [isBlankText, trim, String.toList_ofList, List.all_eq_false]
      exact ⟨_, List.getLast_mem nonempty, by simp [shows]⟩

theorem LinterOptions.isShown_of_ofEntries? {entries : List (String × Datum)} {options : LinterOptions}
    (given : ofEntries? entries = some options)
    : options.IsShown := by
  intro path named
  simp only [ofEntries?, Option.bind_eq_bind, Option.bind_eq_some_iff] at given
  obtain ⟨enabled, -, file, -, made⟩ := given
  obtain rfl := Option.some.inj made
  obtain ⟨name, -, shown⟩ := Option.bind_eq_some_iff.mp named
  exact isBlankText_of_fileName? shown

namespace Switches

/-- The files that the options of all linters name show in their names. -/
def AreShown (options : List (String × LinterOptions)) : Prop := ∀ entry ∈ options, entry.2.IsShown

/-- One more entry of a document keeps that. -/
theorem AreShown.readEntry {content : Datum.Entries} {before options : List (String × LinterOptions)}
    {entry : Scalar × Datum} (shown : AreShown before)
    (made : Switches.readEntry content before entry = .ok options)
    : AreShown options := by
  unfold Switches.readEntry at made
  split at made
  · obtain rfl := Except.ok.inj made
    exact shown
  · obtain ⟨entries, -, made⟩ := Except.bind_eq_ok_iff.mp made
    obtain ⟨key, -, made⟩ := Except.bind_eq_ok_iff.mp made
    obtain rfl := Except.ok.inj made
    split
    · next found given =>
        rintro ⟨name, held⟩ member
        rcases Assoc.mem_set member with old | ⟨rfl, -⟩
        · exact shown (name, held) old
        · exact LinterOptions.isShown_of_ofEntries? given
    · exact shown

/-- Reading a document's entries keeps that, by induction on the entries. -/
theorem AreShown.foldlM {content entries : Datum.Entries} {before options : List (String × LinterOptions)}
    (shown : AreShown before) (made : entries.foldlM (Switches.readEntry content) before = .ok options)
    : AreShown options := by
  induction entries generalizing before with
  | nil =>
      obtain rfl := Except.ok.inj made
      exact shown
  | cons entry rest ih =>
      obtain ⟨next, here, later⟩ := Except.bind_eq_ok_iff.mp made
      exact ih (shown.readEntry here) later

/-- A file that a document names for a linter shows in its name. -/
theorem isBlankText_of_configFileFor {document : Json} {switches : Switches} {linter path : String}
    (read : ofDocument document = .ok switches) (named : switches.configFileFor linter = some path)
    : isBlankText path = false := by
  have none : AreShown empty.options := nofun
  have shown : AreShown switches.options := by
    unfold ofDocument at read
    split at read
    · exact Except.ok.inj read ▸ none
    · split at read
      · unfold ofText at read
        split at read
        · exact Except.ok.inj read ▸ none
        · split at read
          · cases read
          · cases read
          · exact Except.ok.inj read ▸ none
          · obtain ⟨options, given, made⟩ := Except.bind_eq_ok_iff.mp read
            exact Except.ok.inj made ▸ AreShown.foldlM none given
          · cases read
      · cases read
  unfold configFileFor optionsFor at named
  cases found : Assoc.get? (linterKey linter) switches.options with
  | none =>
      rw [found] at named
      cases named
  | some options =>
      rw [found] at named
      exact shown (_, options) (Assoc.mem_of_get? found) path named

end Switches

-----------------------------------------------------------------------------------------
-- Candidates
-----------------------------------------------------------------------------------------

namespace Config

/-- The file that the pointer document names for a linter, if it is there and says so. -/
def named? (files : Json → FileAnswer) (pointer : Json) (linter : String) : Option String :=
  match files pointer with
  | .ok (some document) => (Switches.ofDocument document).toOption.bind (·.configFileFor linter)
  | _ => none

/-- A file that the pointer document names shows in its name. -/
theorem isBlankText_of_named? {files : Json → FileAnswer} {pointer : Json} {linter path : String}
    (named : named? files pointer linter = some path)
    : isBlankText path = false := by
  unfold named? at named
  split at named
  · next document answer =>
      cases given : Switches.ofDocument document with
      | ok switches =>
          rw [given] at named
          exact Switches.isBlankText_of_configFileFor given named
      | error failure =>
          rw [given] at named
          cases named
  · cases named

/-- The files that may hold a linter's configuration: the one that is named, then those of old. -/
def places (files : Json → FileAnswer) (pointer : Json) (linter : String) (legacy : List Json) : List Json :=
  (named? files pointer linter).toList.map Json.str ++ legacy

/-- The JSON object that a file holds. -/
def object? : FileAnswer → Option Json.Fields
  | .ok (some (.str text)) =>
      match Json.parse text with
      | .ok (.obj fields) => some fields
      | _ => none
  | _ => none

/-- The files up to the first one that holds an object, which is among them. -/
def upToObject (files : Json → FileAnswer) (paths : List Json) : List Json :=
  paths.take (paths.findIdx (fun path => (object? (files path)).isSome) + 1)

/-- A document is a text that is read as JSON or is none. -/
def IsRead (document : Json) : Prop :=
  ∃ text, document = .str text
    ∧ ((∃ value, Json.parse text = .ok value)
      ∨ ∃ problem place, Json.parse text = .error (.malformed problem place))

variable {host : Host σ} {repository ref pointer path : Json} {answer : FileAnswer} {state reached : σ}

/-- A document is fetched, or else the fetch fails as one that is passed over. -/
theorem fetch_cases (told : (host.fetchFile repository ref path).on state = (answer, reached))
    : (∃ document,
        answer = .ok (some document) ∧ (fetch host repository ref path).on state = (.ok document, reached))
      ∨ (∀ document, answer ≠ .ok (some document))
        ∧ ∃ failure,
            (fetch host repository ref path).on state = (.error failure, reached)
            ∧ failure.isConfig = true := by
  rcases answer with fault | _ | document
  · refine Or.inr ⟨by simp, .configFetch (.failed path fault.message) repository path, ?_, rfl⟩
    rw [fetch, Attempt.on_outcome_bind told]
    rfl
  · refine Or.inr ⟨by simp, .configFetch (.absent path) repository path, ?_, rfl⟩
    rw [fetch, Attempt.on_outcome_bind told]
    rfl
  · exact Or.inl ⟨document, rfl, fetch_eq_ok_iff.mpr told⟩

/-- A text that is read holds an object, which is the configuration, or else it fails as none. -/
theorem IsRead.cases {document : Json} (read : IsRead document) (repository path : Json)
    : (∃ config,
        object? (.ok (some document)) = some config ∧ ofDocument repository path document = .ok config)
      ∨ object? (.ok (some document)) = none
        ∧ ∃ failure, ofDocument repository path document = .error failure ∧ failure.isConfig = true := by
  obtain ⟨text, rfl, ⟨value, parsed⟩ | ⟨problem, place, parsed⟩⟩ := read
  · simp only [object?, ofDocument, ofText, parsed]
    cases value with
    | obj fields => exact Or.inl ⟨fields, rfl, rfl⟩
    | null | bool | int | float | str | arr => exact Or.inr ⟨rfl, _, rfl, rfl⟩
  · simp only [object?, ofDocument, ofText, parsed]
    exact Or.inr ⟨trivial, _, rfl, rfl⟩

/-- A file is loaded when it holds an object, and is passed over otherwise. -/
theorem load_cases (told : (host.fetchFile repository ref path).on state = (answer, reached))
    (read : ∀ document, answer = .ok (some document) → IsRead document)
    : (∃ config,
        object? answer = some config ∧ (load host repository ref path).on state = (.ok config, reached))
      ∨ object? answer = none
        ∧ ∃ failure,
            (load host repository ref path).on state = (.error failure, reached)
            ∧ failure.isConfig = true := by
  rw [load, Attempt.on_bind]
  rcases fetch_cases told with ⟨document, rfl, fetched⟩ | ⟨absent, failure, failed, passed⟩
  · simp only [fetched, Attempt.on_ofExcept]
    rcases (read document rfl).cases repository path with
      ⟨config, object, given⟩ | ⟨none, failure, given, passed⟩
    · exact Or.inl ⟨config, object, by rw [given]⟩
    · exact Or.inr ⟨none, failure, by rw [given], passed⟩
  · refine Or.inr ⟨?_, failure, by rw [failed], passed⟩
    unfold object?
    split
    · next text => exact absurd rfl (absent (.str text))
    · rfl

end Config

/-- A document is a text that gives switches or is no mapping in YAML. -/
def Switches.IsRead (document : Json) : Prop :=
  ∃ text, document = .str text
    ∧ ((∃ switches, Switches.ofText text = .ok switches)
      ∨ ∃ fault, Switches.ofText text = .error (.configParse fault .null .null))

theorem Switches.IsRead.cases {document : Json} (read : IsRead document)
    : (∃ switches, ofDocument document = .ok switches)
      ∨ ∃ failure, ofDocument document = .error failure ∧ failure.isConfig = true := by
  obtain ⟨text, rfl, given⟩ := read
  by_cases filled : text.isEmpty
  · exact Or.inl ⟨empty, by simp [ofDocument, Json.isTruthy, filled]⟩
  · have same : ofDocument (.str text) = ofText text := by simp [ofDocument, Json.isTruthy, filled]
    rw [same]
    rcases given with ⟨switches, given⟩ | ⟨fault, given⟩
    · exact Or.inl ⟨switches, given⟩
    · exact Or.inr ⟨_, given, rfl⟩

namespace Candidate

open Config

variable {host : Host σ} {repository ref pointer : Json} {files : Json → FileAnswer} {linter : String}
  {state reached : σ} {candidate other : Candidate} {rest : List Candidate} {failure : Failure}
  {config : Json.Fields}

/-- A search ends with a candidate that has a configuration. -/
theorem on_firstUsable_of_ok (loaded : (candidate.load host repository ref).on state = (.ok config, reached))
    : (firstUsable host repository ref (candidate :: rest)).on state = (.ok config, reached) := by
  rw [firstUsable, Attempt.on_outcome_bind loaded]
  rfl

/-- A search goes on behind a candidate that has none. -/
theorem on_firstUsable_of_error
    (loaded : (candidate.load host repository ref).on state = (.error failure, reached))
    (passed : failure.isConfig = true)
    : (firstUsable host repository ref (candidate :: rest)).on state
      = (firstUsable host repository ref rest).on reached := by
  rw [firstUsable, Attempt.on_outcome_bind loaded]
  simp only [passed, if_true]

/-- Candidates that load the same are searched the same. -/
theorem on_firstUsable_congr
    (same : (candidate.load host repository ref).on state = (other.load host repository ref).on reached)
    : (firstUsable host repository ref (candidate :: rest)).on state
      = (firstUsable host repository ref (other :: rest)).on reached := by
  cases loaded : (other.load host repository ref).on reached with
  | mk result last =>
      rw [firstUsable, firstUsable, Attempt.on_outcome_bind (same.trans loaded),
        Attempt.on_outcome_bind loaded]

/-- The pointer document leads to the file that it names for a linter, and is passed over when it names none. -/
theorem load_pointed_cases
    (told : (host.fetchFile repository ref pointer).on state = (files pointer, reached))
    (read : ∀ document, files pointer = .ok (some document) → Switches.IsRead document)
    : (∃ path,
        named? files pointer linter = some path
        ∧ ((pointed (.str linter) pointer).load host repository ref).on state
          = ((fixed (.str path)).load host repository ref).on reached)
      ∨ named? files pointer linter = none
        ∧ ∃ failure,
            ((pointed (.str linter) pointer).load host repository ref).on state = (.error failure, reached)
            ∧ failure.isConfig = true := by
  rw [load, Attempt.on_bind]
  unfold named?
  rcases fetch_cases told with ⟨document, answer, fetched⟩ | ⟨absent, failure, failed, passed⟩
  · simp only [fetched, answer, Attempt.on_bind, Attempt.on_ofExcept]
    rcases (read document answer).cases with ⟨switches, given⟩ | ⟨failure, given, passed⟩
    · simp only [given, Json.textFor, Except.toOption, Option.bind_some]
      cases switches.configFileFor linter with
      | none => exact Or.inr ⟨rfl, _, rfl, rfl⟩
      | some path => exact Or.inl ⟨path, rfl, rfl⟩
    · simp only [given]
      exact Or.inr ⟨rfl, failure, rfl, passed⟩
  · refine Or.inr ⟨?_, failure, by rw [failed], passed⟩
    split
    · next document answer => exact absurd answer (absent document)
    · rfl

/-- A search that starts with the pointer document goes on with the file that it names, if it names one. -/
theorem on_firstUsable_pointed
    (told : (host.fetchFile repository ref pointer).on state = (files pointer, reached))
    (read : ∀ document, files pointer = .ok (some document) → Switches.IsRead document)
    (rest : List Candidate)
    : (firstUsable host repository ref (pointed (.str linter) pointer :: rest)).on state
      = (firstUsable host repository ref
            (((named? files pointer linter).toList.map Json.str).map fixed ++ rest)).on reached := by
  rcases load_pointed_cases told read with ⟨path, named, same⟩ | ⟨none, failure, failed, passed⟩
  · rw [named]
    exact on_firstUsable_congr same
  · rw [none]
    exact on_firstUsable_of_error failed passed

/-- A search through fixed files finds the first object, by induction on the files. It asks for the files up to
that one, in order.
-/
theorem on_firstUsable_fixed (holds : host.Holds repository ref files) {paths : List Json}
    (read : ∀ path ∈ paths, ∀ document, files path = .ok (some document) → IsRead document) (state : σ)
    (asked : List Question)
    : ∃ last,
        (firstUsable host.noting repository ref (paths.map .fixed)).on (state, asked)
        = (.ok ((paths.findSome? fun path => object? (files path)).getD []),
          last, asked ++ (upToObject files paths).map (.file repository ref)) := by
  induction paths generalizing state asked with
  | nil => exact ⟨state, by simp [firstUsable, upToObject]⟩
  | cons path rest ih =>
      have same : (fixed path).load host.noting repository ref
          = Config.load host.noting repository ref path :=
        rfl
      rcases load_cases (holds.told path state asked) (read path List.mem_cons_self) with
        ⟨config, object, loaded⟩ | ⟨none, failure, failed, passed⟩
      · rw [← same] at loaded
        refine ⟨((host.fetchFile repository ref path).on state).2, (on_firstUsable_of_ok loaded).trans ?_⟩
        simp [upToObject, object, List.findIdx_cons]
      · rw [← same] at failed
        obtain ⟨last, later⟩ := ih (fun other member => read other (List.mem_cons_of_mem path member))
          ((host.fetchFile repository ref path).on state).2 (asked ++ [.file repository ref path])
        refine ⟨last, ((on_firstUsable_of_error failed passed).trans later).trans ?_⟩
        simp [upToObject, none, List.findIdx_cons]

end Candidate

-----------------------------------------------------------------------------------------
-- Owners
-----------------------------------------------------------------------------------------

namespace Config

/-- The style repository is the one that the owner names, where it is switched on. -/
theorem styleRepository?_eq (owner : Owner)
    : owner.styleRepository? = if owner.hasConfigRepository then some owner.configRepository else none := by
  unfold Owner.hasConfigRepository Owner.styleRepository?
  split <;> rfl

/-- (Finds host pointer owner linter legacy state asked) says what the search for the configuration of an
owner's linter gives from a state on, and what it asks the host: nothing where there is no style repository,
its head alone where that is not known, and otherwise the files at its head, up to the first object.
-/
structure Finds (host : Host σ) (pointer : Json) (owner : Owner) (linter : String) (legacy : List Json)
    (state : σ) (asked : List Question)
    : Prop where
  unasked : owner.hasConfigRepository = false →
    (ofOwner host.noting pointer owner (.str linter) legacy).on (state, asked) = (.ok [], state, asked)
  headless : owner.hasConfigRepository = true → ∀ failure reached,
    (host.branchHead owner.configRepository).on state = (.error failure, reached) →
    (ofOwner host.noting pointer owner (.str linter) legacy).on (state, asked)
      = (.ok [], reached, asked ++ [.branchHead owner.configRepository])
  headed : owner.hasConfigRepository = true → ∀ ref reached files,
    (host.branchHead owner.configRepository).on state = (.ok ref, reached) →
    host.Holds owner.configRepository ref files →
    (∀ document, files pointer = .ok (some document) → Switches.IsRead document) →
    (∀ path ∈ places files pointer linter legacy, ∀ document,
      files path = .ok (some document) → IsRead document) →
    (∀ path, named? files pointer linter = some path → isBlankText path = false)
    ∧ ∃ last,
        (ofOwner host.noting pointer owner (.str linter) legacy).on (state, asked)
        = (.ok (((places files pointer linter legacy).findSome? fun path => object? (files path)).getD []),
          last,
          asked ++ .branchHead owner.configRepository
            :: (pointer :: upToObject files (places files pointer linter legacy)).map
              (.file owner.configRepository ref))

/-- The first usable place of a configuration counts, whatever the host, and no other file is asked for than
those up to it.
-/
theorem ofOwner_finds (host : Host σ) (pointer : Json) (owner : Owner) (linter : String) (legacy : List Json)
    (state : σ) (asked : List Question)
    : Finds host pointer owner linter legacy state asked := by
  have style := styleRepository?_eq owner
  refine ⟨?_, ?_, ?_⟩
  · intro off
    rw [off] at style
    simp [ofOwner, style]
  · intro on failure reached unknown
    rw [on] at style
    have told : (host.noting.branchHead owner.configRepository).on (state, asked)
        = (.error failure, reached, asked ++ [.branchHead owner.configRepository]) := by
      simp [Host.noting, unknown]
    simp only [ofOwner, style, if_true, Attempt.on_outcome_bind told, Attempt.on_pure]
  · intro on ref reached files known holds readPointer read
    rw [on] at style
    have told : (host.noting.branchHead owner.configRepository).on (state, asked)
        = (.ok ref, reached, asked ++ [.branchHead owner.configRepository]) := by
      simp [Host.noting, known]
    refine ⟨fun path => isBlankText_of_named?, ?_⟩
    simp only [ofOwner, style, if_true, Attempt.on_outcome_bind told, Candidate.forLinter]
    rw [Candidate.on_firstUsable_pointed (holds.told pointer reached _) readPointer, ← List.map_append]
    obtain ⟨last, found⟩ := Candidate.on_firstUsable_fixed holds read
      ((host.fetchFile owner.configRepository ref pointer).on reached).2
      (asked ++ [.branchHead owner.configRepository] ++ [.file owner.configRepository ref pointer])
    refine ⟨last, found.trans ?_⟩
    simp [places]

/-- Files of which the one that is named holds no object, the first one of old is not there, and the second one
holds an object.
-/
def fallbackFiles : Json → FileAnswer
  | .str ".hound.yml" => .ok (some (.str "coffee_script:\n  config_file: ' style.json '"))
  | .str "style.json" => .ok (some (.str (Json.arr [.str "a"]).print))
  | .str "old.json" => .ok (some (.str (Json.obj [("a", .bool true)]).print))
  | _ => .ok none

def fallbackHost : Host Unit where
  pullRequest _ _ := throw .endless
  changedFiles _ _ := throw .endless
  branchHead _ := return .str "head"
  fetchFile _ _ path := Attempt.ofExcept (fallbackFiles path)

theorem ofOwner_finds_fallback
    : ∃ last,
        (ofOwner fallbackHost.noting (.str ".hound.yml") ⟨"o", true, .str "o/style"⟩ (.str "coffeescript")
            [.str "coffeelint.json", .str "old.json", .str "later.json"]).on ((), [])
        = (.ok [("a", .bool true)], last,
          .branchHead (.str "o/style")
            :: [Json.str ".hound.yml", .str "style.json", .str "coffeelint.json", .str "old.json"].map
              (.file (.str "o/style") (.str "head"))) := by
  have named : named? fallbackFiles (.str ".hound.yml") "coffeescript" = some "style.json" := by
    decide +kernel
  have list : Json.parse (Json.arr [.str "a"]).print = .ok (.arr [.str "a"]) :=
    Json.parse_print (.arr (by simp [Json.IsExact.str]))
  have object : Json.parse (Json.obj [("a", .bool true)]).print = .ok (.obj [("a", .bool true)]) :=
    Json.parse_print (.obj (by decide) (by simp [Json.IsExact.bool]))
  have readPointer : ∀ document, fallbackFiles (.str ".hound.yml") = .ok (some document) →
      Switches.IsRead document := by
    intro document answer
    obtain rfl := Option.some.inj (Except.ok.inj answer)
    have made : (Switches.ofText "coffee_script:\n  config_file: ' style.json '").toOption.isSome = true := by
      decide +kernel
    cases given : Switches.ofText "coffee_script:\n  config_file: ' style.json '" with
    | ok switches => exact ⟨_, rfl, Or.inl ⟨switches, given⟩⟩
    | error failure =>
        rw [given] at made
        cases made
  have read : ∀ path ∈ places fallbackFiles (.str ".hound.yml") "coffeescript"
        [.str "coffeelint.json", .str "old.json", .str "later.json"],
      ∀ document, fallbackFiles path = .ok (some document) → IsRead document := by
    rw [places, named]
    simp [fallbackFiles, IsRead, list, object]
  have finds := ofOwner_finds fallbackHost (.str ".hound.yml") ⟨"o", true, .str "o/style"⟩ "coffeescript"
    [.str "coffeelint.json", .str "old.json", .str "later.json"] () []
  obtain ⟨-, last, found⟩ := finds.headed rfl (.str "head") () fallbackFiles rfl (fun _ _ => rfl)
    readPointer read
  refine ⟨last, found.trans ?_⟩
  simp [places, named, upToObject, object?, fallbackFiles, list, object, List.findIdx_cons]

end Config

end PatchReview
