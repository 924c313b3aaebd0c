import PatchReview.Proofs.Assoc
import PatchReview.Proofs.Config.Failures
import PatchReview.Proofs.Config.Lookups

/-! Which section of a document counts for a linter: the last valid one with the linter's name in any spelling.
What else the document holds does not matter to the linter.
-/

namespace PatchReview

open PatchReview.Text

-----------------------------------------------------------------------------------------
-- Names of files
-----------------------------------------------------------------------------------------

/-- The name of a file has no blanks around it. -/
theorem LinterOptions.trim_of_fileName? {name path : String} (named : fileName? name = some path)
    : trim path = path := by
  unfold fileName? at named
  dsimp only at named
  split at named
  · cases named
  · obtain rfl := Option.some.inj named
    exact trim_trim name

/-- The file that valid options name is named by a text that shows, without blanks around it. -/
theorem LinterOptions.tidy_of_ofEntries? {entries : List (String × Datum)} {options : LinterOptions}
    (given : ofEntries? entries = some options) {path : String} (named : options.configFile = some path)
    : isBlankText path = false ∧ trim path = path := by
  simp only [ofEntries?, Option.bind_eq_bind, Option.bind_eq_some_iff] at given
  obtain ⟨enabled, -, file, -, made⟩ := given
  obtain rfl := Option.some.inj made
  obtain ⟨name, -, shown⟩ := Option.bind_eq_some_iff.mp named
  exact ⟨isBlankText_of_fileName? shown, trim_of_fileName? shown⟩

namespace Switches

variable {content other : Datum.Entries} {name : String} {entry : Scalar × Datum}

-----------------------------------------------------------------------------------------
-- Entries
-----------------------------------------------------------------------------------------

/-- The options that an entry of a document gives a linter: it has to be a mapping with valid options under a
key that is compared like the linter's name.
-/
def settled? (content : Datum.Entries) (name : String) (entry : Scalar × Datum) : Option LinterOptions := do
  let entries ← entriesOf? content entry.2
  let named ← (sectionEntries entries).toOption
  let text ← entry.1.keyText.toOption
  if linterKey text = linterKey name then LinterOptions.ofEntries? named else none

/-- (Silent content name entry) says that an entry of a document has nothing to do with a linter: its key is
another name, it is no mapping, or its options are not valid.
-/
inductive Silent (content : Datum.Entries) (name : String) (entry : Scalar × Datum) : Prop where
  | unrelated {text} (key : entry.1.keyText = .ok text) (different : linterKey text ≠ linterKey name)
  | noMapping (value : entriesOf? content entry.2 = none)
  | invalid {entries named} (value : entriesOf? content entry.2 = some entries)
    (keys : sectionEntries entries = .ok named) (faulty : LinterOptions.ofEntries? named = none)

theorem settled?_of_silent (silent : Silent content name entry) : settled? content name entry = none := by
  unfold settled?
  cases silent with
  | unrelated key different => simp [key, different, Except.toOption]
  | noMapping value => rw [value]; rfl
  | invalid value keys faulty => simp [value, keys, faulty, Except.toOption]

/-- The options that an entry has for a linter name a file by a text that shows, without blanks around it. -/
theorem tidy_of_settled? {options : LinterOptions} (given : settled? content name entry = some options)
    {path : String} (named : options.configFile = some path)
    : isBlankText path = false ∧ trim path = path := by
  simp only [settled?, Option.bind_eq_bind, Option.bind_eq_some_iff] at given
  obtain ⟨entries, -, keys, -, text, -, given⟩ := given
  split at given
  · exact LinterOptions.tidy_of_ofEntries? given named
  · cases given

/-- Reading an entry gives a linter the options that the entry has for it, and leaves it what it had if there
are none.
-/
theorem get?_of_readEntry {before after : List (String × LinterOptions)}
    (read : readEntry content before entry = .ok after) (name : String)
    : Assoc.get? (linterKey name) after
      = (settled? content name entry).or (Assoc.get? (linterKey name) before) := by
  unfold readEntry at read
  unfold settled?
  cases value : entriesOf? content entry.2 with
  | none =>
      rw [value] at read
      obtain rfl := Except.ok.inj read
      rfl
  | some entries =>
      rw [value] at read
      obtain ⟨named, keys, read⟩ := Except.bind_eq_ok_iff.mp read
      obtain ⟨text, key, read⟩ := Except.bind_eq_ok_iff.mp read
      obtain rfl := Except.ok.inj read
      simp only [keys, key, Except.toOption, Option.bind_eq_bind, Option.bind_some]
      cases given : LinterOptions.ofEntries? named with
      | none => simp
      | some options =>
          by_cases related : linterKey text = linterKey name
          · simp [related, Assoc.get?_set_self]
          · simp [related, Assoc.get?_set_of_ne (Ne.symm related)]

/-- After all entries a linter has the last options that one of them has for it, by induction on the entries. -/
theorem get?_of_foldlM {entries : Datum.Entries} {before after : List (String × LinterOptions)}
    (read : entries.foldlM (readEntry content) before = .ok after) (name : String)
    : Assoc.get? (linterKey name) after
      = (entries.filterMap (settled? content name)).getLast?.or (Assoc.get? (linterKey name) before) := by
  induction entries generalizing before with
  | nil =>
      obtain rfl := Except.ok.inj read
      rfl
  | cons entry rest ih =>
      rw [List.foldlM_cons] at read
      obtain ⟨middle, here, later⟩ := Except.bind_eq_ok_iff.mp read
      rw [ih later, get?_of_readEntry here name]
      cases given : settled? content name entry with
      | none => rw [List.filterMap_cons_none given, Option.none_or]
      | some options =>
          rw [List.filterMap_cons_some given, List.getLast?_cons]
          cases (rest.filterMap (settled? content name)).getLast? <;> rfl

-----------------------------------------------------------------------------------------
-- Documents
-----------------------------------------------------------------------------------------

/-- A mapping is read by its entries, by cases on whether there are any. -/
theorem ofDatum_map (content : Datum.Entries) : ofDatum (.map content) = ofEntries content := by
  cases content with
  | nil => rfl
  | cons entry rest => rfl

/-- A document in which no section has a key that is too long gives switches. -/
theorem exists_ofDatum (short : ∀ entry ∈ content, ¬ OversizedSection content entry)
    : ∃ switches, ofDatum (.map content) = .ok switches := by
  rw [ofDatum_map]
  cases made : ofEntries content with
  | ok switches => exact ⟨switches, rfl⟩
  | error failure =>
      obtain ⟨-, entry, member, oversized⟩ := ofEntries_eq_error_iff.mp made
      exact absurd oversized (short entry member)

/-- A linter has the last options that an entry of a document has for it. -/
theorem optionsFor_of_ofDatum {switches : Switches} (made : ofDatum (.map content) = .ok switches)
    (name : String)
    : switches.optionsFor name = ((content.filterMap (settled? content name)).getLast?).getD .standard := by
  rw [ofDatum_map, ofEntries] at made
  obtain ⟨options, read, made⟩ := Except.bind_eq_ok_iff.mp made
  obtain rfl := Except.ok.inj made
  have found := get?_of_foldlM read name
  rw [Assoc.get?, Option.or_none] at found
  rw [optionsFor, found]

/-- (Differ content other name entries others) says that two documents agree about a linter: their entries are
the same, up to some that have nothing to do with it.
-/
inductive Differ (content other : Datum.Entries) (name : String) : Datum.Entries → Datum.Entries → Prop where
  | done : Differ content other name [] []
  | kept {key value copy entries others} (same : entriesOf? content value = entriesOf? other copy)
    (later : Differ content other name entries others)
    : Differ content other name ((key, value) :: entries) ((key, copy) :: others)
  | dropped {entry entries others} (silent : Silent content name entry)
    (later : Differ content other name entries others)
    : Differ content other name (entry :: entries) others
  | added {entry entries others} (silent : Silent other name entry)
    (later : Differ content other name entries others)
    : Differ content other name entries (entry :: others)

/-- Where documents differ in silent entries only, the same options are given in the same order, by induction
on the differences.
-/
theorem Differ.filterMap_settled? {entries others : Datum.Entries}
    (differ : Differ content other name entries others)
    : others.filterMap (settled? other name) = entries.filterMap (settled? content name) := by
  induction differ with
  | done => rfl
  | @kept key value copy entries others same later ih =>
      have settles : settled? other name (key, copy) = settled? content name (key, value) := by
        unfold settled?
        rw [same]
      rw [List.filterMap_cons, List.filterMap_cons, settles, ih]
  | dropped silent later ih => rw [List.filterMap_cons_none (settled?_of_silent silent), ih]
  | added silent later ih => rw [List.filterMap_cons_none (settled?_of_silent silent), ih]

/-- (Isolated content switches) says how the sections of a document bear on linters: for each linter the last
entry with options for it counts, and without one it has none; names that are compared alike have the same
answers; the file that is named shows and has no blanks around it; and no silent entry matters.
-/
structure Isolated (content : Datum.Entries) (switches : Switches) : Prop where
  decided : ∀ name,
    switches.optionsFor name = ((content.filterMap (settled? content name)).getLast?).getD .standard
  default : ∀ name, (∀ entry ∈ content, Silent content name entry) →
    switches.isEnabled name = true ∧ switches.configFileFor name = none
  alike : ∀ name spelling, linterKey spelling = linterKey name →
    switches.isEnabled spelling = switches.isEnabled name
    ∧ switches.configFileFor spelling = switches.configFileFor name
  tidy : ∀ name path,
    switches.configFileFor name = some path → isBlankText path = false ∧ trim path = path
  unswayed : ∀ name other changed, Differ content other name content other →
    ofDatum (.map other) = .ok changed →
      changed.isEnabled name = switches.isEnabled name
      ∧ changed.configFileFor name = switches.configFileFor name

/-- A document whose keys are not too long gives switches, in which the sections are isolated. -/
theorem exists_isolated (content : Datum.Entries)
    (short : ∀ entry ∈ content, ¬ OversizedSection content entry)
    : ∃ switches, ofDatum (.map content) = .ok switches ∧ Isolated content switches := by
  obtain ⟨switches, made⟩ := exists_ofDatum short
  have decided := optionsFor_of_ofDatum made
  refine ⟨switches, made, decided, ?_, ?_, ?_, ?_⟩
  · intro name silent
    have none : content.filterMap (settled? content name) = [] :=
      List.filterMap_eq_nil_iff.mpr fun entry member => settled?_of_silent (silent entry member)
    rw [isEnabled, configFileFor, decided, none]
    exact ⟨rfl, rfl⟩
  · intro name spelling same
    have options : switches.optionsFor spelling = switches.optionsFor name := by
      rw [optionsFor, optionsFor, same]
    rw [isEnabled, configFileFor, options]
    exact ⟨rfl, rfl⟩
  · intro name path named
    rw [configFileFor, decided] at named
    cases last : (content.filterMap (settled? content name)).getLast? with
    | none =>
        rw [last] at named
        cases named
    | some options =>
        rw [last] at named
        obtain ⟨entry, -, given⟩ := List.mem_filterMap.mp (List.mem_of_getLast? last)
        exact tidy_of_settled? given named
  · intro name other changed differ remade
    have options : changed.optionsFor name = switches.optionsFor name := by
      rw [optionsFor_of_ofDatum remade, decided, differ.filterMap_settled?]
    rw [isEnabled, configFileFor, options]
    exact ⟨rfl, rfl⟩

/-- A document with several sections for one linter, of which the last is not valid, and what is no section. -/
def manySpellings : Datum.Entries := [
  (.str "js_lint", .map [(.str "enabled", .scalar (.bool false))]),
  (.str "JsLint", .scalar (.bool true)),
  (.str "JSLINT", .map [(.str "config_file", .scalar (.str " lint.json\n")), (.int 1, .scalar .null)]),
  (.str "go", .map [(.str "enabled", .scalar (.str "no"))]),
  (.str "js-lint", .map [(.str "enabled", .scalar (.str "maybe"))])]

theorem exists_isolated_manySpellings
    : ∃ switches,
        ofDatum (.map manySpellings) = .ok switches ∧ Isolated manySpellings switches
        ∧ (switches.isEnabled "js-lint", switches.configFileFor "js-lint")
          = (true, some "lint.json") := by
  have short : ∀ entry ∈ manySpellings, ¬ OversizedSection manySpellings entry := by
    simp [manySpellings, OversizedSection, Scalar.Oversized, entriesOf?]
    exact Nat.one_lt_pow (by decide) (by decide)
  obtain ⟨switches, made, isolated⟩ := exists_isolated manySpellings short
  refine ⟨switches, made, isolated, ?_⟩
  rw [isEnabled, configFileFor, isolated.decided]
  decide +kernel

end Switches

end PatchReview
