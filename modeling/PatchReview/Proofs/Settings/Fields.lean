import PatchReview.Proofs.Settings.Updates

/-! What updates of single fields change. An update by the names of fields writes these fields and nothing else,
in whatever order they are named. Sections that are not there are left aside, and a field that is not there is
refused.
-/

namespace PatchReview

namespace Settings

-----------------------------------------------------------------------------------------
-- Fields
-----------------------------------------------------------------------------------------

/-- The fields of the sections. -/
inductive Field where
  | token
  | baseUrl
  | hostTimeout
  | retries
  | executable
  | lintTimeout
  | pointerFile
  | level
  | format
  | path
  | maxSize
  | backups
  deriving DecidableEq

namespace Field

/-- The name of a field in an update. -/
def name : Field → String
  | token => "github.token"
  | baseUrl => "github.api_base_url"
  | hostTimeout => "github.timeout_seconds"
  | retries => "github.max_retries"
  | executable => "lint.coffeelint_path"
  | lintTimeout => "lint.engine_timeout_seconds"
  | pointerFile => "lint.pointer_file"
  | level => "logging.level"
  | format => "logging.format"
  | path => "logging.file_path"
  | maxSize => "logging.max_file_size"
  | backups => "logging.backup_count"

/-- (field.value settings) is what settings have in a field. -/
def value (settings : Settings) : Field → Datum
  | token => settings.host.token
  | baseUrl => settings.host.baseUrl
  | hostTimeout => settings.host.timeout
  | retries => settings.host.retries
  | executable => settings.lint.executable
  | lintTimeout => settings.lint.timeout
  | pointerFile => settings.lint.pointerFile
  | level => settings.log.level
  | format => settings.log.format
  | path => settings.log.path
  | maxSize => settings.log.maxSize
  | backups => settings.log.backups

end Field

/-- (settings.put field value) is settings with another value in a field. -/
def put (settings : Settings) (value : Datum) : Field → Settings
  | .token => { settings with host.token := value }
  | .baseUrl => { settings with host.baseUrl := value }
  | .hostTimeout => { settings with host.timeout := value }
  | .retries => { settings with host.retries := value }
  | .executable => { settings with lint.executable := value }
  | .lintTimeout => { settings with lint.timeout := value }
  | .pointerFile => { settings with lint.pointerFile := value }
  | .level => { settings with log.level := value }
  | .format => { settings with log.format := value }
  | .path => { settings with log.path := value }
  | .maxSize => { settings with log.maxSize := value }
  | .backups => { settings with log.backups := value }

@[simp] theorem value_put_self (settings : Settings) (field : Field) (value : Datum)
    : field.value (settings.put value field) = value := by
  cases field <;> rfl

theorem value_put_of_ne {field other : Field} (differs : other ≠ field) (settings : Settings) (value : Datum)
    : other.value (settings.put value field) = other.value settings := by
  cases field <;> cases other <;> first | rfl | exact absurd rfl differs

@[simp] theorem debug_put (settings : Settings) (field : Field) (value : Datum)
    : (settings.put value field).debug = settings.debug := by
  cases field <;> rfl

/-- Settings that have the same in each field and the same switch are the same. -/
theorem eq_of_value_eq {first second : Settings}
    (fields : ∀ field : Field, field.value first = field.value second) (switch : first.debug = second.debug)
    : first = second := by
  obtain ⟨⟨_, _, _, _⟩, ⟨_, _, _⟩, ⟨_, _, _, _, _⟩, _⟩ := first
  obtain ⟨⟨_, _, _, _⟩, ⟨_, _, _⟩, ⟨_, _, _, _, _⟩, _⟩ := second
  simp only [mk.injEq, HostSettings.mk.injEq, LintSettings.mk.injEq, LogSettings.mk.injEq]
  exact ⟨⟨fields .token, fields .baseUrl, fields .hostTimeout, fields .retries⟩,
    ⟨fields .executable, fields .lintTimeout, fields .pointerFile⟩,
    ⟨fields .level, fields .format, fields .path, fields .maxSize, fields .backups⟩, switch⟩

-----------------------------------------------------------------------------------------
-- Changes of fields
-----------------------------------------------------------------------------------------

/-- (byName changes) is changes of fields as an update names them. -/
def byName (changes : List (Field × Datum)) : List (String × Datum) :=
  changes.map fun (field, value) => (field.name, value)

/-- (settings.putAll changes) is settings with other values in fields, put there in order. -/
def putAll (settings : Settings) (changes : List (Field × Datum)) : Settings :=
  changes.foldl (fun reached (field, value) => reached.put value field) settings

/-- (Replaces settings changes next) says that settings have the values given in the fields that changes name, and
are the same in every other field and in the switch.
-/
structure Replaces (settings : Settings) (changes : List (Field × Datum)) (next : Settings) : Prop where
  fields : ∀ field : Field, field.value next = (Assoc.get? field changes).getD (field.value settings)
  switch : next.debug = settings.debug

/-- There is one way to replace fields. -/
theorem Replaces.unique {settings first second : Settings} {changes : List (Field × Datum)}
    (here : settings.Replaces changes first) (there : settings.Replaces changes second)
    : first = second :=
  eq_of_value_eq (fun field => (here.fields field).trans (there.fields field).symm)
    (here.switch.trans there.switch.symm)

/-- Putting values in different fields replaces these, by induction on the changes. -/
theorem replaces_putAll {changes : List (Field × Datum)} (distinct : (Assoc.keys changes).Nodup)
    (settings : Settings)
    : settings.Replaces changes (settings.putAll changes) := by
  induction changes generalizing settings with
  | nil => exact ⟨fun _ => rfl, rfl⟩
  | cons change rest ih =>
      obtain ⟨field, value⟩ := change
      obtain ⟨fresh, distinct⟩ := List.nodup_cons.mp distinct
      obtain ⟨fields, switch⟩ := ih distinct (settings.put value field)
      refine ⟨fun other => (fields other).trans ?_, switch.trans (debug_put settings field value)⟩
      by_cases same : field = other
      · obtain rfl := same
        have none : Assoc.get? field rest = none :=
          Assoc.get?_eq_none_iff.mpr fun held member => fresh (List.mem_map.mpr ⟨_, member, rfl⟩)
        rw [none, Assoc.get?, if_pos (beq_self_eq_true field)]
        exact value_put_self settings field value
      · rw [value_put_of_ne (Ne.symm same), Assoc.get?, if_neg (by simpa using same)]

/-- Fields in another order are replaced by the same values. -/
theorem Replaces.of_perm {settings next : Settings} {changes other : List (Field × Datum)}
    (distinct : (Assoc.keys changes).Nodup) (same : other.Perm changes) (replaces : settings.Replaces other next)
    : settings.Replaces changes next := by
  refine ⟨fun field => (replaces.fields field).trans ?_, replaces.switch⟩
  have again : (Assoc.keys other).Nodup := (same.map Prod.fst).nodup_iff.mpr distinct
  have found : Assoc.get? field other = Assoc.get? field changes := by
    ext value
    rw [Assoc.get?_eq_some_iff_mem again, Assoc.get?_eq_some_iff_mem distinct, same.mem_iff]
  rw [found]

/-- A change by the name of a field puts the value there. -/
theorem change_draft (settings : Settings) (field : Field) (value : Datum)
    : change settings.draft field.name value = .ok (settings.put value field).draft := by
  cases field <;> rfl

/-- Changes by the names of fields put the values there, by induction on the changes. -/
theorem changeAll_byName (settings : Settings) (changes : List (Field × Datum))
    : changeAll settings.draft (byName changes) = .ok (settings.putAll changes).draft := by
  induction changes generalizing settings with
  | nil => rfl
  | cons next rest ih =>
      rw [byName, List.map_cons, changeAll, List.foldlM_cons]
      simp only [change_draft]
      exact ih _

-----------------------------------------------------------------------------------------
-- Names of fields
-----------------------------------------------------------------------------------------

/-- The sections that settings are made of. -/
def sectionNames : List String := ["github", "lint", "logging"]

/-- A name is that of a field of some section. -/
def IsDotted (name : String) : Prop := ∃ part field, splitName? name = some (part, field)

/-- Whether a name is that of a field of a section that is not there. -/
def isForeign (name : String) : Bool :=
  match splitName? name with
  | some (part, _) => !("debug" :: sectionNames).contains part
  | none => false

/-- A name is that of a field that is not there, in a section that is or in the switch. -/
def IsUnknown (name : String) : Prop :=
  ∃ part field,
    splitName? name = some (part, field) ∧ part ∈ "debug" :: sectionNames ∧ ∀ known : Field, known.name ≠ name

theorem isDotted_of_isForeign {name : String} (foreign : isForeign name = true) : IsDotted name := by
  unfold isForeign at foreign
  split at foreign
  · next part field split => exact ⟨part, field, split⟩
  · cases foreign

theorem isDotted_name (field : Field) : IsDotted field.name := by
  cases field <;> exact ⟨_, _, rfl⟩

theorem ne_reserved_of_isDotted {name : String} (dotted : IsDotted name) : name ≠ Update.reserved := by
  rintro rfl
  obtain ⟨part, field, split⟩ := dotted
  cases split

theorem ne_debug_of_isDotted {name : String} (dotted : IsDotted name) : name ≠ "debug" := by
  rintro rfl
  obtain ⟨part, field, split⟩ := dotted
  have whole : splitName? "debug" = none := rfl
  rw [whole] at split
  cases split

/-- The parts of a name before and after its first point make the name. -/
theorem toList_of_splitName? {name part field : String}
    (split : splitName? name = some (part, field))
    : name.toList = part.toList ++ '.' :: field.toList := by
  have whole := List.takeWhile_append_dropWhile (p := (· != '.')) (l := name.toList)
  have point := List.head?_dropWhile_not (· != '.') name.toList
  unfold splitName? at split
  dsimp only at split
  split at split
  · next first rest given =>
      rw [given] at whole point
      cases split
      obtain rfl : first = '.' := by simpa using point
      simpa using whole.symm
  · cases split

-----------------------------------------------------------------------------------------
-- Sections of a draft
-----------------------------------------------------------------------------------------

/-- (Draft.HasKey draft part field) says that a section of a draft has a value for a name. -/
def Draft.HasKey (draft : Draft) (part field : String) : Prop :=
  ∃ entries, Assoc.get? part draft = some (.map entries) ∧ Scalar.str field ∈ Assoc.keys entries

/-- Writing an entry keeps all keys, whatever keys count as the same, by induction on the entries. -/
theorem mem_keys_set {entries : Datum.Entries} {key : Scalar} (member : key ∈ Assoc.keys entries)
    (other : Scalar) (value : Datum)
    : key ∈ Assoc.keys (Assoc.set other value entries) := by
  induction entries with
  | nil => cases member
  | cons entry rest ih =>
      rw [Assoc.set]
      split
      · exact member
      · rcases List.mem_cons.mp member with here | below
        · exact List.mem_cons.mpr (Or.inl here)
        · exact List.mem_cons_of_mem _ (ih below)

/-- A key that counts as a text is this text. -/
theorem eq_str_of_beq {key : Scalar} {text : String} (same : (key == .str text) = true) : key = .str text := by
  have equal : key.same (.str text) = true := same
  cases key with
  | str other => simpa [Scalar.same, Scalar.quantity?] using equal
  | null | bool | int | float | date | moment | bytes => simp [Scalar.same, Scalar.quantity?] at equal

/-- Writing an entry by a text writes it under this text, by induction on the entries. -/
theorem mem_keys_set_self (entries : Datum.Entries) (text : String) (value : Datum)
    : Scalar.str text ∈ Assoc.keys (Assoc.set (.str text) value entries) := by
  induction entries with
  | nil => exact List.mem_cons_self
  | cons entry rest ih =>
      rw [Assoc.set]
      split
      · next same => exact List.mem_cons.mpr (Or.inl (eq_str_of_beq same).symm)
      · exact List.mem_cons_of_mem _ ih

section Changes

variable {draft next : Draft} {name : String} {value : Datum}

/-- A change by a dotted name keeps the sections of a draft, by cases on whether its section is there. -/
theorem keys_of_change (dotted : IsDotted name) (made : change draft name value = .ok next)
    : Assoc.keys next = Assoc.keys draft := by
  obtain ⟨part, field, split⟩ := dotted
  unfold change at made
  simp only [split] at made
  split at made
  · cases made
    rfl
  · next entries found =>
      cases made
      rw [Assoc.keys_set, if_pos (Assoc.mem_keys_iff.mpr ⟨_, found⟩), List.append_nil]
  · cases made

/-- A change by a dotted name keeps the keys of each section. -/
theorem Draft.HasKey.of_change {part field : String} (has : draft.HasKey part field) (dotted : IsDotted name)
    (made : change draft name value = .ok next)
    : next.HasKey part field := by
  obtain ⟨entries, found, member⟩ := has
  obtain ⟨place, other, split⟩ := dotted
  unfold change at made
  simp only [split] at made
  split at made
  · cases made
    exact ⟨entries, found, member⟩
  · next held there =>
      cases made
      by_cases same : part = place
      · obtain rfl := same
        obtain rfl := Datum.map.inj (Option.some.inj (there.symm.trans found))
        exact ⟨_, Assoc.get?_set_self _ _ _, mem_keys_set member _ _⟩
      · exact ⟨entries, (Assoc.get?_set_of_ne same _ _).trans found, member⟩
  · cases made

/-- A change by the name of a field leaves a value for it where its section is there. -/
theorem hasKey_of_change {part field : String} (split : splitName? name = some (part, field))
    (there : part ∈ Assoc.keys draft) (made : change draft name value = .ok next)
    : next.HasKey part field := by
  unfold change at made
  simp only [split] at made
  split at made
  · next absent =>
      obtain ⟨_, found⟩ := Assoc.mem_keys_iff.mp there
      rw [absent] at found
      cases found
  · next entries found =>
      cases made
      exact ⟨_, Assoc.get?_set_self _ _ _, mem_keys_set_self _ _ _⟩
  · cases made

/-- A field of a section that is not there is left aside. -/
theorem change_of_isForeign (own : Assoc.keys draft = sectionNames ++ ["debug"]) (foreign : isForeign name = true)
    : change draft name value = .ok draft := by
  unfold isForeign at foreign
  split at foreign
  · next part field split =>
      have absent : Assoc.get? part draft = none := by
        rw [Assoc.get?_eq_none_iff]
        intro held member
        have there : part ∈ Assoc.keys draft := List.mem_map.mpr ⟨_, member, rfl⟩
        rw [own] at there
        simp [sectionNames] at there foreign
        tauto
      unfold change
      simp only [split, absent]
  · cases foreign

end Changes

-----------------------------------------------------------------------------------------
-- Changes in order
-----------------------------------------------------------------------------------------

/-- Changes without those of sections that are not there do the same, by induction on the changes. -/
theorem changeAll_filter {draft : Draft} {changes : List (String × Datum)}
    (own : Assoc.keys draft = sectionNames ++ ["debug"]) (dotted : ∀ next ∈ changes, IsDotted next.1)
    : changeAll draft (changes.filter fun next => !isForeign next.1) = changeAll draft changes := by
  induction changes generalizing draft with
  | nil => rfl
  | cons entry rest ih =>
      obtain ⟨name, value⟩ := entry
      obtain ⟨here, later⟩ := List.forall_mem_cons.mp dotted
      simp only [changeAll] at ih ⊢
      cases foreign : isForeign name with
      | true =>
          rw [List.filter_cons_of_neg (by simp [foreign]), List.foldlM_cons, change_of_isForeign own foreign]
          exact ih own later
      | false =>
          rw [List.filter_cons_of_pos (by simp [foreign]), List.foldlM_cons, List.foldlM_cons]
          cases made : change draft name value with
          | error failure => rfl
          | ok next => exact ih ((keys_of_change here made).trans own) later

/-- The switch that changes reach is the same without those of sections that are not there, by induction on the
changes.
-/
theorem Draft.switchAfter_filter {draft : Draft} {changes : List (String × Datum)}
    (own : Assoc.keys draft = sectionNames ++ ["debug"]) (dotted : ∀ next ∈ changes, IsDotted next.1)
    : draft.switchAfter (changes.filter fun next => !isForeign next.1) = draft.switchAfter changes := by
  induction changes generalizing draft with
  | nil => rfl
  | cons entry rest ih =>
      obtain ⟨name, value⟩ := entry
      obtain ⟨here, later⟩ := List.forall_mem_cons.mp dotted
      have other : (name == "debug") = false := beq_eq_false_iff_ne.mpr (ne_debug_of_isDotted here)
      cases foreign : isForeign name with
      | true =>
          rw [List.filter_cons_of_neg (by simp [foreign]), ih own later]
          simp [switchAfter, other, change_of_isForeign own foreign]
      | false =>
          rw [List.filter_cons_of_pos (by simp [foreign]), switchAfter, switchAfter]
          cases made : change draft name value with
          | error failure => rfl
          | ok next => simp only [ih ((keys_of_change here made).trans own) later]

/-- Changes by dotted names keep the keys of each section, by induction on the changes. -/
theorem Draft.HasKey.of_changeAll {draft last : Draft} {changes : List (String × Datum)} {part field : String}
    (has : draft.HasKey part field) (dotted : ∀ next ∈ changes, IsDotted next.1)
    (made : changeAll draft changes = .ok last)
    : last.HasKey part field := by
  induction changes generalizing draft with
  | nil =>
      obtain rfl := Except.ok.inj made
      exact has
  | cons entry rest ih =>
      obtain ⟨here, later⟩ := List.forall_mem_cons.mp dotted
      rw [changeAll, List.foldlM_cons] at made
      obtain ⟨next, first, made⟩ := Except.bind_eq_ok_iff.mp made
      exact ih (has.of_change here first) later made

/-- Changes that name a field of a section that is there leave a value for it, by induction on the changes. -/
theorem hasKey_of_changeAll {draft last : Draft} {changes : List (String × Datum)} {name part field : String}
    {value : Datum} (split : splitName? name = some (part, field)) (there : part ∈ Assoc.keys draft)
    (dotted : ∀ next ∈ changes, IsDotted next.1) (member : (name, value) ∈ changes)
    (made : changeAll draft changes = .ok last)
    : last.HasKey part field := by
  induction changes generalizing draft with
  | nil => cases member
  | cons entry rest ih =>
      obtain ⟨here, later⟩ := List.forall_mem_cons.mp dotted
      rw [changeAll, List.foldlM_cons] at made
      obtain ⟨next, first, more⟩ := Except.bind_eq_ok_iff.mp made
      rcases List.mem_cons.mp member with rfl | below
      · exact (hasKey_of_change split there first).of_changeAll later more
      · exact ih ((keys_of_change here first).symm ▸ there) later below more

/-- Changes by dotted names keep a switch that is no mapping, by induction on the changes. -/
theorem switch_of_changeAll {draft last : Draft} {changes : List (String × Datum)}
    (plain : ∀ entries, draft.switch ≠ .map entries) (dotted : ∀ next ∈ changes, IsDotted next.1)
    (made : changeAll draft changes = .ok last)
    : last.switch = draft.switch := by
  induction changes generalizing draft with
  | nil =>
      obtain rfl := Except.ok.inj made
      rfl
  | cons entry rest ih =>
      obtain ⟨here, later⟩ := List.forall_mem_cons.mp dotted
      rw [changeAll, List.foldlM_cons] at made
      obtain ⟨next, first, made⟩ := Except.bind_eq_ok_iff.mp made
      have same : next.switch = draft.switch := switch_of_change plain (ne_debug_of_isDotted here) first
      exact (ih (by rwa [same]) later made).trans same

-----------------------------------------------------------------------------------------
-- Settings from a draft
-----------------------------------------------------------------------------------------

/-- A form is filled with its own names only. -/
theorem mem_keys_of_fill {form : Form Datum} {given filled : Section} (made : form.fill given = .ok filled)
    : ∀ name ∈ Assoc.keys given, name ∈ Assoc.keys form := by
  unfold Form.fill at made
  split at made
  · next known =>
      intro name member
      obtain ⟨entry, among, rfl⟩ := List.mem_map.mp member
      obtain ⟨field, listed, same⟩ := List.any_eq_true.mp (List.all_eq_true.mp known entry among)
      exact List.mem_map.mpr ⟨field, listed, eq_of_beq same⟩
  · cases made

/-- The texts among the keys of a mapping are names of the section that it gives, by induction on the entries. -/
theorem mem_keys_of_sectionOf {entries : Datum.Entries} {fields : Section} {name : String}
    (made : sectionOf (.map entries) = .ok fields) (member : Scalar.str name ∈ Assoc.keys entries)
    : name ∈ Assoc.keys fields := by
  induction entries generalizing fields with
  | nil => cases member
  | cons entry rest ih =>
      obtain ⟨key, value⟩ := entry
      rw [sectionOf, List.mapM_cons] at made
      obtain ⟨first, here, made⟩ := Except.bind_eq_ok_iff.mp made
      obtain ⟨others, later, made⟩ := Except.bind_eq_ok_iff.mp made
      cases made
      rcases List.mem_cons.mp member with same | below
      · obtain rfl : Scalar.str name = key := same
        cases here
        exact List.mem_cons_self
      · exact List.mem_cons_of_mem _ (ih later below)

/-- A section of a draft that gives settings has values for the fields of its form only. -/
theorem mem_keys_of_hasKey {draft : Draft} {part field : String} {fields filled : Section} {form : Form Datum}
    (has : draft.HasKey part field) (read : sectionOf ((Assoc.get? part draft).getD .null) = .ok fields)
    (made : form.fill fields = .ok filled)
    : field ∈ Assoc.keys form := by
  obtain ⟨entries, found, member⟩ := has
  rw [found, Option.getD_some] at read
  exact mem_keys_of_fill made field (mem_keys_of_sectionOf read member)

/-- A draft that gives settings has values for fields only, by cases on the section. -/
theorem exists_name_of_ofDraft {draft : Draft} {settings : Settings} {part field : String}
    (made : ofDraft draft = .ok settings) (own : part ∈ sectionNames) (has : draft.HasKey part field)
    : ∃ known : Field, splitName? known.name = some (part, field) := by
  unfold ofDraft ofSections at made
  obtain ⟨hostFields, hostRead, made⟩ := Except.bind_eq_ok_iff.mp made
  obtain ⟨host, hostMade, made⟩ := Except.bind_eq_ok_iff.mp made
  obtain ⟨lintFields, lintRead, made⟩ := Except.bind_eq_ok_iff.mp made
  obtain ⟨lint, lintMade, made⟩ := Except.bind_eq_ok_iff.mp made
  obtain ⟨logFields, logRead, made⟩ := Except.bind_eq_ok_iff.mp made
  obtain ⟨log, logMade, -⟩ := Except.bind_eq_ok_iff.mp made
  obtain ⟨_, hostFilled, -⟩ := Except.bind_eq_ok_iff.mp hostMade
  obtain ⟨_, lintFilled, -⟩ := Except.bind_eq_ok_iff.mp lintMade
  obtain ⟨_, logFilled, -⟩ := Except.bind_eq_ok_iff.mp logMade
  simp only [sectionNames, List.mem_cons, List.not_mem_nil, or_false] at own
  rcases own with rfl | rfl | rfl
  · have known := mem_keys_of_hasKey has hostRead hostFilled
    simp only [Assoc.keys, HostSettings.form, List.map_cons, List.map_nil, List.mem_cons, List.not_mem_nil,
      or_false] at known
    rcases known with rfl | rfl | rfl | rfl
    · exact ⟨.token, rfl⟩
    · exact ⟨.baseUrl, rfl⟩
    · exact ⟨.hostTimeout, rfl⟩
    · exact ⟨.retries, rfl⟩
  · have known := mem_keys_of_hasKey has lintRead lintFilled
    simp only [Assoc.keys, LintSettings.form, List.map_cons, List.map_nil, List.mem_cons, List.not_mem_nil,
      or_false] at known
    rcases known with rfl | rfl | rfl
    · exact ⟨.executable, rfl⟩
    · exact ⟨.lintTimeout, rfl⟩
    · exact ⟨.pointerFile, rfl⟩
  · have known := mem_keys_of_hasKey has logRead logFilled
    simp only [Assoc.keys, LogSettings.form, List.map_cons, List.map_nil, List.mem_cons, List.not_mem_nil,
      or_false] at known
    rcases known with rfl | rfl | rfl | rfl | rfl
    · exact ⟨.level, rfl⟩
    · exact ⟨.format, rfl⟩
    · exact ⟨.path, rfl⟩
    · exact ⟨.maxSize, rfl⟩
    · exact ⟨.backups, rfl⟩

/-- A name of a dotted change is none of those that no change may have. -/
theorem changed_of_dotted {changes : List (String × Datum)} (dotted : ∀ next ∈ changes, IsDotted next.1)
    (settings : Settings)
    : settings.changed changes = changeAll settings.draft changes >>= ofDraft := by
  have free : (changes.any fun next => next.1 == Update.reserved) = false := by
    rw [List.any_eq_false]
    exact fun next member same => ne_reserved_of_isDotted (dotted next member) (eq_of_beq same)
  rw [changed, free]
  rfl

theorem switchAfter_of_dotted {changes : List (String × Datum)} (dotted : ∀ next ∈ changes, IsDotted next.1)
    (settings : Settings)
    : settings.switchAfter changes = settings.draft.switchAfter changes := by
  have free : (changes.any fun next => next.1 == Update.reserved) = false := by
    rw [List.any_eq_false]
    exact fun next member same => ne_reserved_of_isDotted (dotted next member) (eq_of_beq same)
  rw [switchAfter, free]
  rfl

/-- Changes that name a field that is not there make no settings, by cases on whether it is one of the switch. -/
theorem exists_not_changed_of_isUnknown {settings : Settings} {changes : List (String × Datum)}
    (plain : ∀ entries, settings.debug ≠ .map entries) (dotted : ∀ next ∈ changes, IsDotted next.1)
    (unknown : ∃ next ∈ changes, IsUnknown next.1)
    : ∃ failure, settings.changed changes = .error failure := by
  rw [changed_of_dotted dotted]
  obtain ⟨⟨name, value⟩, member, part, field, split, own, other⟩ := unknown
  cases made : changeAll settings.draft changes >>= ofDraft with
  | error failure => exact ⟨failure, rfl⟩
  | ok next =>
      obtain ⟨last, reached, given⟩ := Except.bind_eq_ok_iff.mp made
      have there : part ∈ Assoc.keys settings.draft :=
        (List.perm_append_singleton "debug" sectionNames).mem_iff.mpr own
      have has := hasKey_of_changeAll split there dotted member reached
      rcases List.mem_cons.mp own with rfl | own
      · obtain ⟨entries, found, -⟩ := has
        have same := switch_of_changeAll (by rwa [switch_draft]) dotted reached
        rw [Draft.switch, found, Option.getD_some, switch_draft] at same
        exact absurd same.symm (plain entries)
      · obtain ⟨known, same⟩ := exists_name_of_ofDraft given own has
        have again : known.name = name :=
          String.toList_injective ((toList_of_splitName? same).trans (toList_of_splitName? split).symm)
        exact absurd again (other known)

end Settings

-----------------------------------------------------------------------------------------
-- Updates of fields
-----------------------------------------------------------------------------------------

namespace SettingsManager

open Settings

/-- An update by the names of fields makes their values take effect, and ends as the check of the settings does. -/
theorem update_byName (files : FileSystem) (manager : SettingsManager) (changes : List (Field × Datum))
    : manager.update files (byName changes)
      = (check files (manager.settings.putAll changes), ⟨manager.settings.putAll changes⟩) := by
  have dotted : ∀ next ∈ byName changes, IsDotted next.1 := by
    intro next member
    obtain ⟨change, -, rfl⟩ := List.mem_map.mp member
    exact isDotted_name change.1
  refine update_of_changed ?_
  rw [changed_of_dotted dotted, changeAll_byName]
  rfl

/-- Updates that make the same of the settings and of the switch are the same. -/
theorem update_congr {files : FileSystem} {manager : SettingsManager} {changes other : List (String × Datum)}
    (made : manager.settings.changed changes = manager.settings.changed other)
    (switch : manager.settings.switchAfter changes = manager.settings.switchAfter other)
    : manager.update files changes = manager.update files other := by
  cases ended : manager.settings.changed other with
  | ok next => rw [update_of_changed ended, update_of_changed (made.trans ended)]
  | error failure => rw [update_of_not_changed ended, update_of_not_changed (made.trans ended), switch]

/-- An update without the fields of sections that are not there does the same. -/
theorem update_filter (files : FileSystem) (manager : SettingsManager) {changes : List (String × Datum)}
    (dotted : ∀ next ∈ changes, IsDotted next.1)
    : manager.update files (changes.filter fun next => !isForeign next.1)
      = manager.update files changes := by
  have kept : ∀ next ∈ changes.filter fun next => !isForeign next.1, IsDotted next.1 :=
    fun next member => dotted next (List.mem_of_mem_filter member)
  refine update_congr ?_ ?_
  · rw [changed_of_dotted dotted, changed_of_dotted kept, changeAll_filter rfl dotted]
  · rw [switchAfter_of_dotted dotted, switchAfter_of_dotted kept, Draft.switchAfter_filter rfl dotted]

/-- (TouchesNamed files manager) says that updates by dotted names touch what they name and nothing else. -/
structure TouchesNamed (files : FileSystem) (manager : SettingsManager) : Prop where
  /-- Valid settings take effect with the values of the fields named and of no other ones. -/
  replaced : ∀ changes : List (Field × Datum), (Assoc.keys changes).Nodup →
    ∃ next,
      manager.settings.Replaces changes next
      ∧ (next.validate = .ok () → manager.update files (byName changes) = (next.log.openFile files, ⟨next⟩))
  /-- The order of the names does not matter. -/
  unordered : ∀ changes other : List (Field × Datum), (Assoc.keys changes).Nodup → other.Perm changes →
    manager.update files (byName other) = manager.update files (byName changes)
  /-- Fields of sections that are not there are left aside. -/
  foreign : ∀ changes : List (String × Datum), (∀ next ∈ changes, IsDotted next.1) →
    manager.update files (changes.filter fun next => !isForeign next.1) = manager.update files changes
  /-- Alone they change nothing. -/
  untouched : ∀ changes : List (String × Datum), (∀ next ∈ changes, isForeign next.1 = true) →
    (manager.update files changes).2 = manager
  /-- A field that is not there makes the update fail, and the settings stay unless the switch is a mapping. -/
  refused : ∀ changes : List (String × Datum), (∀ next ∈ changes, IsDotted next.1) →
    (∃ next ∈ changes, IsUnknown next.1) → (∀ entries, manager.settings.debug ≠ .map entries) →
      ∃ failure, manager.update files changes = (.error failure, manager)
  /-- What is shown of the settings is the same whatever the token. -/
  hidden : ∀ token, (manager.settings.put token .token).shown = manager.settings.shown

/-- Updates of any manager's settings by dotted names touch what they name and nothing else, whatever files
there are.
-/
theorem touchesNamed (files : FileSystem) (manager : SettingsManager) : manager.TouchesNamed files where
  replaced changes distinct := by
    refine ⟨_, replaces_putAll distinct manager.settings, fun valid => ?_⟩
    rw [update_byName, check, valid]
    rfl
  unordered changes other distinct same := by
    have again : (Assoc.keys other).Nodup := (same.map Prod.fst).nodup_iff.mpr distinct
    have ends : manager.settings.putAll other = manager.settings.putAll changes :=
      ((replaces_putAll again _).of_perm distinct same).unique (replaces_putAll distinct _)
    rw [update_byName, update_byName, ends]
  foreign changes dotted := manager.update_filter files dotted
  untouched changes foreign := by
    have dotted : ∀ next ∈ changes, IsDotted next.1 :=
      fun next member => isDotted_of_isForeign (foreign next member)
    have none : changes.filter (fun next => !isForeign next.1) = byName [] := by
      rw [byName, List.map_nil, List.filter_eq_nil_iff]
      exact fun next member => by simp [foreign next member]
    rw [← manager.update_filter files dotted, none, update_byName]
    rfl
  refused changes dotted unknown plain := by
    obtain ⟨failure, unmade⟩ := exists_not_changed_of_isUnknown plain dotted unknown
    exact ⟨failure, update_of_not_changed_of_plain plain unmade⟩
  hidden token := rfl

theorem isUnknown_lintTrace : IsUnknown "lint.trace" :=
  ⟨"lint", "trace", rfl, by decide, fun known => by cases known <;> decide⟩

/-- Two fields of the usual settings get values, and one that is not there is refused. -/
theorem touchesNamed_standard
    : (SettingsManager.mk .standard).update (.holding "/app/lint.log")
          [("lint.engine_timeout_seconds", .whole 9), ("github.token", .text "t")]
        = (.ok (), ⟨(Settings.standard.put (.whole 9) .lintTimeout).put (.text "t") .token⟩)
      ∧ ∃ failure,
          (SettingsManager.mk .standard).update (.holding "/app/lint.log") [("lint.trace", .whole 1)]
            = (.error failure, ⟨.standard⟩) := by
  have touches := touchesNamed (.holding "/app/lint.log") ⟨.standard⟩
  have distinct : (Assoc.keys [(Field.lintTimeout, Datum.whole 9), (.token, .text "t")]).Nodup := by decide
  obtain ⟨next, replaces, updated⟩ := touches.replaced _ distinct
  have reached : next = (Settings.standard.put (.whole 9) .lintTimeout).put (.text "t") .token :=
    replaces.unique (replaces_putAll distinct _)
  have dotted : ∀ next ∈ [("lint.trace", Datum.whole 1)], IsDotted next.1 := by
    rintro next (_ | ⟨_, ⟨⟩⟩)
    exact ⟨"lint", "trace", rfl⟩
  refine ⟨?_, touches.refused _ dotted ⟨_, List.mem_cons_self, isUnknown_lintTrace⟩ nofun⟩
  rw [reached] at updated
  exact updated rfl

/-- A field that is not there is refused, but the switch keeps a field that it got before. -/
theorem not_refused_tracedSwitch
    : ofEnvironment (.holding "/app/lint.log") [] = .ok ⟨.standard⟩
      ∧ ∃ manager failure,
          (SettingsManager.mk .standard).update (.holding "/app/lint.log") [("debug", .map [])]
            = (.ok (), manager)
          ∧ IsUnknown "lint.trace"
          ∧ (manager.update (.holding "/app/lint.log")
              [("debug.trace", .whole 1), ("lint.trace", .whole 1)]).1 = .error failure
          ∧ (manager.update (.holding "/app/lint.log")
              [("debug.trace", .whole 1), ("lint.trace", .whole 1)]).2 ≠ manager := by
  have updated
      : (SettingsManager.mk .standard).update (.holding "/app/lint.log") [("debug", .map [])]
        = (.ok (), ⟨Settings.standard.withSwitch (.map [])⟩) := rfl
  have unmade
      : (Settings.standard.withSwitch (.map [])).changed
          [("debug.trace", .whole 1), ("lint.trace", .whole 1)]
        = .error (.misuse .fields) := rfl
  have failed
      : (SettingsManager.mk (Settings.standard.withSwitch (.map []))).update (.holding "/app/lint.log")
          [("debug.trace", .whole 1), ("lint.trace", .whole 1)]
        = _ := update_of_not_changed unmade
  refine ⟨ofEnvironment_nil, _, _, updated, isUnknown_lintTrace, by rw [failed], ?_⟩
  rw [failed]
  intro same
  have truthy := congrArg (fun manager => manager.settings.debug.isTruthy) same
  revert truthy
  decide +kernel

end SettingsManager

end PatchReview
