import PatchReview.Proofs.Assoc
import PatchReview.Proofs.Attempt
import PatchReview.Settings.Manager

/-! What updates of the settings leave behind, whatever files there are. An update that succeeds leaves
settings that were checked. One that fails may leave others than before: settings that were refused, or whose
log does not open, or a switch that was changed within before the failure.
-/

namespace PatchReview

-----------------------------------------------------------------------------------------
-- Changes in order
-----------------------------------------------------------------------------------------

namespace Settings

/-- The settings that an empty environment gives. -/
def standard : Settings where
  host := ⟨.null, .text "https://api.github.com", .whole 30, .whole 3⟩
  lint := .standard
  log := ⟨.text "INFO", .text LogSettings.defaultFormat, .null, .whole LogSettings.defaultMaxSize, .whole 5⟩
  debug := .scalar (.bool false)

/-- (changeAll draft changes) is the draft after changes in order. -/
def changeAll (draft : Draft) (changes : List (String × Datum)) : Except Failure Draft :=
  changes.foldlM (fun reached next => change reached next.1 next.2) draft

/-- (changed settings changes) is what changes make of settings. -/
def changed (settings : Settings) (changes : List (String × Datum)) : Except Failure Settings :=
  if changes.any (·.1 == Update.reserved) then .error (.misuse .fields)
  else changeAll settings.draft changes >>= ofDraft

/-- The switch of a draft. -/
def Draft.switch (draft : Draft) : Datum := (Assoc.get? "debug" draft).getD .null

/-- (Draft.switchAfter draft changes) is the switch that changes reach: that of the draft up to the first
change that fails or that gives the draft another switch.
-/
def Draft.switchAfter : Draft → List (String × Datum) → Datum
  | draft, [] => draft.switch
  | draft, (name, value) :: rest =>
      if name == "debug" then draft.switch
      else match change draft name value with
        | .error _ => draft.switch
        | .ok next => switchAfter next rest

/-- (switchAfter settings changes) is the switch of settings that changes could not make others of. -/
def switchAfter (settings : Settings) (changes : List (String × Datum)) : Datum :=
  if changes.any (·.1 == Update.reserved) then settings.debug
  else settings.draft.switchAfter changes

/-- The draft of settings has their switch. -/
theorem switch_draft (settings : Settings) : settings.draft.switch = settings.debug := by
  simp [Draft.switch, draft, shown, Assoc.set, Assoc.get?]

/-- A change by another name leaves a switch that is no mapping, by cases on whether it names a field. -/
theorem switch_of_change {draft next : Draft} {name : String} {value : Datum}
    (plain : ∀ entries, draft.switch ≠ .map entries) (other : name ≠ "debug")
    (made : change draft name value = .ok next)
    : next.switch = draft.switch := by
  unfold change at made
  split at made
  · cases made
    rw [Draft.switch, Assoc.get?_set_of_ne other.symm, Draft.switch]
  · next part field named =>
      split at made
      · cases made
        rfl
      · next entries found =>
          have elsewhere : part ≠ "debug" := by
            rintro rfl
            exact plain entries (by rw [Draft.switch, found, Option.getD_some])
          cases made
          rw [Draft.switch, Assoc.get?_set_of_ne elsewhere.symm, Draft.switch]
      · cases made

/-- Changes reach no other switch than the draft's where that is no mapping, by induction on the changes.
-/
theorem Draft.switchAfter_of_plain {draft : Draft} (plain : ∀ entries, draft.switch ≠ .map entries)
    (changes : List (String × Datum))
    : draft.switchAfter changes = draft.switch := by
  induction changes generalizing draft with
  | nil => rfl
  | cons entry rest ih =>
      obtain ⟨name, value⟩ := entry
      unfold switchAfter
      split
      · rfl
      · next other =>
          cases made : change draft name value with
          | error failure => rfl
          | ok next =>
              have same : next.switch = draft.switch := switch_of_change plain (by simpa using other) made
              exact (ih (by rwa [same])).trans same

/-- Settings whose switch is no mapping keep it where changes could not make others of them. -/
theorem switchAfter_of_plain {settings : Settings} (plain : ∀ entries, settings.debug ≠ .map entries)
    (changes : List (String × Datum))
    : settings.switchAfter changes = settings.debug := by
  unfold switchAfter
  split
  · rfl
  · rw [← switch_draft] at plain
    exact (Draft.switchAfter_of_plain plain changes).trans (switch_draft settings)

/-- (withSwitch settings switch) is settings with another switch. -/
def withSwitch (settings : Settings) (switch : Datum) : Settings := { settings with debug := switch }

@[simp] theorem debug_withSwitch (settings : Settings) (switch : Datum)
    : (settings.withSwitch switch).debug = switch := rfl

@[simp] theorem withSwitch_withSwitch (settings : Settings) (first second : Datum)
    : (settings.withSwitch first).withSwitch second = settings.withSwitch second := rfl

/-- The check of settings does not look at the switch. -/
@[simp] theorem validate_withSwitch (settings : Settings) (switch : Datum)
    : (settings.withSwitch switch).validate = settings.validate := rfl

/-- Settings with another switch are others, unless it is the same. -/
theorem withSwitch_eq_self_iff {settings : Settings} {switch : Datum}
    : settings.withSwitch switch = settings ↔ switch = settings.debug := by
  constructor
  · exact fun same => congrArg Settings.debug same
  · rintro rfl
    rfl

namespace Update

/-- (took update name draft) is an update after a change of that name gave it another draft. The switch
takes effect where the draft still has the same one as the settings.
-/
def took (update : Update) (name : String) (draft : Draft) : Update :=
  let isShared := update.isShared && name != "debug"
  ⟨draft, update.settings.withSwitch (if isShared then draft.switch else update.settings.debug), isShared⟩

/-- A change fails as it does on the draft, and otherwise takes effect there. -/
theorem on_step (update : Update) (name : String) (value : Datum)
    : (step (name, value)).on update
      = match change update.draft name value with
        | .error failure => (.error failure, update)
        | .ok draft => (.ok (), update.took name draft) := by
  rw [step, Attempt.on_bind, Attempt.on_get]
  dsimp only
  rw [Attempt.on_bind, Attempt.on_ofExcept]
  cases change update.draft name value with
  | error failure => rfl
  | ok draft => rfl

/-- (lastSwitch update changes) is the switch of the settings after more changes. -/
def lastSwitch (update : Update) (changes : List (String × Datum)) : Datum :=
  if update.isShared then update.draft.switchAfter changes else update.settings.debug

/-- The switch after all changes is the one after those that follow the first, by cases on whether the
first gives the draft another switch.
-/
theorem lastSwitch_took {update : Update} {name : String} {value : Datum} {next : Draft}
    {rest : List (String × Datum)}
    (shared : update.isShared = true → update.settings.debug = update.draft.switch)
    (made : change update.draft name value = .ok next)
    : (update.took name next).lastSwitch rest = update.lastSwitch ((name, value) :: rest) := by
  cases isShared : update.isShared with
  | false => simp [took, lastSwitch, isShared]
  | true =>
      by_cases whole : name = "debug"
      · simp [took, lastSwitch, isShared, whole, Draft.switchAfter, shared isShared]
      · simp [took, lastSwitch, isShared, whole, Draft.switchAfter, made]

/-- Changes in order fail as they do on the draft, and the settings change in nothing but the switch, by
induction on the changes. Witness: the switch of the settings is that of the draft as long as they share
it.
-/
theorem on_forM_step {update : Update} (changes : List (String × Datum))
    (shared : update.isShared = true → update.settings.debug = update.draft.switch)
    : ∃ reached,
        (changes.forM step).on update = ((changeAll update.draft changes).map fun _ => (), reached)
        ∧ (∀ draft, changeAll update.draft changes = .ok draft → reached.draft = draft)
        ∧ reached.settings = update.settings.withSwitch (update.lastSwitch changes) := by
  induction changes generalizing update with
  | nil =>
      refine ⟨update, rfl, fun draft same => Except.ok.inj same, (withSwitch_eq_self_iff.mpr ?_).symm⟩
      unfold lastSwitch
      split
      · next isShared => rw [Draft.switchAfter, shared isShared]
      · rfl
  | cons entry rest ih =>
      obtain ⟨name, value⟩ := entry
      have first : ((name, value) :: rest).forM step = step (name, value) >>= fun _ => rest.forM step := rfl
      rw [first, Attempt.on_bind, on_step, changeAll, List.foldlM_cons]
      dsimp only
      cases made : change update.draft name value with
      | error failure =>
          refine ⟨update, rfl, nofun, (withSwitch_eq_self_iff.mpr ?_).symm⟩
          unfold lastSwitch
          split
          · next isShared => simp [Draft.switchAfter, made, shared isShared]
          · rfl
      | ok next =>
          obtain ⟨reached, ended, kept, settings⟩ :=
            @ih (update.took name next) fun isShared => if_pos isShared
          refine ⟨reached, ended, kept, settings.trans ?_⟩
          rw [lastSwitch_took shared made, took, withSwitch_withSwitch]

/-- An update ends with what the changes make of the settings, and leaves settings that differ at most in
the switch.
-/
theorem on_run (settings : Settings) (changes : List (String × Datum))
    : ∃ reached,
        (run changes).on (start settings) = (settings.changed changes, reached)
        ∧ reached.settings = settings.withSwitch (settings.switchAfter changes) := by
  unfold run changed Settings.switchAfter
  split
  · exact ⟨start settings, rfl, rfl⟩
  · obtain ⟨reached, ended, kept, left⟩ :=
      @on_forM_step (start settings) changes fun _ => (switch_draft settings).symm
    refine ⟨reached, ?_, left⟩
    dsimp only [start] at ended kept ⊢
    rw [Attempt.on_bind, ended]
    cases made : changeAll settings.draft changes with
    | error failure => rfl
    | ok draft =>
        rw [← kept draft made]
        rfl

end Update

end Settings

-----------------------------------------------------------------------------------------
-- Updates that fail
-----------------------------------------------------------------------------------------

/-- (Settings.Upset files settings changes) says that an update fails and leaves other settings behind: new
ones that were refused, or whose log does not open among the files, or the old ones with another switch.
-/
inductive Settings.Upset (files : FileSystem) (settings : Settings) (changes : List (String × Datum))
    : Prop where
  | refused {next failure} (made : settings.changed changes = .ok next)
    (failed : next.validate = .error failure) (differs : next ≠ settings)
  | unopened {next failure} (made : settings.changed changes = .ok next)
    (valid : next.validate = .ok ()) (failed : next.log.openFile files = .error failure)
    (differs : next ≠ settings)
  | switched {failure} (unmade : settings.changed changes = .error failure)
    (differs : settings.switchAfter changes ≠ settings.debug)

namespace SettingsManager

variable {files : FileSystem} {manager : SettingsManager} {changes : List (String × Datum)}

/-- What changes make of the settings takes effect, and the update ends as their check does. -/
theorem update_of_changed {next : Settings} (made : manager.settings.changed changes = .ok next)
    : manager.update files changes = (check files next, ⟨next⟩) := by
  obtain ⟨reached, ended, -⟩ := Settings.Update.on_run manager.settings changes
  rw [update, ended, made]

/-- Where changes make no settings, nothing but another switch takes effect. -/
theorem update_of_not_changed {failure : Failure}
    (unmade : manager.settings.changed changes = .error failure)
    : manager.update files changes
      = (.error failure, ⟨manager.settings.withSwitch (manager.settings.switchAfter changes)⟩) := by
  obtain ⟨reached, ended, left⟩ := Settings.Update.on_run manager.settings changes
  rw [update, ended, unmade, ← left]

/-- Where the switch is no mapping, changes that make no settings leave the manager as it was. -/
theorem update_of_not_changed_of_plain {failure : Failure}
    (plain : ∀ entries, manager.settings.debug ≠ .map entries)
    (unmade : manager.settings.changed changes = .error failure)
    : manager.update files changes = (.error failure, manager) := by
  rw [update_of_not_changed unmade, Settings.switchAfter_of_plain plain changes,
    Settings.withSwitch_eq_self_iff.mpr rfl]

/-- Settings pass the check of an update when they are valid and their log opens. -/
theorem check_eq_ok_iff {settings : Settings}
    : check files settings = .ok ()
      ↔ settings.validate = .ok () ∧ settings.log.openFile files = .ok () := by
  constructor
  · intro checked
    obtain ⟨_, valid, opened⟩ := Except.bind_eq_ok_iff.mp checked
    exact ⟨valid, opened⟩
  · rintro ⟨valid, opened⟩
    rw [check, valid]
    exact opened

/-- (Keeps files manager changes) says that an update leaves valid settings, and those from before if it
fails.
-/
structure Keeps (files : FileSystem) (manager : SettingsManager) (changes : List (String × Datum))
    : Prop where
  valid : (manager.update files changes).2.settings.validate = .ok ()
  unchanged : ∀ failure,
    (manager.update files changes).1 = .error failure
      → (manager.update files changes).2.settings = manager.settings

/-- Where changes make no settings, an update keeps the settings just when their switch stays. -/
theorem keeps_iff_of_not_changed {failure : Failure} (valid : manager.settings.validate = .ok ())
    (unmade : manager.settings.changed changes = .error failure)
    : manager.Keeps files changes
      ↔ manager.settings.switchAfter changes = manager.settings.debug := by
  have updated := @update_of_not_changed files manager changes failure unmade
  constructor
  · intro kept
    have unchanged := kept.unchanged failure (by rw [updated])
    rw [updated] at unchanged
    exact Settings.withSwitch_eq_self_iff.mp unchanged
  · intro same
    refine ⟨?_, fun _ _ => ?_⟩
    · rw [updated]
      exact (Settings.validate_withSwitch _ _).trans valid
    · rw [updated]
      exact Settings.withSwitch_eq_self_iff.mpr same

/-- Where changes make settings, an update keeps the settings just when the new ones pass their check, or
are the same.
-/
theorem keeps_iff_of_changed {next : Settings} (valid : manager.settings.validate = .ok ())
    (made : manager.settings.changed changes = .ok next)
    : manager.Keeps files changes ↔ check files next = .ok () ∨ next = manager.settings := by
  have updated := @update_of_changed files manager changes next made
  constructor
  · intro kept
    cases checked : check files next with
    | ok => exact Or.inl rfl
    | error failure =>
        have unchanged := kept.unchanged failure (by rw [updated, checked])
        rw [updated] at unchanged
        exact Or.inr unchanged
  · rintro (checked | same)
    · refine ⟨?_, fun failure failed => ?_⟩
      · rw [updated]
        exact (check_eq_ok_iff.mp checked).1
      · rw [updated, checked] at failed
        cases failed
    · refine ⟨?_, fun _ _ => ?_⟩
      · rw [updated, same]
        exact valid
      · rw [updated]
        exact same

/-- An update of valid settings keeps them unless it upsets them, by cases on whether the changes make
other settings and on where their check fails.
-/
theorem keeps_iff_not_upset (valid : manager.settings.validate = .ok ())
    : manager.Keeps files changes ↔ ¬ manager.settings.Upset files changes := by
  cases made : manager.settings.changed changes with
  | error failure =>
      rw [keeps_iff_of_not_changed valid made]
      constructor
      · rintro same (⟨other, -, -⟩ | ⟨other, -, -, -⟩ | ⟨-, differs⟩)
        · cases made.symm.trans other
        · cases made.symm.trans other
        · exact differs same
      · exact fun calm => Classical.byContradiction fun differs => calm (.switched made differs)
  | ok next =>
      rw [keeps_iff_of_changed valid made, check_eq_ok_iff]
      constructor
      · rintro kept (⟨same, failed, differs⟩ | ⟨same, -, failed, differs⟩ | ⟨unmade, -⟩)
        · obtain rfl := Except.ok.inj (made.symm.trans same)
          obtain ⟨passed, -⟩ := kept.resolve_right differs
          cases passed.symm.trans failed
        · obtain rfl := Except.ok.inj (made.symm.trans same)
          obtain ⟨-, opened⟩ := kept.resolve_right differs
          cases opened.symm.trans failed
        · cases made.symm.trans unmade
      · intro calm
        by_cases same : next = manager.settings
        · exact Or.inr same
        · refine Or.inl ?_
          cases passed : next.validate with
          | error failure => exact absurd (.refused made passed same) calm
          | ok =>
              refine ⟨rfl, ?_⟩
              cases opened : next.log.openFile files with
              | error failure => exact absurd (.unopened made passed opened same) calm
              | ok => rfl

-----------------------------------------------------------------------------------------
-- Updates in a row
-----------------------------------------------------------------------------------------

/-- An update that is asked for, and the files there are at that time. -/
structure Call where
  files : FileSystem
  changes : List (String × Datum)

/-- (Throughout Holds manager calls) says that each update holds to a rule when updates are made in a row,
whatever their outcomes.
-/
def Throughout (Holds : SettingsManager → Call → Prop) : SettingsManager → List Call → Prop
  | _, [] => True
  | manager, call :: rest =>
      Holds manager call ∧ Throughout Holds (manager.update call.files call.changes).2 rest

/-- A manager is made of settings just when they are valid, their lines have a format and their log opens. -/
theorem ofSettings_eq_ok_iff {settings : Settings}
    : ofSettings files settings = .ok manager
      ↔ manager = ⟨settings⟩
        ∧ settings.validate = .ok ()
        ∧ settings.log.checkFormat = .ok ()
        ∧ settings.log.openFile files = .ok () := by
  constructor
  · intro made
    obtain ⟨_, valid, later⟩ := Except.bind_eq_ok_iff.mp made
    obtain ⟨_, shaped, later⟩ := Except.bind_eq_ok_iff.mp later
    obtain ⟨_, opened, last⟩ := Except.bind_eq_ok_iff.mp later
    cases last
    exact ⟨rfl, valid, shaped, opened⟩
  · rintro ⟨rfl, valid, shaped, opened⟩
    rw [ofSettings, valid]
    show (settings.log.checkFormat >>= fun _ => _) = _
    rw [shaped]
    show (settings.log.openFile files >>= fun _ => _) = _
    rw [opened]
    rfl

/-- Valid settings are kept throughout updates in a row unless one of them upsets those it finds, by
induction on the updates: the settings that an update keeps are valid for the next one.
-/
theorem throughout_keeps_iff_of_valid {calls : List Call} (valid : manager.settings.validate = .ok ())
    : manager.Throughout (fun reached call => reached.Keeps call.files call.changes) calls
      ↔ manager.Throughout
          (fun reached call => ¬ reached.settings.Upset call.files call.changes) calls := by
  induction calls generalizing manager with
  | nil => exact Iff.rfl
  | cons call rest ih =>
      have here := @keeps_iff_not_upset call.files manager call.changes valid
      constructor
      · rintro ⟨kept, later⟩
        exact ⟨here.mp kept, (ih kept.valid).mp later⟩
      · rintro ⟨calm, later⟩
        have kept := here.mpr calm
        exact ⟨kept, (ih kept.valid).mpr later⟩

/-- A manager's updates in a row leave valid settings, and those from before where they fail, exactly when
none of them upsets the settings it finds, whatever files there are when it is made and at each update.
-/
theorem throughout_keeps_iff
    (made : (∃ settings, ofSettings files settings = .ok manager)
      ∨ ∃ env, ofEnvironment files env = .ok manager)
    (calls : List Call)
    : manager.Throughout (fun reached call => reached.Keeps call.files call.changes) calls
      ↔ manager.Throughout
          (fun reached call => ¬ reached.settings.Upset call.files call.changes) calls := by
  refine throughout_keeps_iff_of_valid ?_
  rcases made with ⟨settings, made⟩ | ⟨env, made⟩
  · obtain ⟨rfl, valid, -⟩ := ofSettings_eq_ok_iff.mp made
    exact valid
  · obtain ⟨settings, -, made⟩ := Except.bind_eq_ok_iff.mp made
    obtain ⟨rfl, valid, -⟩ := ofSettings_eq_ok_iff.mp made
    exact valid

end SettingsManager

/-- (FileSystem.holding path) is a file system in which a log opens at one path only, and nothing is read. -/
def FileSystem.holding (path : String) : FileSystem where
  append given := if given = .text path then .ok () else .error (.unopened .denied)
  read? _ := .ok none

/-- (Settings.logged path) is the usual settings with a log at a path. -/
def Settings.logged (path : String) : Settings :=
  { standard with log := { standard.log with path := .text path } }

namespace SettingsManager

variable {files : FileSystem}

/-- An empty environment makes a manager of the usual settings, whatever files there are. -/
theorem ofEnvironment_nil : ofEnvironment files [] = .ok ⟨.standard⟩ := by
  have same : ofEnvironment files [] = ofSettings files .standard := rfl
  obtain ⟨⟨⟩, valid⟩ := @Except.exists_of_isSome_toOption _ _ Settings.standard.validate (by decide +kernel)
  obtain ⟨⟨⟩, shaped⟩ :=
    @Except.exists_of_isSome_toOption _ _ Settings.standard.log.checkFormat (by decide +kernel)
  rw [same]
  exact ofSettings_eq_ok_iff.mpr ⟨rfl, valid, shaped, rfl⟩

/-- An environment that names a log which opens makes a manager that keeps it. -/
theorem ofEnvironment_logFile
    : ofEnvironment (.holding "/app/lint.log") [("LOG_FILE", "/app/lint.log")]
      = .ok ⟨.logged "/app/lint.log"⟩ := by
  have same
      : ofEnvironment (.holding "/app/lint.log") [("LOG_FILE", "/app/lint.log")]
        = ofSettings (.holding "/app/lint.log") (.logged "/app/lint.log") := rfl
  obtain ⟨⟨⟩, valid⟩ :=
    @Except.exists_of_isSome_toOption _ _ (Settings.logged "/app/lint.log").validate (by decide +kernel)
  obtain ⟨⟨⟩, shaped⟩ :=
    @Except.exists_of_isSome_toOption _ _ (Settings.logged "/app/lint.log").log.checkFormat
      (by decide +kernel)
  obtain ⟨⟨⟩, opened⟩ :=
    @Except.exists_of_isSome_toOption _ _
      ((Settings.logged "/app/lint.log").log.openFile (.holding "/app/lint.log")) (by decide +kernel)
  rw [same]
  exact ofSettings_eq_ok_iff.mpr ⟨rfl, valid, shaped, opened⟩

/-- A field that is not there comes after one that the switch has taken already. -/
theorem upset_tracedSwitch
    : ((Settings.logged "/app/lint.log").withSwitch (.map [])).Upset files
        [("debug.trace", .whole 1), ("lint.trace", .whole 1)] := by
  have unmade
      : ((Settings.logged "/app/lint.log").withSwitch (.map [])).changed
          [("debug.trace", .whole 1), ("lint.trace", .whole 1)]
        = .error (.misuse .fields) := rfl
  refine .switched unmade ?_
  intro same
  have truthy := congrArg Datum.isTruthy same
  revert truthy
  decide +kernel

/-- A log at another path does not open where only the first one does. -/
theorem upset_otherLog
    : (Settings.logged "/app/lint.log").Upset (.holding "/app/lint.log")
        [("logging.file_path", .text "/app/other.log")] := by
  have made
      : (Settings.logged "/app/lint.log").changed [("logging.file_path", .text "/app/other.log")]
        = .ok (.logged "/app/other.log") := rfl
  obtain ⟨⟨⟩, valid⟩ :=
    @Except.exists_of_isSome_toOption _ _ (Settings.logged "/app/other.log").validate (by decide +kernel)
  have closed
      : ((Settings.logged "/app/other.log").log.openFile (.holding "/app/lint.log")).toOption.isNone := by
    decide +kernel
  cases opened : (Settings.logged "/app/other.log").log.openFile (.holding "/app/lint.log") with
  | ok =>
      rw [opened] at closed
      cases closed
  | error failure =>
      refine .unopened made valid opened ?_
      intro same
      have shown := congrArg (fun settings => settings.log.path.display) same
      revert shown
      decide +kernel

/-- An update that fails on a field that is not there leaves the switch with a field it had set before. One
whose log does not open leaves the path of that log.
-/
theorem not_throughout_keeps_tracedSwitch
    : ofEnvironment (.holding "/app/lint.log") [("LOG_FILE", "/app/lint.log")]
        = .ok ⟨.logged "/app/lint.log"⟩
      ∧ ¬ Throughout (fun reached call => reached.Keeps call.files call.changes)
          ⟨.logged "/app/lint.log"⟩
          [⟨.holding "/app/lint.log", [("debug", .map [])]⟩,
            ⟨.holding "/app/lint.log", [("debug.trace", .whole 1), ("lint.trace", .whole 1)]⟩]
      ∧ ¬ Throughout (fun reached call => reached.Keeps call.files call.changes)
          ⟨.logged "/app/lint.log"⟩
          [⟨.holding "/app/lint.log", [("logging.file_path", .text "/app/other.log")]⟩] := by
  refine ⟨ofEnvironment_logFile, ?_, ?_⟩
  · intro kept
    obtain ⟨-, calm, -⟩ := (throughout_keeps_iff (Or.inr ⟨_, ofEnvironment_logFile⟩) _).mp kept
    have made
        : (Settings.logged "/app/lint.log").changed [("debug", .map [])]
          = .ok ((Settings.logged "/app/lint.log").withSwitch (.map [])) := rfl
    have updated
        : (SettingsManager.mk (.logged "/app/lint.log")).update (.holding "/app/lint.log")
            [("debug", .map [])]
          = _ := update_of_changed made
    dsimp only at calm
    rw [updated] at calm
    exact calm upset_tracedSwitch
  · intro kept
    obtain ⟨calm, -⟩ := (throughout_keeps_iff (Or.inr ⟨_, ofEnvironment_logFile⟩) _).mp kept
    exact calm upset_otherLog

/-- An update with a limit of no seconds fails, and the limit stays. -/
theorem not_keeps_zeroTimeout
    : ofEnvironment (.holding "/app/lint.log") [] = .ok ⟨.standard⟩
      ∧ ¬ Keeps (.holding "/app/lint.log") ⟨.standard⟩ [("lint.engine_timeout_seconds", .whole 0)] := by
  refine ⟨ofEnvironment_nil, ?_⟩
  intro kept
  have isInvalid
      : ((SettingsManager.mk .standard).update (.holding "/app/lint.log")
          [("lint.engine_timeout_seconds", .whole 0)]).2.settings.validate.toOption.isNone = true := by
    decide +kernel
  rw [kept.valid] at isInvalid
  cases isInvalid

end SettingsManager

end PatchReview
