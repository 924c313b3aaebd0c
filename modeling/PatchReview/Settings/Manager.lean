import PatchReview.Settings.LineFormat
import PatchReview.Settings.Source
import PatchReview.Text.Lines

/-!
Settings under change. An update names whole sections, or single fields as `section.field`. The
new settings take effect before they are checked as a whole.
-/

namespace PatchReview.Settings

/-- Settings as an update works on them: the sections, the token among them, and the switch. -/
abbrev Draft := List (String × Datum)

/-- The draft of settings. -/
def draft (settings : Settings) : Draft :=
  let entries := fun (fields : Section) => fields.map fun entry => (Scalar.str entry.1, entry.2)
  Assoc.set "github" (.map (entries settings.host.toSection)) settings.shown

/-- The parts of a name before and after its first point, if it has one. -/
def splitName? (name : String) : Option (String × String) :=
  let cs := name.toList
  match cs.dropWhile (· != '.') with
  | _ :: field => some (String.ofList (cs.takeWhile (· != '.')), String.ofList field)
  | [] => none

/-- Applies one change. A field of a section that is not there is left aside. -/
def change (draft : Draft) (name : String) (value : Datum) : Except Failure Draft :=
  match splitName? name with
  | none => .ok (Assoc.set name value draft)
  | some (part, field) =>
      match Assoc.get? part draft with
      | none => .ok draft
      | some (.map entries) =>
          .ok (Assoc.set part (.map (Assoc.set (.str field) value entries)) draft)
      | some _ => .error (.misuse .fields)

/-- The settings a draft gives. -/
def ofDraft (draft : Draft) : Except Failure Settings :=
  ofSections fun name => (Assoc.get? name draft).getD .null

/-- An update under way. The draft and the settings in effect have one switch together until the
draft gets another, so that a change within the switch takes effect at once. -/
structure Update where
  draft : Draft
  settings : Settings
  isShared : Bool

namespace Update

/-- An update before its first change. -/
def start (settings : Settings) : Update := ⟨settings.draft, settings, true⟩

/-- One change. -/
def step (change : String × Datum) : Attempt Update Unit := do
  let update ← get
  let draft ← Attempt.ofExcept (Settings.change update.draft change.1 change.2)
  let isShared := update.isShared && change.1 != "debug"
  let switch := if isShared then (Assoc.get? "debug" draft).getD .null else update.settings.debug
  set (⟨draft, { update.settings with debug := switch }, isShared⟩ : Update)

/-- The name that no change may have. -/
def reserved : String := "self"

/-- Changes in order, and the settings they give. -/
def run (changes : List (String × Datum)) : Attempt Update Settings := do
  if changes.any (·.1 == reserved) then throw (.misuse .fields)
  changes.forM step
  let update ← get
  Attempt.ofExcept (ofDraft update.draft)

end Update

end PatchReview.Settings

namespace PatchReview

namespace LogSettings

/-- Checks the format of the lines. The usual one is taken where the setting stands for nothing. -/
def checkFormat (log : LogSettings) : Except Failure Unit :=
  match log.format with
  | .scalar (.str text) =>
      if text.isEmpty || LineFormat.hasField text.toList then .ok () else .error (.lineFormat text)
  | value => if value.isTruthy then .error (.misuse (.search value.kind)) else .ok ()

/-- Opens the file of the log, if it has one. -/
def openFile (files : FileSystem) (log : LogSettings) : Except Failure Unit := do
  if log.path.isTruthy then
    let _ ← Settings.compareTo 0 log.maxSize
    match log.path with
    | .scalar (.str path) => files.append (.text path)
    | .scalar (.bytes path) => files.append (.bytes path)
    | value => throw (.misuse (.path value.kind))
    log.checkFormat

end LogSettings

/-- The keeper of the settings that are in effect. -/
structure SettingsManager where
  settings : Settings

namespace SettingsManager

/-- A manager of settings that are valid, with a log set up for the first time. -/
def ofSettings (files : FileSystem) (settings : Settings) : Except Failure SettingsManager := do
  settings.validate
  settings.log.checkFormat
  settings.log.openFile files
  return ⟨settings⟩

/-- A manager of the settings that an environment gives. -/
def ofEnvironment (files : FileSystem) (env : Settings.Environment)
    : Except Failure SettingsManager := do
  ofSettings files (← Settings.ofEnvironment env)

/-- Checks settings that have taken effect, and has the log written to their file, if any. What is
written already keeps its format. -/
def check (files : FileSystem) (settings : Settings) : Except Failure Unit := do
  settings.validate
  settings.log.openFile files

/-- Updates the settings, with the outcome. Settings that can be put together take effect even
when they turn out not to be valid. -/
def update (files : FileSystem) (manager : SettingsManager) (changes : List (String × Datum))
    : Except Failure Unit × SettingsManager :=
  match (Settings.Update.run changes).on (.start manager.settings) with
  | (.error failure, reached) => (.error failure, ⟨reached.settings⟩)
  | (.ok settings, _) => (check files settings, ⟨settings⟩)

end SettingsManager

end PatchReview
