import PatchReview.Datum
import PatchReview.Form
import PatchReview.Text.Blank
import PatchReview.Text.Letter

/-!
Settings, in three sections and a switch. Values are kept as the document has them; whether they
can be used is checked as a whole.
-/

namespace PatchReview

open PatchReview.Text

/-- How the host is reached. -/
structure HostSettings where
  token : Datum
  baseUrl : Datum
  timeout : Datum
  retries : Datum

/-- How linters are run. -/
structure LintSettings where
  executable : Datum
  timeout : Datum
  pointerFile : Datum

/-- How the log is written. -/
structure LogSettings where
  level : Datum
  format : Datum
  path : Datum
  maxSize : Datum
  backups : Datum

/-- All settings. -/
structure Settings where
  host : HostSettings
  lint : LintSettings
  log : LogSettings
  debug : Datum

/-- Named values of a section. -/
abbrev Section := List (String × Datum)

/-- The value of a name in a filled form. -/
def Section.get (fields : Section) (name : String) : Datum := (Assoc.get? name fields).getD .null

namespace HostSettings

/-- The fields of the section. -/
def form : Form Datum := [
  ("token", some .null), ("api_base_url", some (.text "https://api.github.com")),
  ("timeout_seconds", some (.whole 30)), ("max_retries", some (.whole 3))]

/-- The section that named values give. -/
def ofSection (given : Section) : Except Failure HostSettings := do
  let fields ← form.fill given
  return ⟨Section.get fields "token", Section.get fields "api_base_url",
    Section.get fields "timeout_seconds", Section.get fields "max_retries"⟩

/-- The section's values without the token. -/
def shown (host : HostSettings) : Section := [
  ("api_base_url", host.baseUrl), ("timeout_seconds", host.timeout), ("max_retries", host.retries)]

/-- The section's values with the token. -/
def toSection (host : HostSettings) : Section := host.shown ++ [("token", host.token)]

end HostSettings

namespace LintSettings

/-- The fields of the section. -/
def form : Form Datum := [
  ("coffeelint_path", some (.text "coffeelint")), ("engine_timeout_seconds", some (.whole 30)),
  ("pointer_file", some (.text ".hound.yml"))]

/-- The section that named values give. -/
def ofSection (given : Section) : Except Failure LintSettings := do
  let fields ← form.fill given
  return ⟨Section.get fields "coffeelint_path", Section.get fields "engine_timeout_seconds",
    Section.get fields "pointer_file"⟩

/-- The section's values. -/
def toSection (lint : LintSettings) : Section := [
  ("coffeelint_path", lint.executable), ("engine_timeout_seconds", lint.timeout),
  ("pointer_file", lint.pointerFile)]

/-- The section without any settings. -/
def standard : LintSettings := ⟨.text "coffeelint", .whole 30, .text ".hound.yml"⟩

end LintSettings

namespace LogSettings

/-- The format of a line where none is set. -/
def defaultFormat : String := "%(asctime)s - %(name)s - %(levelname)s - %(message)s"

/-- The size of a log file where none is set. -/
def defaultMaxSize : Int := 10 * 1024 * 1024

/-- The fields of the section. -/
def form : Form Datum := [
  ("level", some (.text "INFO")), ("format", some (.text defaultFormat)),
  ("file_path", some .null), ("max_file_size", some (.whole defaultMaxSize)),
  ("backup_count", some (.whole 5))]

/-- The section that named values give. -/
def ofSection (given : Section) : Except Failure LogSettings := do
  let fields ← form.fill given
  return ⟨Section.get fields "level", Section.get fields "format", Section.get fields "file_path",
    Section.get fields "max_file_size", Section.get fields "backup_count"⟩

/-- The section's values. -/
def toSection (log : LogSettings) : Section := [
  ("level", log.level), ("format", log.format), ("file_path", log.path),
  ("max_file_size", log.maxSize), ("backup_count", log.backups)]

end LogSettings

namespace Settings

/-- Compares a setting with a whole number, for which it has to be a number. -/
def compareTo (bound : Int) : Datum → Except Failure (Option Ordering)
  | .scalar (.int n) => .ok (some (compare n bound))
  | .scalar (.bool b) => .ok (some (compare (if b then 1 else 0) bound))
  | .scalar (.float x) => .ok (x.compareInt? bound)
  | value => .error (.misuse (.order value.kind "int"))

/-- Whether a setting that has to be a text shows nothing. -/
def isBlankSetting : Datum → Except Failure Bool
  | .scalar (.str s) => .ok (isBlankText s)
  | .scalar (.bytes bs) => .ok (bs.all fun b => b == 32 || (9 ≤ b && b ≤ 13))
  | value => .error (.misuse (.operation value.kind "strip"))

/-- The levels of the log. -/
def levels : List String := ["DEBUG", "INFO", "WARNING", "ERROR", "CRITICAL"]

/-- Whether a setting that has to be a text names a level, in letters of either case. -/
def isLevel : Datum → Except Failure Bool
  | .scalar (.str s) => .ok (levels.contains (upper s))
  | .scalar (.bytes _) => .ok false
  | value => .error (.misuse (.operation value.kind "upper"))

/-- All that is wrong with settings whose values are of the right kinds. -/
def complaints (settings : Settings) : Except Failure (List String) := do
  let isNot := fun (wrong : Bool) (text : String) => if wrong then [text] else []
  let atMostZero := fun (order : Option Ordering) => order == some .lt || order == some .eq
  let timeout ← compareTo 0 settings.host.timeout
  let retries ← compareTo 0 settings.host.retries
  let engine ← compareTo 0 settings.lint.timeout
  let pointer ← isBlankSetting settings.lint.pointerFile
  let level ← isLevel settings.log.level
  return isNot (atMostZero timeout) "GitHub timeout must be positive"
    ++ isNot (retries == some .lt) "GitHub max retries must be non-negative"
    ++ isNot (atMostZero engine) "Lint engine timeout must be positive"
    ++ isNot pointer "Pointer file name cannot be empty"
    ++ isNot (!level) ("Invalid log level: " ++ settings.log.level.display)

/-- Checks settings as a whole. -/
def validate (settings : Settings) : Except Failure Unit := do
  match ← settings.complaints with
  | [] => return ()
  | wrong => throw (.refused (.settings wrong))

/-- The settings as a document, without the token. -/
def shown (settings : Settings) : List (String × Datum) :=
  let sectionDatum := fun (fields : Section) =>
    Datum.map (fields.map fun entry => (.str entry.1, entry.2))
  [("github", sectionDatum settings.host.shown), ("lint", sectionDatum settings.lint.toSection),
    ("logging", sectionDatum settings.log.toSection), ("debug", settings.debug)]

end Settings

end PatchReview
