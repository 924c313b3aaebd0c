import PatchReview.Settings.Basic
import PatchReview.Settings.FileSystem
import PatchReview.Yaml.Document

/-!
Where settings come from: the variables of an environment, or a YAML document in a file.
-/

namespace PatchReview.Settings

/-- The variables of an environment. -/
abbrev Environment := List (String × String)

/-- A variable, or what it has when it is not set. -/
def valueOf? (env : Environment) (name : String) : Option String := Assoc.get? name env

/-- A variable as text. -/
def textVariable (env : Environment) (name default : String) : Datum :=
  .text ((valueOf? env name).getD default)

/-- A variable as text, or nothing. -/
def optionalVariable (env : Environment) (name : String) : Datum :=
  match valueOf? env name with
  | some text => .text text
  | none => .null

/-- A variable as a whole number. -/
def wholeVariable (env : Environment) (name : String) (default : Int) : Except Failure Datum :=
  match valueOf? env name with
  | none => .ok (.whole default)
  | some text => ((Integer.ofText text).map Datum.whole).mapError .number

/-- The settings that an environment gives. -/
def ofEnvironment (env : Environment) : Except Failure Settings := do
  let hostTimeout ← wholeVariable env "GITHUB_TIMEOUT" 30
  let retries ← wholeVariable env "GITHUB_MAX_RETRIES" 3
  let lintTimeout ← wholeVariable env "LINT_ENGINE_TIMEOUT" 30
  let maxSize ← wholeVariable env "LOG_MAX_SIZE" LogSettings.defaultMaxSize
  let backups ← wholeVariable env "LOG_BACKUP_COUNT" 5
  return {
    host := ⟨optionalVariable env "GITHUB_TOKEN",
      textVariable env "GITHUB_API_URL" "https://api.github.com", hostTimeout, retries⟩
    lint := ⟨textVariable env "COFFEELINT_PATH" "coffeelint", lintTimeout,
      textVariable env "LINT_POINTER_FILE" ".hound.yml"⟩
    log := ⟨textVariable env "LOG_LEVEL" "INFO",
      textVariable env "LOG_FORMAT" LogSettings.defaultFormat, optionalVariable env "LOG_FILE",
      maxSize, backups⟩
    debug := .scalar (.bool (Text.lower ((valueOf? env "DEBUG").getD "false") == "true")) }

/-- The named values of a section, which has to be a mapping with texts as keys. -/
def sectionOf : Datum → Except Failure Section
  | .map entries => entries.mapM fun
      | (.str name, value) => .ok (name, value)
      | _ => .error (.misuse .fields)
  | _ => .error (.misuse .fields)

/-- The settings that the sections of a document give. Those it leaves out have their defaults. -/
def ofSections (get : String → Datum) : Except Failure Settings := do
  let host ← HostSettings.ofSection (← sectionOf (get "github"))
  let lint ← LintSettings.ofSection (← sectionOf (get "lint"))
  let log ← LogSettings.ofSection (← sectionOf (get "logging"))
  return ⟨host, lint, log, get "debug"⟩

/-- What a section has when the document leaves it out. -/
def sectionDefault (name : String) : Datum :=
  if name == "debug" then .scalar (.bool false) else .map []

/-- The settings that a document gives. One that says nothing gives the defaults. -/
def ofDatum (document : Datum) : Except Failure Settings :=
  if !document.isTruthy then ofSections sectionDefault
  else match document with
    | .map entries =>
        ofSections fun name => (Assoc.get? (.str name) entries).getD (sectionDefault name)
    | value => .error (.misuse (.operation value.kind "get"))

/-- The settings that the text of a YAML file gives. -/
def ofFile (text : String) : Except Failure Settings := do ofDatum (← Datum.ofYamlFile text)

/-- The settings that the file at a path gives. -/
def ofPath (files : FileSystem) (path : String) : Except Failure Settings := do
  match ← files.read? path with
  | none => throw (.absentFile path)
  | some text => ofFile text

end PatchReview.Settings
