import PatchReview.Host
import PatchReview.Schema.Rule
import PatchReview.Text.Letter
import PatchReview.Yaml.Document

/-!
The document in which a repository switches linters on and off and names the configuration file of
each. A linter goes by its name in any spelling, and one without a section is switched on.
-/

namespace PatchReview

open PatchReview.Text

/-- What a linter's name and its section's key are compared by: small letters, without underscores
and hyphens. -/
def linterKey (name : String) : String :=
  String.ofList ((lower name).toList.filter fun c => c != '_' && c != '-')

/-- The options of one linter. -/
structure LinterOptions where
  enabled : Option Bool
  configFile : Option String
  /-- Options that have no meaning here. -/
  extra : List (String × Datum)

namespace LinterOptions

/-- What a linter without a section has. -/
def standard : LinterOptions := ⟨none, none, []⟩

/-- A truth value, or nothing. -/
def truth? : Datum → Option (Option Bool)
  | .scalar .null => some none
  | .scalar (.bool b) => some (some b)
  | .scalar (.int n) => found (Rule.truth (.int n))
  | .scalar (.float x) => found (Rule.truth (.float x))
  | .scalar (.str s) => found (Rule.truth (.str s))
  | .scalar (.bytes bs) => (Utf8.decode bs).toOption.bind fun s => found (Rule.truth (.str s))
  | _ => none
where
  /-- A checked truth value. -/
  found : Checked Bool → Option (Option Bool)
    | .ok b => some (some b)
    | .faulty _ => none

/-- A text, or nothing. -/
def text? : Datum → Option (Option String)
  | .scalar .null => some none
  | .scalar (.str s) => some (some s)
  | .scalar (.bytes bs) => (Utf8.decode bs).toOption.map some
  | _ => none

/-- The name of a file without the blanks around it, if any of it is left. -/
def fileName? (name : String) : Option String :=
  let name := trim name
  if name.isEmpty then none else some name

/-- The options a section gives. They are none when the switch is no truth value or the file no
text. -/
def ofEntries? (entries : List (String × Datum)) : Option LinterOptions := do
  let enabled ← truth? ((Assoc.get? "enabled" entries).getD .null)
  let file ← text? ((Assoc.get? "config_file" entries).getD .null)
  return {
    enabled
    configFile := file.bind fileName?
    extra := entries.filter fun entry => entry.1 != "enabled" && entry.1 != "config_file" }

end LinterOptions

/-- The text of a key, which must not be too long. -/
def Scalar.keyText : Scalar → Except Failure String
  | .int n => (Integer.toText n).mapError .number
  | key => .ok key.display

/-- The switches of a repository: the document, and the options of the linters by their keys. -/
structure Switches where
  content : Datum.Entries
  options : List (String × LinterOptions)

namespace Switches

/-- Switches that say nothing. -/
def empty : Switches := ⟨[], []⟩

/-- The entries of a section under the texts of their keys. -/
def sectionEntries (entries : Datum.Entries) : Except Failure (List (String × Datum)) := do
  let named ← entries.mapM fun (key, value) => do return (← key.keyText, value)
  return Assoc.ofList named

/-- The entries of a section, if it is a mapping. The document may be a section of itself. -/
def entriesOf? (content : Datum.Entries) : Datum → Option Datum.Entries
  | .map entries => some entries
  | .again true => some content
  | _ => none

/-- Reads an entry of the document. One that is no mapping or has options that are not valid says
nothing. -/
def readEntry (content : Datum.Entries) (options : List (String × LinterOptions))
    (entry : Scalar × Datum) : Except Failure (List (String × LinterOptions)) :=
  match entriesOf? content entry.2 with
  | none => .ok options
  | some entries => do
      let entries ← sectionEntries entries
      let key ← entry.1.keyText
      return match LinterOptions.ofEntries? entries with
        | some found => Assoc.set (linterKey key) found options
        | none => options

/-- The switches that a document's entries give. Of several sections for one linter the last valid
one counts. -/
def ofEntries (content : Datum.Entries) : Except Failure Switches := do
  return ⟨content, ← content.foldlM (readEntry content) []⟩

/-- The switches that a document gives, which has to be a mapping if it says anything. -/
def ofDatum (content : Datum) : Except Failure Switches :=
  if !content.isTruthy then .ok empty
  else match content with
    | .map entries => ofEntries entries
    | value => .error (.misuse (.operation value.kind "items"))

/-- The switches that a YAML text gives. -/
def ofText (text : String) : Except Failure Switches :=
  if text.isEmpty then .ok empty
  else match Datum.ofYaml text with
    | .error .yaml => .error (.configParse .yaml .null .null)
    | .error failure => .error failure
    | .ok (.scalar .null) => .ok empty
    | .ok (.map entries) => ofEntries entries
    | .ok value => .error (.configParse (.notMapping value.kind) .null .null)

/-- The switches that a fetched document gives, which has to be a text if it says anything. -/
def ofDocument (document : Json) : Except Failure Switches :=
  if !document.isTruthy then .ok empty
  else match document with
    | .str text => ofText text
    | value => .error (.misuse (.operation value.kind "read"))

/-- The name of the document where none is given. -/
def defaultFile : String := ".hound.yml"

variable {σ : Type}

/-- Fetches the switches of a repository at a commit. They say nothing when the document is not to
be had or is no YAML mapping. -/
def load (host : Host σ) (repository ref path : Json) : Attempt σ Switches := do
  match ← Attempt.ofState (host.fetchFile repository ref path).outcome with
  | .error _ | .ok none => return empty
  | .ok (some document) =>
      match ofDocument document with
      | .ok switches => return switches
      | .error (.configParse ..) => return empty
      | .error failure => throw failure

/-- The options of a linter. -/
def optionsFor (switches : Switches) (linter : String) : LinterOptions :=
  (Assoc.get? (linterKey linter) switches.options).getD .standard

/-- Whether a linter is switched on. -/
def isEnabled (switches : Switches) (linter : String) : Bool :=
  (switches.optionsFor linter).enabled.getD true

/-- The configuration file that is named for a linter. -/
def configFileFor (switches : Switches) (linter : String) : Option String :=
  (switches.optionsFor linter).configFile

end Switches

end PatchReview
