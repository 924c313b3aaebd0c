import PatchReview.Calendar
import PatchReview.Encoding.Base64
import PatchReview.Encoding.Utf8
import PatchReview.Json.Parser
import PatchReview.Refusal
import PatchReview.Server

/-!
Everything that can go wrong in a review, as causes. The words of each cause are in one place, and
a computation that may fail keeps the state it reached.
-/

namespace PatchReview

/-- A use of a value that its kind does not allow. Kinds are named as `Json.kind` names them. -/
inductive Misuse where
  /-- Values of the kind have no such operation. -/
  | operation (kind name : String)
  /-- Values of the kind have no parts. -/
  | parts (kind : String)
  /-- A list is asked for a named part. -/
  | namedItem
  /-- A text is asked for a named part. -/
  | namedCharacter
  /-- Values of the kind hold no items. -/
  | items (kind : String)
  /-- A search among the items of a kind that holds none. -/
  | members (kind : String)
  /-- Values of the kind have no length. -/
  | length (kind : String)
  /-- Two kinds that have no order. -/
  | order (left right : String)
  /-- Values of the kind are no keys. -/
  | key (kind : String)
  /-- An ending of names that is not text. -/
  | ending (kind : String)
  /-- A search in what is not text. -/
  | search (kind : String)
  /-- A document that is not text. -/
  | document (kind : String)
  /-- Base64 that is not text. -/
  | base64 (kind : String)
  /-- A path that is not text. -/
  | path (kind : String)
  /-- A number that is neither text nor a number. -/
  | number (kind : String)
  /-- A record with a field missing or a field too many. -/
  | fields
  deriving DecidableEq, Repr

/-- What a message says of the misuse. -/
def Misuse.message : Misuse → String
  | .operation kind name => "'" ++ kind ++ "' object has no attribute '" ++ name ++ "'"
  | .parts kind => "'" ++ kind ++ "' object is not subscriptable"
  | .namedItem => "list indices must be integers or slices, not str"
  | .namedCharacter => "string indices must be integers, not 'str'"
  | .items kind => "'" ++ kind ++ "' object is not iterable"
  | .members kind => "argument of type '" ++ kind ++ "' is not iterable"
  | .length kind => "object of type '" ++ kind ++ "' has no len()"
  | .order left right =>
      "'<=' not supported between instances of '" ++ left ++ "' and '" ++ right ++ "'"
  | .key kind => "unhashable type: '" ++ kind ++ "'"
  | .ending kind => "endswith first arg must be str or a tuple of str, not " ++ kind
  | .search kind => "expected string or bytes-like object, got '" ++ kind ++ "'"
  | .document kind => "the JSON object must be str, bytes or bytearray, not " ++ kind
  | .base64 kind => "argument should be a bytes-like object or ASCII string, not '" ++ kind ++ "'"
  | .path kind => "expected str, bytes or os.PathLike object, not " ++ kind
  | .number kind =>
      "int() argument must be a string, a bytes-like object or a real number, not '" ++ kind ++ "'"
  | .fields => "unexpected or missing arguments"

/-- A field of a request that was refused: where it stands, and why. -/
structure FieldError where
  place : List String
  text : String
  deriving DecidableEq, Repr

/-- Why a configuration document was not had. Paths and linters are named as the caller did. -/
inductive FetchFault where
  /-- The host failed, with this message. -/
  | failed (path : Json) (reason : String)
  | absent (path : Json)
  /-- The pointer document names no file for the linter. -/
  | unnamed (pointer linter : Json)

/-- The words for a fetch fault. -/
def FetchFault.message : FetchFault → String
  | .failed path reason => "Fetching " ++ path.display ++ " failed: " ++ reason
  | .absent path => path.display ++ " not found"
  | .unnamed pointer linter => pointer.display ++ " names no config file for " ++ linter.display

/-- Why a configuration document was not understood. A document without a path has null for it. -/
inductive ParseFault where
  | yaml
  | notMapping (kind : String)
  | json (path : Json) (problem : Json.Problem) (place : Json.Place)
  | notObject (path : Json) (kind : String)

/-- The words for a parse fault. -/
def ParseFault.message : ParseFault → String
  | .yaml => "Invalid YAML"
  | .notMapping kind => "Expected a mapping, got " ++ kind
  | .json path problem place =>
      "Invalid JSON in " ++ path.display ++ ": " ++ (Json.Fault.malformed problem place).message
  | .notObject path kind => "Expected a JSON object in " ++ path.display ++ ", got " ++ kind

/-- Why a lint engine gave no findings. -/
inductive EngineFault where
  | absent (executable : String)
  | timedOut (seconds : String)
  | unparseable (problem : Json.Problem) (place : Json.Place)
  | unexpected
  | exitCode (code : Json)

/-- The words for an engine fault. -/
def EngineFault.message : EngineFault → String
  | .absent executable => "Lint engine not found: " ++ executable
  | .timedOut seconds => "Lint engine timed out after " ++ seconds ++ "s"
  | .unparseable problem place =>
      "Unparseable lint engine output: " ++ (Json.Fault.malformed problem place).message
  | .unexpected => "Unexpected lint engine output"
  | .exitCode code => "Lint engine failed with exit code " ++ code.display

/-- Why a file was not opened for writing. -/
inductive OpenFault where
  | absent (path : String)
  /-- The path is that of a directory. -/
  | directory
  /-- A part before the last is a file. -/
  | notDirectory
  /-- The path has a zero character. -/
  | zero
  /-- A name in the path, or the path, has too many bytes. -/
  | tooLong
  /-- No file may be made in the directory. -/
  | denied
  deriving DecidableEq, Repr

/-- The words for an open fault. -/
def OpenFault.message : OpenFault → String
  | .absent path => "[Errno 2] No such file or directory: " ++ Text.quoted path
  | .directory => "[Errno 21] Is a directory"
  | .notDirectory => "[Errno 20] Not a directory"
  | .zero => "embedded null byte"
  | .tooLong => "[Errno 36] File name too long"
  | .denied => "[Errno 13] Permission denied"

/-- Why a step of a review did not succeed. -/
inductive Failure where
  | refused (cause : Refusal)
  /-- A whole number that is not one, or is too long. -/
  | number (fault : Integer.Fault)
  /-- A text that is no number. -/
  | real (text : String)
  | date (fault : Calendar.Fault)
  /-- An escape beyond the last character. -/
  | character
  /-- An escape whose code is no signed number of 32 bits. -/
  | code
  /-- A whole number beyond all doubles. -/
  | magnitude
  /-- A number without any text. -/
  | emptyNumber
  /-- A place beyond the end of a list. -/
  | beyondEnd
  /-- Parts of a value that are more or fewer than are asked for. -/
  | parts (expected given : Nat)
  /-- An item of a list of entries that has not two parts. -/
  | entry (index given : Nat)
  /-- A value that is a part of itself and is followed without end. -/
  | recursion
  /-- A text whose brackets nest too deep to be read. -/
  | nesting (bracket : Json.Bracket)
  | bytes (fault : Utf8.Fault)
  | base64 (fault : Base64.Fault)
  /-- A text that is not JSON. -/
  | json (problem : Json.Problem) (place : Json.Place)
  /-- A part that is not there, with its name. -/
  | missing (key : String)
  /-- An entry that is not there, with the parts of its key. -/
  | missingEntry (key : List Json)
  | misuse (use : Misuse)
  /-- A text that is not YAML. -/
  | yaml
  /-- Fields of a request that were refused. -/
  | fields (errors : List FieldError)
  /-- Where the document was looked for, null for what is not known. -/
  | configFetch (fault : FetchFault) (repository path : Json)
  | configParse (fault : ParseFault) (repository path : Json)
  /-- The engine's exit code when it ran, and what it wrote to its error stream. -/
  | engine (fault : EngineFault) (code complaint : Json)
  /-- The host answered with an error, or not at all. -/
  | host (message : String) (status : Option Int) (answer : Json)
  /-- The host allows no request before an instant. -/
  | rateLimit (reset : Calendar.Instant)
  /-- The host goes on listing beyond the limit on pages. -/
  | endless
  | absentFile (path : String)
  /-- A program that must not be run. -/
  | forbidden (executable : String)
  | unopened (fault : OpenFault)
  /-- A web address whose server cannot be used. -/
  | server (fault : ServerFault)
  /-- A web address whose scheme is not one of the web. -/
  | scheme (url : String)
  /-- A header with a line end in it. -/
  | header
  /-- A format of log lines without any field. -/
  | lineFormat (format : String)

/-- A key of several parts as messages show it. -/
def shownKey : List Json → String
  | [part] => "(" ++ part.shown ++ ",)"
  | key => "(" ++ ", ".intercalate (key.map Json.shown) ++ ")"

/-- What a message says of the failure. -/
def Failure.message : Failure → String
  | .refused cause => cause.text
  | .number fault => fault.message
  | .real text => "could not convert string to float: " ++ Text.quoted text
  | .date fault => fault.message
  | .character => "chr() arg not in range(0x110000)"
  | .code => "Python int too large to convert to C int"
  | .magnitude => "int too large to convert to float"
  | .emptyNumber => "string index out of range"
  | .beyondEnd => "list index out of range"
  | .parts expected given =>
      if given < expected then
        "not enough values to unpack (expected " ++ toString expected ++ ", got "
          ++ toString given ++ ")"
      else "too many values to unpack (expected " ++ toString expected ++ ")"
  | .entry index given =>
      "dictionary update sequence element #" ++ toString index ++ " has length "
        ++ toString given ++ "; 2 is required"
  | .recursion => "maximum recursion depth exceeded"
  | .nesting bracket => (Json.Fault.tooDeep bracket).message
  | .bytes fault => fault.message
  | .base64 fault => fault.message
  | .json problem place => (Json.Fault.malformed problem place).message
  | .missing key => Text.quoted key
  | .missingEntry key => shownKey key
  | .misuse use => use.message
  | .yaml => "Invalid YAML"
  | .fields errors => toString errors.length ++ " validation errors"
  | .configFetch fault _ _ => fault.message
  | .configParse fault _ _ => fault.message
  | .engine fault _ _ => fault.message
  | .host message _ _ => message
  | .rateLimit reset => "Rate limit exceeded. Resets at " ++ reset.text
  | .endless => "The listing does not end"
  | .absentFile path => "Config file not found: " ++ path
  | .forbidden executable => executable
  | .unopened fault => fault.message
  | .server fault => fault.message
  | .scheme url => "No connection adapters were found for " ++ Text.quoted url
  | .header => "Header values must not contain newline characters."
  | .lineFormat format => "Invalid format '" ++ format ++ "' for '%' style"

/-- Failures of a configuration lookup, which move on to the next candidate. -/
def Failure.isConfig : Failure → Bool
  | .configFetch .. | .configParse .. => true
  | _ => false

/-- The failure that a text which is not JSON gives. -/
def Failure.ofJson : Json.Fault → Failure
  | .malformed problem place => .json problem place
  | .number fault => .number fault
  | .tooDeep bracket => .nesting bracket

/-- A computation over a state that may fail. What it did to the state before failing stays. -/
abbrev Attempt (σ α : Type) := ExceptT Failure (StateM σ) α

namespace Attempt

variable {σ τ α : Type}

/-- Runs an attempt. -/
def on (attempt : Attempt σ α) (state : σ) : Except Failure α × σ := attempt.run.run state

/-- Goes on with a result. -/
def ofExcept (result : Except Failure α) : Attempt σ α := ExceptT.mk (pure result)

/-- Does what cannot fail. -/
def ofState (step : StateM σ α) : Attempt σ α := ExceptT.lift step

/-- The outcome of an attempt, which does not fail by itself. -/
def outcome (attempt : Attempt σ α) : StateM σ (Except Failure α) := attempt.run

/-- Works on a part of a larger state. -/
def within (get : τ → σ) (set : σ → τ → τ) (attempt : Attempt σ α) : Attempt τ α :=
  ExceptT.mk fun whole =>
    let (result, part) := attempt.on (get whole)
    (result, set part whole)

end Attempt

end PatchReview
