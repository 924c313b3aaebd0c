import PatchReview.Datum
import PatchReview.Failure
import PatchReview.Schema.TimeText
import PatchReview.Schema.WholeText
import PatchReview.Text.Lines

/-!
Rules for the fields of requests. A rule reads a value of any kind and either has a result or says
all that is wrong, with the place of each fault. Texts that spell a number or a truth value stand
for it.
-/

namespace PatchReview

open PatchReview.Text

/-- A result, or all that is wrong. -/
inductive Checked (α : Type) where
  | ok (value : α)
  | faulty (errors : List FieldError)
  deriving DecidableEq, Repr

namespace Checked

variable {α β : Type}

/-- Refuses a value as a whole. -/
def refuse (text : String) : Checked α := .faulty [⟨[], text⟩]

/-- Changes the result. -/
def map (f : α → β) : Checked α → Checked β
  | ok value => ok (f value)
  | faulty errors => faulty errors

/-- Joins a check to those before it. All that is wrong is kept, in order. -/
def and (made : Checked (α → β)) (next : Checked α) : Checked β :=
  match made, next with
  | ok make, ok value => ok (make value)
  | faulty first, faulty second => faulty (first ++ second)
  | faulty first, ok _ => faulty first
  | ok _, faulty second => faulty second

/-- Places what is wrong within a part. -/
def within (part : String) : Checked α → Checked α
  | ok value => ok value
  | faulty errors => faulty (errors.map fun e => { e with place := part :: e.place })

/-- Holds a result to a further condition, which is looked at only when there is a result. -/
def ensure (holds : α → Bool) (refusal : Refusal) : Checked α → Checked α
  | ok value => if holds value then ok value else refuse ("Value error, " ++ refusal.text)
  | faulty errors => faulty errors

/-- The result, or a failure that holds all that is wrong. -/
def result : Checked α → Except Failure α
  | ok value => .ok value
  | faulty errors => .error (.fields errors)

end Checked

/-- Reads a value. -/
abbrev Rule (α : Type) := Json → Checked α

namespace Rule

variable {α : Type}

/-- Texts only. -/
def text : Rule String
  | .str s => .ok s
  | _ => .refuse "Input should be a valid string"

/-- Whole numbers as text. -/
def wholeText (s : String) : Checked Int :=
  match WholeText.read s with
  | .number n => .ok n
  | .tooLong => .refuse "Unable to parse input string as an integer, exceeded maximum size"
  | .malformed => .refuse "Input should be a valid integer, unable to parse string as an integer"

/-- Signed numbers of 64 bits are below this. -/
def wordBound : Int := 9223372036854775808

/-- Whole numbers of 64 bits as doubles. -/
def smallWhole? (x : Binary64) : Option Int :=
  x.toInt?.filter fun n => -wordBound < n && n < wordBound

/-- Whole numbers: also truth values, doubles without a fraction, and texts. -/
def whole : Rule Int
  | .int n => .ok n
  | .bool b => .ok (if b then 1 else 0)
  | .float x =>
      if !x.isFinite then .refuse "Input should be a finite number"
      else match x.toInt?, smallWhole? x with
        | none, _ =>
            .refuse "Input should be a valid integer, got a number with a fractional part"
        | some _, none =>
            .refuse "Unable to parse input string as an integer, exceeded maximum size"
        | some _, some n => .ok n
  | .str s => wholeText s
  | _ => .refuse "Input should be a valid integer"

/-- Words for true. -/
def yesWords : List String := ["1", "on", "t", "true", "y", "yes"]

/-- Words for false. -/
def noWords : List String := ["0", "off", "f", "false", "n", "no"]

/-- What a word that is no truth value is told. -/
def notATruth : Checked α := .refuse "Input should be a valid boolean, unable to interpret input"

/-- Truth values as text, in letters of either case. -/
def truthText (s : String) : Checked Bool :=
  let word := s.map Char.toLower
  if yesWords.contains word then .ok true
  else if noWords.contains word then .ok false
  else notATruth

/-- Truth values as numbers: one and zero. -/
def truthNumber (n : Int) : Checked Bool :=
  if n = 1 then .ok true else if n = 0 then .ok false else notATruth

/-- Truth values: also the numbers one and zero, and words. -/
def truth : Rule Bool
  | .bool b => .ok b
  | .str s => truthText s
  | .int n =>
      if -wordBound ≤ n ∧ n < wordBound then truthNumber n else .refuse "Input should be a valid boolean"
  | .float x =>
      match smallWhole? x with
      | some n => truthNumber n
      | none => .refuse "Input should be a valid boolean"
  | _ => .refuse "Input should be a valid boolean"

/-- A moment, if it is one and its year is one that moments have. -/
def checkedMoment (lead : String) (moment : Except TimeText.Fault Calendar.Moment)
    : Checked Calendar.Moment :=
  match moment with
  | .error fault => .refuse ("Input should be a valid " ++ lead ++ ", " ++ fault.message)
  | .ok moment =>
      if moment.date.year = 0 then
        .refuse ("Input should be a valid datetime, " ++ (Calendar.Fault.year 0).message)
      else .ok moment

/-- What a value that is no moment is told. -/
def notAMoment : Checked Calendar.Moment := .refuse "Input should be a valid datetime"

/-- Moments: texts, and counts of seconds or milliseconds since the start of 1970. -/
def moment : Rule Calendar.Moment
  | .str s => checkedMoment "datetime or date" (TimeText.read s)
  | .int n =>
      if (Binary64.ofInt n).isFinite then checkedMoment "datetime" (TimeText.ofCount n)
      else notAMoment
  | .float x =>
      if x = .nan then .refuse "Input should be a valid datetime, NaN values not permitted"
      else checkedMoment "datetime" (TimeText.ofReal x)
  | _ => notAMoment

/-- Null, or what another rule reads. -/
def optional (rule : Rule α) : Rule (Option α)
  | .null => .ok none
  | value => (rule value).map some

/-- Reads the items of a list, whose indexes are their places. -/
def itemsFrom (rule : Rule α) (index : Nat) : List Json → Checked (List α)
  | [] => .ok []
  | item :: rest =>
      let first : Checked (List α → List α) :=
        ((rule item).within (toString index)).map fun value more => value :: more
      first.and (itemsFrom rule (index + 1) rest)

/-- Lists of what another rule reads. -/
def list (rule : Rule α) : Rule (List α)
  | .arr items => itemsFrom rule 0 items
  | _ => .refuse "Input should be a valid list"

/-- Reads entries from whole numbers to whole numbers. The key of an entry comes first. -/
def wholeEntries : List (String × Json) → Checked (List (Int × Int))
  | [] => .ok []
  | (key, value) :: rest =>
      let make := fun (n m : Int) (more : List (Int × Int)) => (n, m) :: more
      (((wholeText key).within "[key]").within key).map make
        |>.and ((whole value).within key)
        |>.and (wholeEntries rest)

/-- Objects from whole numbers to whole numbers. Of keys for one number the last counts. -/
def wholeMap : Rule (List (Int × Int))
  | .obj fields => (wholeEntries fields).map Assoc.ofList
  | _ => .refuse "Input should be a valid dictionary"

/-- Objects that are read field by field, and are called by a name when they are missed. -/
def object (name : String) (read : Json.Fields → Checked α) : Rule α
  | .obj fields => read fields
  | _ => .refuse ("Input should be a valid dictionary or instance of " ++ name)

/-- A field that has to be there. -/
def required (fields : Json.Fields) (name : String) (rule : Rule α) : Checked α :=
  match Assoc.get? name fields with
  | some value => (rule value).within name
  | none => (.refuse "Field required" : Checked α).within name

/-- A field that may be left out. Its default is taken as it is. -/
def withDefault (fields : Json.Fields) (name : String) (default : α) (rule : Rule α) : Checked α :=
  match Assoc.get? name fields with
  | some value => (rule value).within name
  | none => .ok default

end Rule

end PatchReview
