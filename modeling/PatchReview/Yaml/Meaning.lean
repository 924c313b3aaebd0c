import PatchReview.Datum
import PatchReview.Failure
import PatchReview.Text.Letter
import PatchReview.Yaml.Tag

/-!
What the scalars of a YAML document say. The tag chooses how the text is read.
-/

namespace PatchReview.Yaml.Scalar

/-- Whole numbers below sixty, the most significant first, as one number. -/
def sexagesimal (parts : List Int) : Int := parts.foldl (fun total part => total * 60 + part) 0

/-- Reads a number in a base. -/
def wholeIn (base : Nat) (cs : List Char) : Except Failure Int :=
  (Integer.ofTextIn base (String.ofList cs)).mapError .number

/-- Reads a whole number, in the base that its start names. -/
def whole (text : String) : Except Failure Int := do
  let cs := text.toList.filter (· != '_')
  if cs.isEmpty then throw .emptyNumber
  let (negative, body) := Integer.takeSign cs
  let sign : Int := if negative then -1 else 1
  match body with
  | [] => throw .emptyNumber
  | ['0'] => return 0
  | '0' :: 'b' :: digits => return sign * (← wholeIn 2 digits)
  | '0' :: 'x' :: digits => return sign * (← wholeIn 16 digits)
  | '0' :: _ => return sign * (← wholeIn 8 body)
  | _ =>
      if body.contains ':' then
        return sign * sexagesimal (← (splitAt ':' body).mapM (wholeIn 10))
      else return sign * (← wholeIn 10 body)

/-- Reads a number without a sign of its own. -/
def realPart (cs : List Char) : Except Failure Binary64 :=
  let text := String.ofList cs
  match Binary64.ofText? text with
  | some x => .ok x
  | none => .error (.real text)

/-- The sum of parts, the least significant first, each worth sixty times the one before. What a
part is worth has to be within the doubles. -/
def sixtieths (unit : Nat) : List Binary64 → Binary64 → Except Failure Binary64
  | [], total => .ok total
  | part :: parts, total =>
      let worth := Binary64.ofInt unit
      if worth.isFinite then sixtieths (unit * 60) parts (total.add (part.scale worth))
      else .error .magnitude

/-- The text of a number with a point: in small letters and without the marks between digits. -/
def plainReal (text : String) : List Char :=
  (Text.lower (String.ofList (text.toList.filter (· != '_')))).toList

/-- Whether a text is the word for what is no number. -/
def isNaNWord (text : String) : Bool := (Integer.takeSign (plainReal text)).2 == ".nan".toList

/-- Reads a number with a point. -/
def real (text : String) : Except Failure Binary64 := do
  let cs := plainReal text
  if cs.isEmpty then throw .emptyNumber
  let (negative, body) := Integer.takeSign cs
  let signed := fun (x : Binary64) => if negative then x.neg else x
  if body == ".inf".toList then return signed (.infinite false)
  else if body == ".nan".toList then return .nan
  else if body.contains ':' then
    let parts ← (splitAt ':' body).mapM realPart
    return signed (← sixtieths 1 parts.reverse (Binary64.signedZero false))
  else return signed (← realPart body)

/-- Reads a truth value. -/
def truth (text : String) : Except Failure Bool :=
  let word := Text.lower text
  if word == "yes" || word == "true" || word == "on" then .ok true
  else if word == "no" || word == "false" || word == "off" then .ok false
  else .error (.missing word)

/-- Reads bytes. -/
def bytes (text : String) : Except Failure (List UInt8) :=
  (Base64.decode text).mapError fun _ => .yaml

/-- The value of digits. -/
def count (digits : List Char) : Nat := Text.digitsValue (Json.digitValues digits)

/-- The offset of a timestamp in seconds. -/
def offsetSeconds (offset : Bool × List Char × List Char) : Int :=
  let (west, hours, minutes) := offset
  let seconds : Int := (count hours * 60 + count minutes) * 60
  if west then -seconds else seconds

/-- Reads a date or a moment. -/
def stamp (text : String) : Except Failure PatchReview.Scalar :=
  match Timestamp.ofText? (dropFinalBreak text.toList) with
  | none => .error (.misuse (.operation "NoneType" "groupdict"))
  | some stamp =>
      let year := count stamp.year
      let month := count stamp.month
      let day := count stamp.day
      match stamp.time with
      | none => ((Calendar.Date.ofNumbers year month day).map .date).mapError .date
      | some (hour, minute, second, fraction) =>
          let fraction := fraction.take 6
          let micro := count fraction * Nat.pow 10 (6 - fraction.length)
          ((Calendar.Moment.ofNumbers year month day (count hour) (count minute) (count second)
            micro (stamp.offset.map offsetSeconds)).map .moment).mapError .date

/-- Reads a scalar by its tag. -/
def ofTag (tag : Tag) (text : String) : Except Failure PatchReview.Scalar :=
  match tag with
  | .null => .ok .null
  | .bool => (truth text).map .bool
  | .int => (whole text).map .int
  | .float => (real text).map .float
  | .binary => (bytes text).map .bytes
  | .timestamp => stamp text
  | .str => .ok (.str text)
  | _ => .error .yaml

end PatchReview.Yaml.Scalar
