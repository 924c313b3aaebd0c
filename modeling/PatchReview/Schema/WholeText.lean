import PatchReview.Json.Parser
import PatchReview.Text.Lines

/-!
Whole numbers as texts in requests. A text is read as JSON spells a number. If it is none, blanks
around it, a plus sign, leading zeros, a fraction of zeros and single underscores are dropped, and
it is read again.
-/

namespace PatchReview.WholeText

open PatchReview.Json (isAsciiDigit)

/-- What a text spells. -/
inductive Reading where
  | number (n : Int)
  /-- A number of more digits than the limit. -/
  | tooLong
  | malformed
  deriving DecidableEq, Repr

/-- A number as JSON spells it: without a zero in front, a plus sign or anything around it. The
limit is one on digits alone, and is looked at before what follows them. -/
def strict (cs : List Char) : Reading :=
  let negative := cs.head? == some '-'
  let body := if negative then cs.drop 1 else cs
  let digits := body.takeWhile isAsciiDigit
  let value : Int := Text.digitsValue (Json.digitValues digits)
  if digits.isEmpty || (digits.head? == some '0' && digits.length != 1) then .malformed
  else if digits.length > Integer.maxDigits then .tooLong
  else if digits.length != body.length then .malformed
  else .number (if negative then -value else value)

/-- Drops a point that zeros follow, one at least. -/
def dropZeroFraction (cs : List Char) : List Char :=
  match cs.dropWhile (· != '.') with
  | '.' :: fraction =>
      if fraction.isEmpty || fraction.any (· != '0') then cs else cs.takeWhile (· != '.')
  | _ => cs

/-- Drops the zeros in front, and the underscores among them. Of zeros alone the last character
stays. A sign may follow zeros. -/
def dropZeros? (cs : List Char) : Option (List Char) :=
  let isStart := fun (c : Char) => isAsciiDigit c || c == '-'
  match cs with
  | '0' :: rest =>
      match rest.dropWhile fun c => c == '0' || c == '_' with
      | [] => cs.getLast?.map ([·])
      | c :: more => if isStart c then some (c :: more) else none
  | c :: _ => if isStart c then some cs else none
  | [] => none

/-- Drops underscores, unless one is at an end or two stand together. -/
def dropUnderscores (cs : List Char) : List Char :=
  if cs.head? == some '_' || cs.getLast? == some '_' || Text.contains ['_', '_'] cs then cs
  else cs.filter (· != '_')

/-- A number's digits as JSON spells them, after its sign. -/
def cleanBody? (cs : List Char) : Option (List Char) :=
  (dropZeros? (dropZeroFraction cs)).map dropUnderscores

/-- A number as JSON spells it. -/
def clean? (cs : List Char) : Option (List Char) :=
  match Integer.trimMargins cs with
  | '+' :: '-' :: _ => none
  | '+' :: body => cleanBody? body
  | '-' :: body => (cleanBody? body).map ('-' :: ·)
  | body => cleanBody? body

/-- Reads a text. The second reading does not tell a number that is too long from no number. -/
def read (text : String) : Reading :=
  match strict text.toList with
  | .malformed =>
      match (clean? text.toList).map strict with
      | some (.number n) => .number n
      | _ => .malformed
  | reading => reading

end PatchReview.WholeText
