import PatchReview.Text.Blank
import PatchReview.Text.Digit
import PatchReview.Text.Quoted

/-!
Whole numbers as text. Blanks around a number, a sign, and single underscores between digits are
allowed, digits may be of any script, and a decimal number has at most 4300 digits.
-/

namespace PatchReview.Integer

open PatchReview.Text

/-- The most digits a decimal number may have. -/
def maxDigits : Nat := 4300

/-- Why a text is not read as a number, or a number not written as text. -/
inductive Fault where
  /-- A decimal text has more digits than the limit. -/
  | tooLong (digits : Nat)
  /-- A text does not spell a number in the base. -/
  | malformed (base : Nat) (text : String)
  /-- A number has more decimal digits than the limit. -/
  | unwritable
  deriving DecidableEq, Repr

/-- How messages end that name the limit. -/
def limitHint : String := "; use sys.set_int_max_str_digits() to increase the limit"

/-- What a message says of the fault. A malformed text is quoted up to 200 characters. -/
def Fault.message : Fault → String
  | .tooLong digits =>
      "Exceeds the limit (4300 digits) for integer string conversion: value has "
        ++ toString digits ++ " digits" ++ limitHint
  | .malformed base text =>
      "invalid literal for int() with base " ++ toString base ++ ": "
        ++ String.ofList ((quoted text).toList.take 200)
  | .unwritable => "Exceeds the limit (4300 digits) for integer string conversion" ++ limitHint

/-- The value of a digit in bases up to 36. -/
def digitIn? (base : Nat) (c : Char) : Option Nat :=
  let value := match digitValue? c with
    | some d => some d
    | none =>
        if 'a' ≤ c ∧ c ≤ 'z' then some (c.toNat - 0x61 + 10)
        else if 'A' ≤ c ∧ c ≤ 'Z' then some (c.toNat - 0x41 + 10)
        else none
  value.filter (· < base)

/-- The digits at the start of a text and the text after them. An underscore counts as part of the
run, and the run fails where one is not followed by a digit. -/
def digitRun? (base : Nat) : List Char → Option (List Nat × List Char)
  | [] => none
  | [c] => (digitIn? base c).map fun d => ([d], [])
  | c :: tail@(next :: rest) =>
      match digitIn? base c with
      | none => none
      | some d =>
          if next = '_' then (digitRun? base rest).map fun run => (d :: run.1, run.2)
          else match digitRun? base tail with
            | some run => some (d :: run.1, run.2)
            | none => some ([d], tail)

/-- Blanks that may surround a number: all but the information separators. -/
def isMargin (c : Char) : Bool := isBlank c && !(0x1C ≤ c.toNat && c.toNat ≤ 0x1F)

/-- A text without the blanks around it. -/
def trimMargins (cs : List Char) : List Char :=
  ((cs.dropWhile isMargin).reverse.dropWhile isMargin).reverse

/-- Splits off a sign, which is true for minus. -/
def takeSign : List Char → Bool × List Char
  | '-' :: rest => (true, rest)
  | '+' :: rest => (false, rest)
  | cs => (false, cs)

/-- Drops the mark of a base, such as 0x, with one underscore after it. -/
def dropBaseMark (base : Nat) : List Char → List Char
  | '0' :: mark :: rest =>
      let fits := (base == 16 && (mark == 'x' || mark == 'X'))
        || (base == 8 && (mark == 'o' || mark == 'O'))
        || (base == 2 && (mark == 'b' || mark == 'B'))
      if fits then
        match rest with
        | '_' :: more => more
        | _ => rest
      else '0' :: mark :: rest
  | cs => cs

/-- The value of digits in a base, most significant first. -/
def valueIn (base : Nat) (digits : List Nat) : Nat :=
  digits.foldl (fun total d => total * base + d) 0

/-- Reads a whole number. Only bases that are not a power of two have a digit limit. -/
def ofTextIn (base : Nat) (text : String) : Except Fault Int :=
  let (negative, body) := takeSign (trimMargins text.toList)
  match digitRun? base (dropBaseMark base body) with
  | none => .error (.malformed base text)
  | some (digits, rest) =>
      if base = 10 ∧ digits.length > maxDigits then .error (.tooLong digits.length)
      else if rest.isEmpty then
        let value : Int := valueIn base digits
        .ok (if negative then -value else value)
      else .error (.malformed base text)

/-- Reads a decimal number. -/
def ofText (text : String) : Except Fault Int := ofTextIn 10 text

/-- Writes a number in decimal, within the limit. -/
def toText (n : Int) : Except Fault String :=
  if n.natAbs < Nat.pow 10 maxDigits then .ok (toString n) else .error .unwritable

end PatchReview.Integer
