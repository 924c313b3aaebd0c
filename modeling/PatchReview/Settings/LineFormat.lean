import PatchReview.Text.Digit
import PatchReview.Text.Word

/-!
Formats of the lines of a log. A field of a format is a name in parentheses after a percent sign,
and then the way it is shown, as in `%(levelname)-8s`. All else is shown as it is.
-/

namespace PatchReview.LineFormat

open PatchReview.Text

/-- Characters that change how a field is shown. -/
def isFlag (c : Char) : Bool := "#0+ -".toList.contains c

/-- Characters that end a field, in either case. The dotted capital and the dotless small letter
count as i, the long letter as s. -/
def isConversion (c : Char) : Bool :=
  "diouxefgcrsa%".toList.contains c.toLower || "İıſ".toList.contains c

/-- Drops a size, which is a star or a number, if there is one. -/
def dropSize : List Char → List Char
  | '*' :: rest => rest
  | cs => cs.dropWhile isDigit

/-- Whether the end of a field starts here. Flags, a width and a precision may go before the
conversion. -/
def startsEnd (cs : List Char) : Bool :=
  match dropSize (cs.dropWhile isFlag) with
  | '.' :: rest =>
      (rest.head?.any fun c => c == '*' || isDigit c) && (dropSize rest).head?.any isConversion
  | rest => rest.head?.any isConversion

/-- Whether a field starts here. -/
def startsField : List Char → Bool
  | '%' :: '(' :: rest =>
      match rest.dropWhile wordChars.contains with
      | ')' :: after => rest.head?.any wordChars.contains && startsEnd after
      | _ => false
  | _ => false

/-- Whether a format has a field. -/
def hasField : List Char → Bool
  | [] => false
  | c :: rest => startsField (c :: rest) || hasField rest

end PatchReview.LineFormat
