import PatchReview.Json.Parser

/-!
The tags of YAML nodes, and the tag that a plain scalar has because of its form: truth values,
numbers, timestamps and nothing are told from texts by their spelling.
-/

namespace PatchReview.Yaml

/-- The tag of a node. -/
inductive Tag where
  | null
  | bool
  | int
  | float
  | binary
  | timestamp
  | omap
  | pairs
  | set
  | str
  | seq
  | map
  /-- The key `<<`, which merges mappings. -/
  | merge
  /-- The scalar `=`, which stands for the value of a mapping. -/
  | value
  /-- A tag without a meaning here. -/
  | other (text : String)
  deriving DecidableEq

namespace Tag

/-- Whether a tag is that of a kind of scalars. -/
def isScalar : Tag → Bool
  | .null | .bool | .int | .float | .binary | .timestamp | .str => true
  | _ => false

/-- What the tags of the standard start with. -/
def standard : String := "tag:yaml.org,2002:"

/-- The names of the tags of the standard. -/
def names : List (String × Tag) := [
  ("null", null), ("bool", bool), ("int", int), ("float", float), ("binary", binary),
  ("timestamp", timestamp), ("omap", omap), ("pairs", pairs), ("set", set), ("str", str),
  ("seq", seq), ("map", map), ("merge", merge), ("value", value)]

/-- The tag a full text names. -/
def ofText (text : String) : Tag :=
  match names.find? fun entry => standard ++ entry.1 == text with
  | some (_, tag) => tag
  | none => other text

end Tag

/-- The parts of a text between the occurrences of a character. -/
def splitAt (mark : Char) : List Char → List (List Char)
  | [] => [[]]
  | c :: rest =>
      match splitAt mark rest with
      | [] => [[c]]
      | part :: parts => if c == mark then [] :: part :: parts else (c :: part) :: parts

namespace Spelling

open PatchReview.Json (isAsciiDigit)

/-- Digits and the underscores between them. -/
def isDigitOrUnderscore (c : Char) : Bool := isAsciiDigit c || c == '_'

/-- Drops a sign. -/
def unsigned (cs : List Char) : List Char := (Integer.takeSign cs).2

/-- A number's digits: one at least, and the first is no underscore. -/
def startsWithDigit (cs : List Char) : Bool := cs.head?.any isAsciiDigit

/-- Nothing, or an exponent with its sign. -/
def isExponent : List Char → Bool
  | [] => true
  | mark :: sign :: digits =>
      (mark == 'e' || mark == 'E') && (sign == '+' || sign == '-') && !digits.isEmpty
        && digits.all isAsciiDigit
  | _ => false

/-- One of the parts after a colon: a number below sixty in one or two digits. -/
def isSixtieth : List Char → Bool
  | [a] => isAsciiDigit a
  | [a, b] => '0' ≤ a && a ≤ '5' && isAsciiDigit b
  | _ => false

/-- Whole numbers to base sixty, whose first part satisfies a condition. -/
def isSexagesimal (first : List Char → Bool) (cs : List Char) : Bool :=
  match splitAt ':' cs with
  | head :: part :: parts => first head && (part :: parts).all isSixtieth
  | _ => false

/-- Digits and underscores that start with a digit. -/
def isDigits (cs : List Char) : Bool := startsWithDigit cs && cs.all isDigitOrUnderscore

/-- Numbers with a point. -/
def isFloat (cs : List Char) : Bool :=
  let body := unsigned cs
  let whole := body.takeWhile isDigitOrUnderscore
  let rest := body.dropWhile isDigitOrUnderscore
  let positional := match rest with
    | '.' :: fraction => startsWithDigit whole && isExponent (fraction.dropWhile isDigitOrUnderscore)
    | _ => false
  let pointed := match cs with
    | '.' :: fraction =>
        startsWithDigit fraction && isExponent (fraction.dropWhile isDigitOrUnderscore)
    | _ => false
  let sexagesimal := match body.dropWhile (· != '.') with
    | '.' :: fraction =>
        fraction.all isDigitOrUnderscore && isSexagesimal isDigits (body.takeWhile (· != '.'))
    | _ => false
  let infinite := [".inf", ".Inf", ".INF"].any (·.toList == body)
  let notANumber := [".nan", ".NaN", ".NAN"].any (·.toList == cs)
  positional || pointed || sexagesimal || infinite || notANumber

/-- Digits and underscores that start with a digit other than zero. -/
def isCounting (cs : List Char) : Bool := isDigits cs && cs.head? != some '0'

/-- Whole numbers in one of five bases. -/
def isInt (cs : List Char) : Bool :=
  let body := unsigned cs
  let inBase := fun (holds : Char → Bool) (digits : List Char) =>
    !digits.isEmpty && digits.all fun c => c == '_' || holds c
  let marked := match body with
    | '0' :: 'b' :: digits => inBase (fun c => c == '0' || c == '1') digits
    | '0' :: 'x' :: digits => inBase (fun c => (Json.hexValue? c).isSome) digits
    | '0' :: digits => digits.isEmpty || inBase (fun c => '0' ≤ c && c ≤ '7') digits
    | _ => false
  marked || isCounting body || isSexagesimal isCounting body

end Spelling

/-- The parts of a timestamp as they are written. -/
structure Timestamp where
  year : List Char
  month : List Char
  day : List Char
  /-- Hour, minute, second, and the digits of the fraction. -/
  time : Option (List Char × List Char × List Char × List Char)
  /-- The offset: whether it is west, its hours, and its minutes. -/
  offset : Option (Bool × List Char × List Char)

namespace Timestamp

open PatchReview.Json (isAsciiDigit)

/-- Takes digits, as many as there are within two bounds. -/
def digits? (least most : Nat) (cs : List Char) : Option (List Char × List Char) :=
  let found := (cs.take most).takeWhile isAsciiDigit
  if found.length < least then none else some (found, cs.drop found.length)

/-- Takes a character. -/
def expect? (c : Char) : List Char → Option (List Char)
  | [] => none
  | d :: rest => if d == c then some rest else none

/-- Whether a character separates parts. -/
def isSpace (c : Char) : Bool := c == ' ' || c == '\t'

/-- Takes a letter T or spaces. -/
def separator? (cs : List Char) : Option (List Char) :=
  match cs with
  | c :: rest =>
      if c == 'T' || c == 't' then some rest
      else if isSpace c then some (rest.dropWhile isSpace)
      else none
  | [] => none

/-- Reads an offset that ends the text. -/
def offset? (cs : List Char) : Option (Option (Bool × List Char × List Char)) :=
  match cs with
  | [] => some none
  | _ =>
      match cs.dropWhile isSpace with
      | ['Z'] => some (some (false, [], []))
      | sign :: rest =>
          if sign == '+' || sign == '-' then do
            let (hours, rest) ← digits? 1 2 rest
            match rest with
            | [] => return some (sign == '-', hours, [])
            | _ => do
                let (minutes, rest) ← digits? 2 2 (← expect? ':' rest)
                if rest.isEmpty then return some (sign == '-', hours, minutes) else none
          else none
      | [] => none

/-- Reads a timestamp. -/
def ofText? (cs : List Char) : Option Timestamp := do
  let (year, cs) ← digits? 4 4 cs
  let (month, cs) ← digits? 1 2 (← expect? '-' cs)
  let (day, cs) ← digits? 1 2 (← expect? '-' cs)
  if cs.isEmpty then return ⟨year, month, day, none, none⟩
  let (hour, cs) ← digits? 1 2 (← separator? cs)
  let (minute, cs) ← digits? 2 2 (← expect? ':' cs)
  let (second, cs) ← digits? 2 2 (← expect? ':' cs)
  let (fraction, cs) := match cs with
    | '.' :: rest => (rest.takeWhile isAsciiDigit, rest.dropWhile isAsciiDigit)
    | _ => ([], cs)
  let offset ← offset? cs
  return ⟨year, month, day, some (hour, minute, second, fraction), offset⟩

/-- A date alone has two digits for month and day to be told from a text. -/
def isPlain (stamp : Timestamp) : Bool :=
  stamp.time.isSome || (stamp.month.length == 2 && stamp.day.length == 2)

end Timestamp

/-- A text without a line feed at its end. -/
def dropFinalBreak (cs : List Char) : List Char :=
  if cs.getLast? == some '\n' then cs.dropLast else cs

/-- The words for truth values in plain scalars. -/
def truthWords : List String := [
  "yes", "Yes", "YES", "no", "No", "NO", "true", "True", "TRUE", "false", "False", "FALSE",
  "on", "On", "ON", "off", "Off", "OFF"]

/-- The words for nothing in plain scalars. -/
def nullWords : List String := ["", "~", "null", "Null", "NULL"]

/-- The marks that are kept for the notation itself. -/
def markWords : List String := ["!", "&", "*"]

/-- The tag that a plain scalar has. -/
def Tag.ofPlain (text : String) : Tag :=
  let cs := dropFinalBreak text.toList
  let word := String.ofList cs
  if truthWords.contains word then .bool
  else if Spelling.isFloat cs then .float
  else if Spelling.isInt cs then .int
  else if word == "<<" then .merge
  else if nullWords.contains word && text != "\n" then .null
  else if (Timestamp.ofText? cs).any Timestamp.isPlain then .timestamp
  else if word == "=" then .value
  else if markWords.contains word then .other (standard ++ "yaml")
  else .str

end PatchReview.Yaml
