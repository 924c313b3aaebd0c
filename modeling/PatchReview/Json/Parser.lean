import PatchReview.Json.Basic

/-!
Reading JSON. Beyond the standard, `NaN`, `Infinity` and `-Infinity` are numbers. A text that is
not JSON is refused with the place of the first fault; a whole number beyond the digit limit is
refused as such, and so is nesting beyond the room there is for it, where that is limited.

Texts hold whole characters only. An escaped half of a character whose other half does not stand
beside it is read as the replacement character, so that such halves are not told apart.
-/

namespace PatchReview.Json

/-- What is wrong with a text. -/
inductive Problem where
  | value
  | propertyName
  | colon
  | comma
  | extraData
  | unterminated
  | controlCharacter
  | escape
  | unicodeEscape
  | byteOrderMark
  deriving DecidableEq, Repr

/-- The words for a problem. -/
def Problem.text : Problem → String
  | .value => "Expecting value"
  | .propertyName => "Expecting property name enclosed in double quotes"
  | .colon => "Expecting ':' delimiter"
  | .comma => "Expecting ',' delimiter"
  | .extraData => "Extra data"
  | .unterminated => "Unterminated string starting at"
  | .controlCharacter => "Invalid control character at"
  | .escape => "Invalid \\escape"
  | .unicodeEscape => "Invalid \\uXXXX escape"
  | .byteOrderMark => "Unexpected UTF-8 BOM (decode using utf-8-sig)"

/-- A place in a text: lines and columns count from one, the offset from zero. -/
structure Place where
  line : Nat
  column : Nat
  offset : Nat
  deriving DecidableEq, Repr

/-- The place reached after some characters. -/
def Place.after (passed : List Char) : Place :=
  { line := passed.count '\n' + 1
    column := (passed.reverse.takeWhile (· != '\n')).length + 1
    offset := passed.length }

/-- What opens with a bracket. -/
inductive Bracket where
  | array
  | object
  deriving DecidableEq, Repr

/-- Why a text is not read. -/
inductive Fault where
  | malformed (problem : Problem) (place : Place)
  | number (fault : Integer.Fault)
  /-- A bracket for which there is no more room. -/
  | tooDeep (bracket : Bracket)
  deriving DecidableEq, Repr

/-- What a message says of the fault. -/
def Fault.message : Fault → String
  | .malformed problem place =>
      problem.text ++ ": line " ++ toString place.line ++ " column " ++ toString place.column
        ++ " (char " ++ toString place.offset ++ ")"
  | .number fault => fault.message
  | .tooDeep .array =>
      "maximum recursion depth exceeded while decoding a JSON array from a unicode string"
  | .tooDeep .object =>
      "maximum recursion depth exceeded while decoding a JSON object from a unicode string"

/-- Why reading stopped. A malformed text comes with what is left of it from the fault on. -/
inductive Stop where
  | malformed (problem : Problem) (left : List Char)
  | number (fault : Integer.Fault)
  | tooDeep (bracket : Bracket)

/-- A fault of a text from the stop within it. -/
def Stop.fault (text : List Char) : Stop → Fault
  | .malformed problem left =>
      .malformed problem (Place.after (text.take (text.length - left.length)))
  | .number fault => .number fault
  | .tooDeep bracket => .tooDeep bracket

/-- Blanks between the parts of a text. -/
def isGap (c : Char) : Bool := c == ' ' || c == '\t' || c == '\n' || c == '\r'

/-- Drops the blanks at the start. -/
def skipGap (cs : List Char) : List Char := cs.dropWhile isGap

/-- The digits of numbers. -/
def isAsciiDigit (c : Char) : Bool := '0' ≤ c && c ≤ '9'

/-- The value of a hexadecimal digit. -/
def hexValue? (c : Char) : Option Nat :=
  if '0' ≤ c ∧ c ≤ '9' then some (c.toNat - 0x30)
  else if 'a' ≤ c ∧ c ≤ 'f' then some (c.toNat - 0x61 + 10)
  else if 'A' ≤ c ∧ c ≤ 'F' then some (c.toNat - 0x41 + 10)
  else none

/-- Four hexadecimal digits that do not end the text. -/
def hexUnit? : List Char → Option (Nat × List Char)
  | a :: b :: c :: d :: e :: rest => do
      let a ← hexValue? a
      let b ← hexValue? b
      let c ← hexValue? c
      let d ← hexValue? d
      return (((a * 16 + b) * 16 + c) * 16 + d, e :: rest)
  | _ => none

/-- The first halves of characters beyond sixteen bits. -/
def isHighHalf (n : Nat) : Bool := 0xD800 ≤ n && n < 0xDC00

/-- The second halves of characters beyond sixteen bits. -/
def isLowHalf (n : Nat) : Bool := 0xDC00 ≤ n && n < 0xE000

/-- Stands for half a character without its other half. -/
def replacement : Char := Char.ofNat 0xFFFD

/-- What an escape of one letter stands for. -/
def shortEscape? (c : Char) : Option Char :=
  if c == '\x22' || c == '\\' || c == '/' then some c
  else if c == 'b' then some (Char.ofNat 8)
  else if c == 'f' then some (Char.ofNat 12)
  else if c == 'n' then some '\n'
  else if c == 'r' then some '\r'
  else if c == 't' then some '\t'
  else none

/-- Reads the digits after `\u`, and the other half where they are the first half of a
character. -/
def readUnit (cs : List Char) : Except Stop (Char × List Char) :=
  match hexUnit? cs with
  | none => .error (.malformed .unicodeEscape ('u' :: cs))
  | some (unit, rest) =>
      if isHighHalf unit then
        match rest with
        | '\\' :: 'u' :: more =>
            if (more.drop 4).isEmpty then .ok (replacement, rest)
            else match hexUnit? more with
              | none => .error (.malformed .unicodeEscape ('u' :: more))
              | some (low, after) =>
                  if isLowHalf low then
                    .ok (Char.ofNat (0x10000 + (unit - 0xD800) * 0x400 + (low - 0xDC00)), after)
                  else .ok (replacement, rest)
        | _ => .ok (replacement, rest)
      else if isLowHalf unit then .ok (replacement, rest)
      else .ok (Char.ofNat unit, rest)

/-- Reads the rest of an escape whose backslash stands at `place`. -/
def readEscape (opening place : List Char) : List Char → Except Stop (Char × List Char)
  | [] => .error (.malformed .unterminated opening)
  | c :: rest =>
      if c == 'u' then readUnit rest
      else match shortEscape? c with
        | some x => .ok (x, rest)
        | none => .error (.malformed .escape place)

/-- Reads the characters of a string up to its closing quote. The opening quote stands at
`opening`. Reading takes no more steps than there are characters. -/
def readString (opening : List Char) : Nat → List Char → Except Stop (List Char × List Char)
  | 0, _ => .error (.malformed .unterminated opening)
  | _ + 1, [] => .error (.malformed .unterminated opening)
  | steps + 1, c :: rest =>
      if c == '\x22' then .ok ([], rest)
      else if c == '\\' then do
        let (x, after) ← readEscape opening (c :: rest) rest
        let (more, after) ← readString opening steps after
        return (x :: more, after)
      else if c.toNat < 0x20 then .error (.malformed .controlCharacter (c :: rest))
      else do
        let (more, after) ← readString opening steps rest
        return (c :: more, after)

/-- The value of a run of ASCII digits. -/
def digitValues (cs : List Char) : List Nat := cs.map fun c => c.toNat - 0x30

/-- A point and at least one digit, if the text goes on so. -/
def takeFraction (cs : List Char) : Option (List Char) × List Char :=
  match cs with
  | '.' :: rest =>
      match rest.takeWhile isAsciiDigit with
      | [] => (none, cs)
      | digits => (some digits, rest.dropWhile isAsciiDigit)
  | _ => (none, cs)

/-- The mark of an exponent, a sign or none, and at least one digit, if the text goes on so. -/
def takeExponent (cs : List Char) : Option Int × List Char :=
  match cs with
  | mark :: rest =>
      if mark == 'e' || mark == 'E' then
        let (negative, body) := Integer.takeSign rest
        match body.takeWhile isAsciiDigit with
        | [] => (none, cs)
        | digits =>
            let size : Int := Text.digitsValue (digitValues digits)
            (some (if negative then -size else size), body.dropWhile isAsciiDigit)
      else (none, cs)
  | [] => (none, cs)

/-- The digits before the point: a lone zero, or digits that start with another one. -/
def takeWhole : List Char → List Char × List Char
  | '0' :: rest => (['0'], rest)
  | cs => (cs.takeWhile isAsciiDigit, cs.dropWhile isAsciiDigit)

/-- Reads a number. -/
def readNumber (cs : List Char) : Except Stop (Json × List Char) :=
  let (negative, body) := match cs with
    | '-' :: rest => (true, rest)
    | _ => (false, cs)
  let (whole, rest) := takeWhole body
  if whole.isEmpty then .error (.malformed .value cs)
  else
    let (fraction, rest) := takeFraction rest
    let (exponent, rest) := takeExponent rest
    match fraction, exponent with
    | none, none =>
        if whole.length > Integer.maxDigits then .error (.number (.tooLong whole.length))
        else
          let size : Int := Text.digitsValue (digitValues whole)
          .ok (.int (if negative then -size else size), rest)
    | fraction, exponent =>
        .ok (.float (Binary64.ofParts negative (digitValues whole)
          (digitValues (fraction.getD [])) (exponent.getD 0)), rest)

/-- The words that are values. -/
def words : List (List Char × Json) := [
  ("null".toList, .null), ("true".toList, .bool true), ("false".toList, .bool false),
  ("NaN".toList, .float .nan), ("Infinity".toList, .float (.infinite false)),
  ("-Infinity".toList, .float (.infinite true))]

/-- Drops `word` from the start of a text that begins with it. -/
def dropWord? : List Char → List Char → Option (List Char)
  | [], cs => some cs
  | _ :: _, [] => none
  | w :: word, c :: cs => if w == c then dropWord? word cs else none

/-- Reads a word or a number. -/
def readAtom (cs : List Char) : Except Stop (Json × List Char) :=
  match words.findSome? fun (word, value) => (dropWord? word cs).map fun rest => (value, rest) with
  | some found => .ok found
  | none => readNumber cs

/-- The room for brackets that are open together, without end where none is given. -/
abbrev Room := Option Nat

/-- The room behind a bracket that opens. -/
def Room.within (bracket : Bracket) : Room → Except Stop Room
  | none => .ok none
  | some 0 => .error (.tooDeep bracket)
  | some (room + 1) => .ok (some room)

mutual

/-- Reads a value. Every step takes at least half a character. -/
def readValue : Room → Nat → List Char → Except Stop (Json × List Char)
  | _, 0, cs => .error (.malformed .value cs)
  | _, _ + 1, [] => .error (.malformed .value [])
  | room, steps + 1, c :: rest =>
      if c == '\x22' then do
        let (s, after) ← readString (c :: rest) steps rest
        return (.str (String.ofList s), after)
      else if c == '\x7b' then do
        let room ← room.within .object
        match skipGap rest with
        | '\x7d' :: after => return (.obj [], after)
        | body =>
            let (fields, after) ← readFields room steps body
            return (.obj (Assoc.ofList fields), after)
      else if c == '[' then do
        let room ← room.within .array
        match skipGap rest with
        | ']' :: after => return (.arr [], after)
        | body =>
            let (items, after) ← readItems room steps body
            return (.arr items, after)
      else readAtom (c :: rest)

/-- Reads the items of an array and its closing bracket. -/
def readItems : Room → Nat → List Char → Except Stop (List Json × List Char)
  | _, 0, cs => .error (.malformed .value cs)
  | room, steps + 1, cs => do
      let (item, after) ← readValue room steps cs
      match skipGap after with
      | ']' :: rest => return ([item], rest)
      | ',' :: rest =>
          let (items, rest) ← readItems room steps (skipGap rest)
          return (item :: items, rest)
      | left => throw (.malformed .comma left)

/-- Reads the fields of an object and its closing brace. -/
def readFields : Room → Nat → List Char → Except Stop (List (String × Json) × List Char)
  | _, 0, cs => .error (.malformed .propertyName cs)
  | _, _ + 1, [] => .error (.malformed .propertyName [])
  | room, steps + 1, c :: rest =>
      if c == '\x22' then do
        let (key, after) ← readString (c :: rest) steps rest
        match skipGap after with
        | ':' :: after =>
            let (value, after) ← readValue room steps (skipGap after)
            match skipGap after with
            | '\x7d' :: rest => return ([(String.ofList key, value)], rest)
            | ',' :: rest =>
                let (fields, rest) ← readFields room steps (skipGap rest)
                return ((String.ofList key, value) :: fields, rest)
            | left => throw (.malformed .comma left)
        | left => throw (.malformed .colon left)
      else .error (.malformed .propertyName (c :: rest))

end

/-- Reads a text that holds one value and blanks. -/
def readText (room : Room) (cs : List Char) : Except Stop Json :=
  if cs.head? = some (Char.ofNat 0xFEFF) then .error (.malformed .byteOrderMark cs)
  else do
    let (value, after) ← readValue room (2 * cs.length + 2) (skipGap cs)
    match skipGap after with
    | [] => return value
    | left => throw (.malformed .extraData left)

/-- The value a text holds, if there is room for all brackets that are open together. -/
def parseWithin (room : Room) (text : String) : Except Fault Json :=
  (readText room text.toList).mapError (Stop.fault text.toList)

/-- The value a text holds, however deep its brackets nest. A reader whose calls nest as they do
stops sooner, as `parseWithin` does. -/
def parse (text : String) : Except Fault Json := parseWithin none text

end PatchReview.Json
