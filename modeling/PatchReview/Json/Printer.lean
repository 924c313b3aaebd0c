import PatchReview.Json.Basic

/-!
JSON as text, in printable ASCII alone: a blank after each comma and colon, keys in their order,
and escapes for all other characters. A value is written when its whole numbers are within the
limit on digits. How deep it nests does not matter here; a writer whose calls nest as its brackets
do would stop at some depth.
-/

namespace PatchReview.Json

open PatchReview.Text

/-- The spellings of what is not a finite number. -/
def specials : Binary64.Specials := ⟨"Infinity", "-Infinity", "NaN"⟩

/-- One sixteen bit unit as an escape. -/
def escapeUnit (n : Nat) : List Char := '\\' :: 'u' :: hexText 4 n

/-- One character inside a string. Beyond sixteen bits it takes two units. -/
def escapeChar (c : Char) : List Char :=
  if c == '\x22' then ['\\', '\x22']
  else if c == '\\' then ['\\', '\\']
  else if c == '\n' then ['\\', 'n']
  else if c == '\r' then ['\\', 'r']
  else if c == '\t' then ['\\', 't']
  else if c.toNat = 8 then ['\\', 'b']
  else if c.toNat = 12 then ['\\', 'f']
  else if 0x20 ≤ c.toNat ∧ c.toNat < 0x7F then [c]
  else if c.toNat < 0x10000 then escapeUnit c.toNat
  else
    let n := c.toNat - 0x10000
    escapeUnit (0xD800 + n / 0x400) ++ escapeUnit (0xDC00 + n % 0x400)

/-- A string in its quotes. -/
def printString (s : String) : List Char :=
  '\x22' :: s.toList.flatMap escapeChar ++ ['\x22']

mutual

/-- The characters of a value's text. -/
def printChars : Json → List Char
  | .null => "null".toList
  | .bool b => if b then "true".toList else "false".toList
  | .int n => (toString n).toList
  | .float x => (x.text specials).toList
  | .str s => printString s
  | .arr items => '[' :: printItems items ++ [']']
  | .obj fields => '\x7b' :: printFields fields ++ ['\x7d']

/-- Items with their separators. -/
def printItems : List Json → List Char
  | [] => []
  | x :: xs => printChars x ++ printMoreItems xs

/-- Items after the first. -/
def printMoreItems : List Json → List Char
  | [] => []
  | x :: xs => ',' :: ' ' :: printChars x ++ printMoreItems xs

/-- Fields with their separators. -/
def printFields : List (String × Json) → List Char
  | [] => []
  | (key, x) :: xs => printString key ++ ':' :: ' ' :: printChars x ++ printMoreFields xs

/-- Fields after the first. -/
def printMoreFields : List (String × Json) → List Char
  | [] => []
  | (key, x) :: xs =>
      ',' :: ' ' :: printString key ++ ':' :: ' ' :: printChars x ++ printMoreFields xs

end

/-- A value's text, with whole numbers of any size. -/
def print (v : Json) : String := String.ofList v.printChars

mutual

/-- Whether all whole numbers of a value are within the limit on digits. -/
def isWritable : Json → Bool
  | .int n => n.natAbs < Nat.pow 10 Integer.maxDigits
  | .arr items => areWritable items
  | .obj fields => areFieldsWritable fields
  | _ => true

/-- Whether all items are writable. -/
def areWritable : List Json → Bool
  | [] => true
  | x :: xs => isWritable x && areWritable xs

/-- Whether the values of all fields are writable. -/
def areFieldsWritable : List (String × Json) → Bool
  | [] => true
  | (_, x) :: xs => isWritable x && areFieldsWritable xs

end

/-- A value's text, unless a whole number has too many digits for it. -/
def write (v : Json) : Except Integer.Fault String :=
  if v.isWritable then .ok v.print else .error .unwritable

end PatchReview.Json
