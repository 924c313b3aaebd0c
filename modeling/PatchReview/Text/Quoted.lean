import PatchReview.Text.Printable

/-!
Quoted text, as messages show a value of a document. Single quotes are the rule; a text that
holds a single quote and no double quote stands in double quotes.
-/

namespace PatchReview.Text

/-- The sixteen hexadecimal digits. -/
def hexDigit (n : Nat) : Char :=
  if n < 10 then Char.ofNat (0x30 + n) else Char.ofNat (0x61 + n - 10)

/-- A number in hexadecimal, in exactly `width` digits. -/
def hexText (width n : Nat) : List Char :=
  match width with
  | 0 => []
  | width + 1 => hexText width (n / 16) ++ [hexDigit (n % 16)]

/-- The quote that surrounds a text. -/
def quoteMark (cs : List Char) : Char :=
  if cs.contains '\x27' && !cs.contains '\x22' then '\x22' else '\x27'

/-- One character inside quotes. -/
def quoteChar (mark c : Char) : List Char :=
  if c == mark || c == '\\' then ['\\', c]
  else if c == '\t' then ['\\', 't']
  else if c == '\n' then ['\\', 'n']
  else if c == '\r' then ['\\', 'r']
  else if printable.contains c then [c]
  else if c.toNat < 0x100 then '\\' :: 'x' :: hexText 2 c.toNat
  else if c.toNat < 0x10000 then '\\' :: 'u' :: hexText 4 c.toNat
  else '\\' :: 'U' :: hexText 8 c.toNat

/-- A text in quotes, with escapes for what does not show. -/
def quoted (s : String) : String :=
  let cs := s.toList
  let mark := quoteMark cs
  String.ofList (mark :: cs.flatMap (quoteChar mark) ++ [mark])

end PatchReview.Text
