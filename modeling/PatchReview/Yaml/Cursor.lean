/-!
A place in a YAML text. The cursor knows the characters that are left, how many went before, and
the line and column it stands on.
-/

namespace PatchReview.Yaml

/-- Characters that end a line. -/
def isBreak (c : Char) : Bool :=
  c == '\n' || c == '\r' || c.toNat == 0x85 || c.toNat == 0x2028 || c.toNat == 0x2029

/-- The end of the text, or a character that ends a line. -/
def isLineEnd (c : Option Char) : Bool := c.all isBreak

/-- The end of the text, the end of a line, or a space. -/
def isSpaceOrEnd (c : Option Char) : Bool := isLineEnd c || c == some ' '

/-- The end of the text, the end of a line, a space or a tab. -/
def isGap (c : Option Char) : Bool := isSpaceOrEnd c || c == some '\t'

/-- A place in a text. Lines and columns count from zero. -/
structure Cursor where
  rest : List Char
  index : Nat
  line : Nat
  column : Nat

namespace Cursor

/-- The start of a text. -/
def start (text : List Char) : Cursor := ⟨text, 0, 0, 0⟩

/-- The next character. -/
def peek (cursor : Cursor) : Option Char := cursor.rest.head?

/-- The character that many places on. -/
def peekAt (cursor : Cursor) (offset : Nat) : Option Char := (cursor.rest.drop offset).head?

/-- Passes one character. A carriage return before a line feed does not end the line by itself,
and a byte order mark takes no column. -/
def next (cursor : Cursor) : Cursor :=
  match cursor.rest with
  | [] => cursor
  | c :: rest =>
      let endsLine := isBreak c && !(c == '\r' && rest.head? == some '\n')
      if endsLine then ⟨rest, cursor.index + 1, cursor.line + 1, 0⟩
      else if c.toNat == 0xFEFF then ⟨rest, cursor.index + 1, cursor.line, cursor.column⟩
      else ⟨rest, cursor.index + 1, cursor.line, cursor.column + 1⟩

/-- Passes several characters. -/
def skip (cursor : Cursor) : Nat → Cursor
  | 0 => cursor
  | n + 1 => cursor.next.skip n

/-- Passes the characters that satisfy a condition and gives them. -/
def takeWhile (cursor : Cursor) (holds : Char → Bool) : List Char × Cursor :=
  let taken := cursor.rest.takeWhile holds
  (taken, cursor.skip taken.length)

/-- Passes the characters that satisfy a condition. -/
def dropWhile (cursor : Cursor) (holds : Char → Bool) : Cursor := (cursor.takeWhile holds).2

/-- Passes spaces. -/
def skipSpaces (cursor : Cursor) : Cursor := cursor.dropWhile (· == ' ')

/-- Passes the end of a line. All line ends but two give a line feed. -/
def takeBreak? (cursor : Cursor) : Option (Char × Cursor) :=
  match cursor.rest with
  | '\r' :: '\n' :: _ => some ('\n', cursor.skip 2)
  | c :: _ =>
      if c.toNat == 0x2028 || c.toNat == 0x2029 then some (c, cursor.next)
      else if isBreak c then some ('\n', cursor.next)
      else none
  | [] => none

/-- Whether the text goes on with three equal characters and a gap. -/
def isMarker (cursor : Cursor) (c : Char) : Bool :=
  cursor.rest.take 3 == [c, c, c] && isGap (cursor.peekAt 3)

/-- Whether a document starts or ends here. -/
def isDocumentMarker (cursor : Cursor) : Bool := cursor.isMarker '-' || cursor.isMarker '.'

/-- Passes the rest of a line that may only hold spaces and a comment, and its end. -/
def skipLine? (cursor : Cursor) : Option Cursor :=
  let cursor := cursor.skipSpaces
  let cursor := if cursor.peek == some '#' then cursor.dropWhile (!isBreak ·) else cursor
  if isLineEnd cursor.peek then some ((cursor.takeBreak?.map Prod.snd).getD cursor) else none

end Cursor

end PatchReview.Yaml
