import PatchReview.Failure
import PatchReview.Yaml.Cursor

/-!
The three ways to write a scalar in YAML: plain, quoted, and as a block of lines. Line ends inside
a plain or quoted scalar are folded into spaces.
-/

namespace PatchReview.Yaml

/-- A line end and the line ends after it, as folding leaves them: alone it becomes a space. -/
def fold (first : Char) (more : List Char) : List Char :=
  if first != '\n' then first :: more
  else if more.isEmpty then [' ']
  else more

namespace Plain

/-- The characters that may not stand next to a plain scalar in a flow collection. -/
def isFlowEnd (c : Char) : Bool :=
  c == ',' || c == '?' || c == '[' || c == ']' || c == '\x7b' || c == '\x7d'

/-- Whether a colon before this character ends a plain scalar. -/
def endsAtColon (flow : Bool) (after : Option Char) : Bool :=
  isGap after || (flow && after.any fun c => c != '?' && isFlowEnd c)

/-- The characters up to a gap or an indicator that ends the scalar. -/
def word (flow : Bool) : List Char → List Char
  | [] => []
  | c :: rest =>
      if isGap (some c) || (c == ':' && endsAtColon flow rest.head?) || (flow && isFlowEnd c) then []
      else c :: word flow rest

/-- Line ends and spaces after a first line end, none if a document starts or ends there. -/
def breaks : Nat → Cursor → Option (List Char) × Cursor
  | 0, cursor => (some [], cursor)
  | steps + 1, cursor =>
      if cursor.peek == some ' ' then breaks steps cursor.next
      else match cursor.takeBreak? with
        | none => (some [], cursor)
        | some (c, after) =>
            if after.isDocumentMarker then (none, after)
            else
              let (more, last) := breaks steps after
              (more.map (c :: ·), last)

/-- What stands between two words: spaces, or folded line ends. It is empty where the scalar ends.
Also says whether there was a line end. -/
def spaces (cursor : Cursor) : List Char × Cursor × Bool :=
  let (blanks, cursor) := cursor.takeWhile (· == ' ')
  match cursor.takeBreak? with
  | none => (blanks, cursor, false)
  | some (first, after) =>
      if after.isDocumentMarker then ([], after, true)
      else match breaks (after.rest.length + 1) after with
        | (none, last) => ([], last, true)
        | (some more, last) => (fold first more, last, true)

/-- Reads words and what stands between them, with `between` already read before the first. -/
def readWords (flow : Bool) (indent : Int) : Nat → List Char → Bool → Cursor →
    List Char × Cursor × Bool
  | 0, _, broken, cursor => ([], cursor, broken)
  | steps + 1, between, broken, cursor =>
      if cursor.peek == some '#' then ([], cursor, broken)
      else
        let first := word flow cursor.rest
        if first.isEmpty then ([], cursor, broken)
        else
          let (gap, after, broken) := spaces (cursor.skip first.length)
          let ends := gap.isEmpty || after.peek == some '#' || (!flow && after.column < indent)
          if ends then (between ++ first, after, broken)
          else
            let (more, last, broken) := readWords flow indent steps gap broken after
            (between ++ first ++ more, last, broken)

/-- Reads a plain scalar, whose later lines have to be indented that far. Also says whether it
ends behind a line end. -/
def read (flow : Bool) (indent : Int) (cursor : Cursor) : List Char × Cursor × Bool :=
  readWords flow indent (cursor.rest.length + 1) [] false cursor

end Plain

namespace Quoted

/-- What an escape of one letter stands for in double quotes. -/
def escapes : List (Char × Nat) := [
  ('0', 0), ('a', 7), ('b', 8), ('\t', 9), ('t', 9), ('n', 10), ('v', 11), ('f', 12), ('r', 13),
  ('e', 27), (' ', 0x20), ('\x22', 0x22), ('\\', 0x5C), ('/', 0x2F), ('N', 0x85), ('_', 0xA0),
  ('L', 0x2028), ('P', 0x2029)]

/-- How many hexadecimal digits an escape takes. -/
def escapeDigits : List (Char × Nat) := [('x', 2), ('u', 4), ('U', 8)]

/-- The value of that many hexadecimal digits. -/
def hexDigits? (cs : List Char) (count : Nat) : Option Nat :=
  let digits := (cs.take count).filterMap Json.hexValue?
  if digits.length = count then some (Integer.valueIn 16 digits) else none

/-- The character of a code, a replacement for half a character. A code has to be a signed number
of 32 bits, and one of a character. -/
def character (code : Nat) : Except Failure Char :=
  if code ≥ 0x80000000 then .error .code
  else if code ≥ 0x110000 then .error .character
  else if 0xD800 ≤ code ∧ code < 0xE000 then .ok Json.replacement
  else .ok (Char.ofNat code)

/-- Line ends with the spaces and tabs around them. A document must not start or end there. -/
def breaks : Nat → Cursor → Except Failure (List Char × Cursor)
  | 0, cursor => .ok ([], cursor)
  | steps + 1, cursor =>
      if cursor.isDocumentMarker then .error .yaml
      else
        let cursor := cursor.dropWhile fun c => c == ' ' || c == '\t'
        match cursor.takeBreak? with
        | none => .ok ([], cursor)
        | some (c, after) => do
            let (more, last) ← breaks steps after
            return (c :: more, last)

/-- Spaces and tabs, or folded line ends. -/
def spaces (cursor : Cursor) : Except Failure (List Char × Cursor) :=
  let (blanks, cursor) := cursor.takeWhile fun c => c == ' ' || c == '\t'
  match cursor.peek with
  | none => .error .yaml
  | some _ =>
      match cursor.takeBreak? with
      | none => .ok (blanks, cursor)
      | some (first, after) => do
          let (more, last) ← breaks (after.rest.length + 1) after
          return (fold first more, last)

/-- Reads the escape after a backslash. -/
def escape (cursor : Cursor) : Except Failure (List Char × Cursor) :=
  match cursor.peek with
  | none => .error .yaml
  | some c =>
      match Assoc.get? c escapes, Assoc.get? c escapeDigits with
      | some code, _ => .ok ([Char.ofNat code], cursor.next)
      | none, some count =>
          match hexDigits? (cursor.rest.drop 1) count with
          | none => .error .yaml
          | some code => do return ([← character code], cursor.skip (count + 1))
      | none, none =>
          match cursor.takeBreak? with
          | none => .error .yaml
          | some (_, after) => breaks (after.rest.length + 1) after

/-- Reads up to the closing quote. -/
def readBody (mark : Char) : Nat → Cursor → Except Failure (List Char × Cursor)
  | 0, _ => .error .yaml
  | steps + 1, cursor =>
      match cursor.peek with
      | none => .error .yaml
      | some c =>
          if c == mark then
            if mark == '\x27' && cursor.peekAt 1 == some mark then do
              let (more, last) ← readBody mark steps (cursor.skip 2)
              return (mark :: more, last)
            else .ok ([], cursor.next)
          else if c == '\\' && mark == '\x22' then do
            let (found, after) ← escape cursor.next
            let (more, last) ← readBody mark steps after
            return (found ++ more, last)
          else if isGap (some c) then do
            let (found, after) ← spaces cursor
            let (more, last) ← readBody mark steps after
            return (found ++ more, last)
          else do
            let (more, last) ← readBody mark steps cursor.next
            return (c :: more, last)

/-- Reads a scalar in quotes. -/
def read (mark : Char) (cursor : Cursor) : Except Failure (List Char × Cursor) :=
  readBody mark (cursor.rest.length + 1) cursor.next

end Quoted

namespace Block

/-- What becomes of the line ends at the end of a block. -/
inductive Chomping where
  | clip
  | strip
  | keep
  deriving DecidableEq

/-- A sign that chooses the chomping. -/
def chomping? : Option Char → Option Chomping
  | some '+' => some .keep
  | some '-' => some .strip
  | _ => none

/-- A digit that gives the indentation. -/
def increment? (c : Option Char) : Option Nat :=
  (c.filter Json.isAsciiDigit).map fun c => c.toNat - 0x30

/-- Reads the signs after the mark of a block, in either order. -/
def indicators (cursor : Cursor) : Except Failure (Chomping × Option Nat × Cursor) := do
  let result := match chomping? cursor.peek, increment? cursor.peek with
    | some chomping, _ =>
        match increment? cursor.next.peek with
        | some n => (chomping, some n, cursor.skip 2)
        | none => (chomping, none, cursor.next)
    | none, some n =>
        match chomping? cursor.next.peek with
        | some chomping => (chomping, some n, cursor.skip 2)
        | none => (.clip, some n, cursor.next)
    | none, none => (.clip, none, cursor)
  if result.2.1 == some 0 || !isSpaceOrEnd result.2.2.peek then throw .yaml
  return result

/-- Blank lines at the start of a block, and the widest indentation among them and of the line
after them. -/
def leading : Nat → Cursor → List Char × Nat × Cursor
  | 0, cursor => ([], 0, cursor)
  | steps + 1, cursor =>
      if cursor.peek == some ' ' then
        let (more, widest, last) := leading steps cursor.next
        (more, max cursor.next.column widest, last)
      else match cursor.takeBreak? with
        | none => ([], 0, cursor)
        | some (c, after) =>
            let (more, widest, last) := leading steps after
            (c :: more, widest, last)

/-- Passes spaces up to a column. -/
def skipTo (column : Nat) (cursor : Cursor) : Cursor :=
  cursor.skip (min (column - cursor.column) (cursor.rest.takeWhile (· == ' ')).length)

/-- Blank lines inside a block. -/
def breaks (indent : Nat) : Nat → Cursor → List Char × Cursor
  | 0, cursor => ([], cursor)
  | steps + 1, cursor =>
      let cursor := skipTo indent cursor
      match cursor.takeBreak? with
      | none => ([], cursor)
      | some (c, after) =>
          let (more, last) := breaks indent steps after
          (c :: more, last)

/-- Whether a line starts with a space or a tab. -/
def startsBlank (c : Option Char) : Bool := c == some ' ' || c == some '\t'

/-- The text of a block, its last line end, the blank lines after it, and the place behind. -/
structure Body where
  text : List Char
  lastBreak : List Char
  after : List Char
  cursor : Cursor

/-- Reads the lines of a block, after blank lines that are already read. -/
def lines (folded : Bool) (indent : Nat) : Nat → List Char → List Char → Cursor → Body
  | 0, lastBreak, blank, cursor => ⟨[], lastBreak, blank, cursor⟩
  | steps + 1, lastBreak, blank, cursor =>
      if cursor.column == indent && cursor.peek.isSome then
        let leadingText := !startsBlank cursor.peek
        let (line, after) := cursor.takeWhile (!isBreak ·)
        let (lineBreak, after) := match after.takeBreak? with
          | some (c, after) => ([c], after)
          | none => ([], after)
        let (more, after) := breaks indent (after.rest.length + 1) after
        if after.column == indent && after.peek.isSome then
          let joint :=
            if folded && lineBreak == ['\n'] && leadingText && !startsBlank after.peek then
              (if more.isEmpty then [' '] else [])
            else lineBreak
          let later := lines folded indent steps lineBreak more after
          { later with text := blank ++ line ++ joint ++ later.text }
        else ⟨blank ++ line, lineBreak, more, after⟩
      else ⟨[], lastBreak, blank, cursor⟩

/-- Reads a block, whose lines have to be indented beyond `parent`. -/
def read (folded : Bool) (parent : Int) (cursor : Cursor) : Except Failure (List Char × Cursor) := do
  let (chomping, increment, cursor) ← indicators cursor.next
  let some cursor := cursor.skipLine? | throw .yaml
  let least := (max (parent + 1) 1).toNat
  let steps := cursor.rest.length + 1
  let (blank, indent, cursor) := match increment with
    | none =>
        let (blank, widest, after) := leading steps cursor
        (blank, max least widest, after)
    | some n =>
        let indent := least + n - 1
        let (blank, after) := breaks indent steps cursor
        (blank, indent, after)
  let body := lines folded indent steps [] blank cursor
  let ending := match chomping with
    | .strip => []
    | .clip => body.lastBreak
    | .keep => body.lastBreak ++ body.after
  return (body.text ++ ending, body.cursor)

end Block

end PatchReview.Yaml
