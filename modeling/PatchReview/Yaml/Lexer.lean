import PatchReview.Yaml.Token

/-!
Cutting a YAML text into tokens. Indentation opens and closes blocks, and a colon makes a key of
what stands before it on its line.
-/

namespace PatchReview.Yaml

/-- Something that may turn out to be a key: the number of its first token, whether it has to be a
key because of its indentation, and its place. -/
structure KeyCandidate where
  token : Nat
  required : Bool
  index : Nat
  line : Nat
  column : Nat

/-- A text under way: the tokens so far, how many flow collections are open, the indentation of
the open blocks from the innermost out, whether a key may start here, and the candidate for a key
in each flow collection. -/
structure Lexer where
  cursor : Cursor
  tokens : Array Token
  flowLevel : Nat
  indent : Int
  outer : List Int
  keyAllowed : Bool
  candidates : List (Nat × KeyCandidate)

namespace Lexer

/-- The start of a text. -/
def start (text : List Char) : Lexer := ⟨.start text, #[], 0, -1, [], true, []⟩

/-- Whether the text is inside a flow collection. -/
def inFlow (lexer : Lexer) : Bool := lexer.flowLevel != 0

/-- Puts a token at the end. -/
def push (lexer : Lexer) (token : Token) : Lexer :=
  { lexer with tokens := lexer.tokens.push token }

/-- Puts tokens before the one with a number. -/
def insert (lexer : Lexer) (number : Nat) (more : Array Token) : Lexer :=
  { lexer with
    tokens := lexer.tokens.extract 0 number ++ more
      ++ lexer.tokens.extract number lexer.tokens.size }

/-- Goes on behind a place. -/
def moveTo (lexer : Lexer) (cursor : Cursor) : Lexer := { lexer with cursor }

/-- Says whether a key may start next. -/
def allowKey (lexer : Lexer) (allowed : Bool) : Lexer := { lexer with keyAllowed := allowed }

/-- Passes blanks, comments and line ends. After a line end outside flow collections a key may
start. -/
def skipGap : Nat → Lexer → Lexer
  | 0, lexer => lexer
  | steps + 1, lexer =>
      let cursor := lexer.cursor.skipSpaces
      let cursor := if cursor.peek == some '#' then cursor.dropWhile (!isBreak ·) else cursor
      match cursor.takeBreak? with
      | none => lexer.moveTo cursor
      | some (_, after) =>
          let lexer := lexer.moveTo after
          skipGap steps (if lexer.inFlow then lexer else lexer.allowKey true)

/-- Whether a candidate is no longer a key: it is on another line, or too far back. -/
def isStale (lexer : Lexer) (entry : Nat × KeyCandidate) : Bool :=
  entry.2.line != lexer.cursor.line || lexer.cursor.index - entry.2.index > 1024

/-- Drops the candidates that are no longer keys. -/
def dropStale (lexer : Lexer) : Except Failure Lexer :=
  if lexer.candidates.any fun entry => lexer.isStale entry && entry.2.required then .error .yaml
  else .ok { lexer with candidates := lexer.candidates.filter (!lexer.isStale ·) }

/-- Drops the candidate of the innermost collection. -/
def dropCandidate (lexer : Lexer) : Except Failure Lexer :=
  match Assoc.get? lexer.flowLevel lexer.candidates with
  | none => .ok lexer
  | some candidate =>
      if candidate.required then .error .yaml
      else .ok { lexer with
        candidates := lexer.candidates.filter fun entry => entry.1 != lexer.flowLevel }

/-- Notes that the next token may start a key. -/
def noteCandidate (lexer : Lexer) : Except Failure Lexer := do
  if !lexer.keyAllowed then return lexer
  let lexer ← lexer.dropCandidate
  let cursor := lexer.cursor
  let required := !lexer.inFlow && lexer.indent == cursor.column
  let candidate : KeyCandidate :=
    ⟨lexer.tokens.size, required, cursor.index, cursor.line, cursor.column⟩
  return { lexer with candidates := lexer.candidates ++ [(lexer.flowLevel, candidate)] }

/-- Closes blocks that are indented beyond a column. -/
def unwind (column : Int) : Nat → Lexer → Lexer
  | 0, lexer => lexer
  | steps + 1, lexer =>
      if lexer.inFlow || lexer.indent ≤ column then lexer
      else
        unwind column steps
          { lexer.push .blockEnd with indent := lexer.outer.headD (-1), outer := lexer.outer.tail }

/-- Closes all blocks that are indented beyond a column. -/
def unwindTo (lexer : Lexer) (column : Int) : Lexer :=
  lexer.unwind column (lexer.outer.length + 1)

/-- Opens a block at a column, unless one is open there. -/
def openBlock? (lexer : Lexer) (column : Int) : Option Lexer :=
  if lexer.indent < column then
    some { lexer with indent := column, outer := lexer.indent :: lexer.outer }
  else none

/-- Opens a block at the current column with a token. -/
def openHere (lexer : Lexer) (token : Token) : Lexer :=
  match lexer.openBlock? lexer.cursor.column with
  | some opened => opened.push token
  | none => lexer

/-- Takes a token of a few characters. -/
def take (lexer : Lexer) (count : Nat) (token : Token) : Lexer :=
  (lexer.moveTo (lexer.cursor.skip count)).push token

/-- The end of the text. -/
def atEnd (lexer : Lexer) : Except Failure Lexer := do
  let lexer ← (lexer.unwindTo (-1)).dropCandidate
  return lexer.push .streamEnd

/-- A directive. -/
def atDirective (lexer : Lexer) : Except Failure Lexer := do
  let lexer ← (lexer.unwindTo (-1)).dropCandidate
  let (directive, after) ← readDirective lexer.cursor
  return ((lexer.allowKey false).moveTo after).push (.directive directive)

/-- The start or the end of a document. -/
def atMarker (lexer : Lexer) (token : Token) : Except Failure Lexer := do
  let lexer ← (lexer.unwindTo (-1)).dropCandidate
  return (lexer.allowKey false).take 3 token

/-- The start of a flow collection. -/
def atFlowStart (lexer : Lexer) (token : Token) : Except Failure Lexer := do
  let lexer ← lexer.noteCandidate
  return ({ lexer with flowLevel := lexer.flowLevel + 1 }.allowKey true).take 1 token

/-- The end of a flow collection. -/
def atFlowEnd (lexer : Lexer) (token : Token) : Except Failure Lexer := do
  let lexer ← lexer.dropCandidate
  return ({ lexer with flowLevel := lexer.flowLevel - 1 }.allowKey false).take 1 token

/-- A comma between items. -/
def atFlowEntry (lexer : Lexer) : Except Failure Lexer := do
  let lexer ← (lexer.allowKey true).dropCandidate
  return lexer.take 1 .flowEntry

/-- A dash before an item. -/
def atBlockEntry (lexer : Lexer) : Except Failure Lexer := do
  if !lexer.inFlow && !lexer.keyAllowed then throw .yaml
  let lexer := if lexer.inFlow then lexer else lexer.openHere .blockSequence
  let lexer ← (lexer.allowKey true).dropCandidate
  return lexer.take 1 .blockEntry

/-- A question mark before a key. -/
def atKey (lexer : Lexer) : Except Failure Lexer := do
  if !lexer.inFlow && !lexer.keyAllowed then throw .yaml
  let lexer := if lexer.inFlow then lexer else lexer.openHere .blockMapping
  let lexer ← (lexer.allowKey (!lexer.inFlow)).dropCandidate
  return lexer.take 1 .key

/-- A colon before a value. What may be a key before it is one. -/
def atValue (lexer : Lexer) : Except Failure Lexer := do
  match Assoc.get? lexer.flowLevel lexer.candidates with
  | some candidate =>
      let lexer := { lexer with
        candidates := lexer.candidates.filter fun entry => entry.1 != lexer.flowLevel }
      let lexer :=
        if lexer.inFlow then lexer.insert candidate.token #[.key]
        else match lexer.openBlock? candidate.column with
          | some opened => opened.insert candidate.token #[.blockMapping, .key]
          | none => lexer.insert candidate.token #[.key]
      return (lexer.allowKey false).take 1 .value
  | none =>
      if !lexer.inFlow && !lexer.keyAllowed then throw .yaml
      let lexer := if lexer.inFlow then lexer else lexer.openHere .blockMapping
      let lexer ← (lexer.allowKey (!lexer.inFlow)).dropCandidate
      return lexer.take 1 .value

/-- What may start a key: an anchor, an alias, a tag or a scalar. -/
def atContent (lexer : Lexer) (read : Cursor → Except Failure (Token × Cursor))
    : Except Failure Lexer := do
  let lexer ← lexer.noteCandidate
  let (token, after) ← read lexer.cursor
  return ((lexer.allowKey false).moveTo after).push token

/-- A scalar in quotes. -/
def atQuoted (lexer : Lexer) (mark : Char) : Except Failure Lexer :=
  lexer.atContent fun cursor => do
    let (text, after) ← Quoted.read mark cursor
    return (.scalar (String.ofList text) false, after)

/-- A plain scalar. A key may start after it when it ends behind a line end. -/
def atPlain (lexer : Lexer) : Except Failure Lexer := do
  let lexer ← lexer.noteCandidate
  let (text, after, broken) := Plain.read lexer.inFlow (lexer.indent + 1) lexer.cursor
  return ((lexer.allowKey broken).moveTo after).push (.scalar (String.ofList text) true)

/-- A block of lines. -/
def atBlock (lexer : Lexer) (folded : Bool) : Except Failure Lexer := do
  let lexer ← (lexer.allowKey true).dropCandidate
  let (text, after) ← Block.read folded lexer.indent lexer.cursor
  return (lexer.moveTo after).push (.scalar (String.ofList text) false)

/-- Characters that no plain scalar starts with. -/
def isIndicator (c : Char) : Bool :=
  "-?:,[]\x7b\x7d#&*!|>'\x22%@".toList.contains c || c.toNat == 0x60

/-- Whether a plain scalar starts with `c` before `after`. -/
def startsPlain (lexer : Lexer) (c : Char) (after : Option Char) : Bool :=
  (!isGap (some c) && !isIndicator c)
    || (!isGap after && (c == '-' || (!lexer.inFlow && (c == '?' || c == ':'))))

/-- Reads what starts at the next character that is no blank. -/
def token (lexer : Lexer) : Except Failure Lexer := do
  let lexer ← (lexer.skipGap (lexer.cursor.rest.length + 1)).dropStale
  let lexer := lexer.unwindTo lexer.cursor.column
  let cursor := lexer.cursor
  match cursor.peek with
  | none => lexer.atEnd
  | some c =>
      let after := cursor.peekAt 1
      if c == '%' && cursor.column == 0 then lexer.atDirective
      else if cursor.column == 0 && cursor.isMarker '-' then lexer.atMarker .documentStart
      else if cursor.column == 0 && cursor.isMarker '.' then lexer.atMarker .documentEnd
      else if c == '[' then lexer.atFlowStart .flowSequence
      else if c == '\x7b' then lexer.atFlowStart .flowMapping
      else if c == ']' then lexer.atFlowEnd .flowSequenceEnd
      else if c == '\x7d' then lexer.atFlowEnd .flowMappingEnd
      else if c == ',' then lexer.atFlowEntry
      else if c == '-' && isGap after then lexer.atBlockEntry
      else if c == '?' && (lexer.inFlow || isGap after) then lexer.atKey
      else if c == ':' && (lexer.inFlow || isGap after) then lexer.atValue
      else if c == '*' then
        lexer.atContent fun cursor => (readAnchor cursor).map fun (name, rest) => (.alias name, rest)
      else if c == '&' then
        lexer.atContent fun cursor => (readAnchor cursor).map fun (name, rest) => (.anchor name, rest)
      else if c == '!' then
        lexer.atContent fun cursor => (readTag cursor).map fun (tag, rest) => (.tag tag, rest)
      else if c == '|' && !lexer.inFlow then lexer.atBlock false
      else if c == '>' && !lexer.inFlow then lexer.atBlock true
      else if c == '\x27' || c == '\x22' then lexer.atQuoted c
      else if lexer.startsPlain c after then lexer.atPlain
      else throw .yaml

/-- Whether the tokens are complete. -/
def isDone (lexer : Lexer) : Bool :=
  match lexer.tokens.back? with
  | some .streamEnd => true
  | _ => false

/-- The tokens that are there without a look at what follows: those before the first one that may
still turn out to start a key. -/
def settled (lexer : Lexer) : Array Token :=
  let fresh := lexer.candidates.filter (!lexer.isStale ·)
  lexer.tokens.extract 0 (fresh.foldl (fun count entry => min count entry.2.token) lexer.tokens.size)

/-- Reads tokens to the end of the text or the first fault. Every token but the last takes a
character. -/
def run : Nat → Lexer → Array Token
  | 0, lexer => lexer.tokens.push (.failed .yaml)
  | steps + 1, lexer =>
      match lexer.token with
      | .error failure => lexer.settled.push (.failed failure)
      | .ok next => if next.isDone then next.tokens else run steps next

end Lexer

/-- Characters that a text may hold. -/
def isAllowed (c : Char) : Bool :=
  let n := c.toNat
  n == 9 || n == 10 || n == 13 || (0x20 ≤ n && n ≤ 0x7E) || n == 0x85 || (0xA0 ≤ n && n ≤ 0xD7FF)
    || (0xE000 ≤ n && n ≤ 0xFFFD) || 0x10000 ≤ n

/-- The tokens of a text. A byte order mark at its start is passed over. -/
def Token.ofText (text : List Char) : List Token :=
  if text.all isAllowed then
    let start := Lexer.start text
    let start := if text.head? == some (Char.ofNat 0xFEFF) then start.moveTo start.cursor.next else start
    (Lexer.run (text.length + 2) start).toList
  else [.failed .yaml]

end PatchReview.Yaml
