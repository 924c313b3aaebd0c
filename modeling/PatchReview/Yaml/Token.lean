import PatchReview.Encoding.Utf8
import PatchReview.Yaml.Scalar

/-!
The tokens of a YAML text. Reading goes on to the end of the text or to the first fault, which
then is the last token: a document is refused for it only where it is needed.
-/

namespace PatchReview.Yaml

/-- A tag as it is written: with the handle that stands for its first part, or in full. -/
structure WrittenTag where
  handle : Option String
  suffix : String
  deriving DecidableEq

/-- An instruction before a document. -/
inductive Directive where
  | version (major : Nat)
  /-- Gives a handle a meaning. -/
  | tag (handle meaning : String)
  | other
  deriving DecidableEq

/-- A token. -/
inductive Token where
  | directive (d : Directive)
  | documentStart
  | documentEnd
  | blockSequence
  | blockMapping
  | blockEnd
  | flowSequence
  | flowSequenceEnd
  | flowMapping
  | flowMappingEnd
  | blockEntry
  | flowEntry
  | key
  | value
  | anchor (name : String)
  | alias (name : String)
  | tag (t : WrittenTag)
  | scalar (text : String) (plain : Bool)
  | failed (failure : Failure)
  | streamEnd

/-- Characters of names. -/
def isNameChar (c : Char) : Bool :=
  ('0' ≤ c && c ≤ '9') || ('A' ≤ c && c ≤ 'Z') || ('a' ≤ c && c ≤ 'z') || c == '-' || c == '_'

/-- Characters of tags. -/
def isTagChar (c : Char) : Bool :=
  isNameChar c || ";/?:@&=+$,.!~*'()[]%".toList.contains c

/-- Reads a name of at least one character. -/
def readName (cursor : Cursor) : Except Failure (String × Cursor) :=
  match cursor.takeWhile isNameChar with
  | ([], _) => .error .yaml
  | (name, after) => .ok (String.ofList name, after)

/-- Reads an anchor or an alias after its mark. -/
def readAnchor (cursor : Cursor) : Except Failure (String × Cursor) := do
  let (name, after) ← readName cursor.next
  let ends := isGap after.peek || after.peek.any fun c =>
    "?:,]\x7d%@".toList.contains c || c.toNat == 0x60
  if ends then return (name, after) else throw .yaml

/-- Reads the bytes of escapes in a tag. -/
def readTagBytes : Nat → Cursor → Except Failure (List UInt8 × Cursor)
  | 0, cursor => .ok ([], cursor)
  | steps + 1, cursor =>
      if cursor.peek == some '%' then
        match Quoted.hexDigits? (cursor.rest.drop 1) 2 with
        | none => .error .yaml
        | some n => do
            let (more, last) ← readTagBytes steps (cursor.skip 3)
            return (UInt8.ofNat n :: more, last)
      else .ok ([], cursor)

/-- Reads the characters of a tag, which may be written as escapes. -/
def readTagText : Nat → Cursor → Except Failure (List Char × Cursor)
  | 0, cursor => .ok ([], cursor)
  | steps + 1, cursor =>
      match cursor.peek with
      | none => .ok ([], cursor)
      | some c =>
          if c == '%' then do
            let (bytes, after) ← readTagBytes (cursor.rest.length + 1) cursor
            match Utf8.decode bytes with
            | .error _ => throw .yaml
            | .ok text =>
                let (more, last) ← readTagText steps after
                return (text.toList ++ more, last)
          else if isTagChar c then do
            let (more, last) ← readTagText steps cursor.next
            return (c :: more, last)
          else .ok ([], cursor)

/-- Reads a tag's characters, of which there is at least one. -/
def readTagUri (cursor : Cursor) : Except Failure (String × Cursor) := do
  let (text, after) ← readTagText (cursor.rest.length + 1) cursor
  if after.index == cursor.index then throw .yaml
  return (String.ofList text, after)

/-- Reads a tag handle: exclamation marks around a name, or one alone. -/
def readHandle (cursor : Cursor) : Except Failure (String × Cursor) :=
  if cursor.peek != some '!' then .error .yaml
  else
    let (name, after) := cursor.next.takeWhile isNameChar
    match after.peek with
    | some '!' => .ok (String.ofList ('!' :: name ++ ['!']), after.next)
    | some ' ' => if name.isEmpty then .ok ("!", after) else .error .yaml
    | _ => .error .yaml

/-- Reads a tag. -/
def readTag (cursor : Cursor) : Except Failure (WrittenTag × Cursor) := do
  let (tag, after) ← match cursor.peekAt 1 with
    | some '<' => do
        let (suffix, after) ← readTagUri (cursor.skip 2)
        if after.peek != some '>' then throw .yaml
        pure (⟨none, suffix⟩, after.next)
    | c =>
        if isGap c then pure (⟨none, "!"⟩, cursor.next)
        else do
          let word := (cursor.rest.drop 1).takeWhile fun c => !isSpaceOrEnd (some c)
          let (handle, after) ←
            if word.contains '!' then readHandle cursor else pure ("!", cursor.next)
          let (suffix, after) ← readTagUri after
          pure (⟨some handle, suffix⟩, after)
  if isSpaceOrEnd after.peek then return (tag, after) else throw .yaml

/-- Reads a number of a version. -/
def readVersionPart (cursor : Cursor) : Except Failure (Nat × Cursor) :=
  match cursor.takeWhile Json.isAsciiDigit with
  | ([], _) => .error .yaml
  | (digits, after) =>
      match Integer.ofText (String.ofList digits) with
      | .ok n => .ok (n.toNat, after)
      | .error fault => .error (.number fault)

/-- Reads a directive with the line it stands on. -/
def readDirective (cursor : Cursor) : Except Failure (Directive × Cursor) := do
  let (name, after) ← readName cursor.next
  if !isSpaceOrEnd after.peek then throw .yaml
  let (directive, after) ←
    if name == "YAML" then do
      let (major, after) ← readVersionPart after.skipSpaces
      if after.peek != some '.' then throw .yaml
      let (_, after) ← readVersionPart after.next
      if !isSpaceOrEnd after.peek then throw .yaml
      pure (Directive.version major, after)
    else if name == "TAG" then do
      let (handle, after) ← readHandle after.skipSpaces
      if after.peek != some ' ' then throw .yaml
      let (meaning, after) ← readTagUri after.skipSpaces
      if !isSpaceOrEnd after.peek then throw .yaml
      pure (Directive.tag handle meaning, after)
    else pure (Directive.other, after.dropWhile (!isBreak ·))
  match after.skipLine? with
  | some last => return (directive, last)
  | none => throw .yaml

end PatchReview.Yaml
