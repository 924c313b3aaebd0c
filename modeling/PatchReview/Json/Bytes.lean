import PatchReview.Encoding.Utf8
import PatchReview.Json.Parser

/-!
JSON documents as bytes. A document is in one of five encodings. As it starts with a character of
ASCII, which one is told by where the zeros among its first bytes are.
-/

namespace PatchReview.Json

/-- An encoding of texts. The wide ones take two or four bytes a unit, the highest one first or
last. -/
inductive Encoding where
  | utf8
  | utf16 (highFirst : Bool)
  | utf32 (highFirst : Bool)
  deriving DecidableEq, Repr

namespace Encoding

/-- The encoding that the first bytes of a document tell. -/
def ofStart (bytes : List UInt8) : Encoding :=
  match bytes with
  | [a, b] => if a == 0 then .utf16 true else if b == 0 then .utf16 false else .utf8
  | a :: b :: c :: d :: _ =>
      if a == 0 then (if b == 0 then .utf32 true else .utf16 true)
      else if b == 0 then (if c == 0 && d == 0 then .utf32 false else .utf16 false)
      else .utf8
  | _ => .utf8

/-- The number that bytes are, the highest one first or last. -/
def unit (highFirst : Bool) (bytes : List UInt8) : Nat :=
  (if highFirst then bytes else bytes.reverse).foldl (fun total b => total * 256 + b.toNat) 0

/-- The units of two bytes each, if no byte is left. -/
def pairs? (highFirst : Bool) : List UInt8 → Option (List Nat)
  | [] => some []
  | a :: b :: rest => (pairs? highFirst rest).map (unit highFirst [a, b] :: ·)
  | _ => none

/-- The units of four bytes each, if no byte is left. -/
def quads? (highFirst : Bool) : List UInt8 → Option (List Nat)
  | [] => some []
  | a :: b :: c :: d :: rest => (quads? highFirst rest).map (unit highFirst [a, b, c, d] :: ·)
  | _ => none

/-- The character of a code, a replacement for half a character. -/
def character (code : Nat) : Char :=
  if isHighHalf code || isLowHalf code then replacement else Char.ofNat code

/-- Characters from units of two bytes. Two halves make one character. -/
def joinHalves : List Nat → List Char
  | [] => []
  | [a] => [character a]
  | a :: b :: rest =>
      if isHighHalf a && isLowHalf b then
        Char.ofNat (0x10000 + (a - 0xD800) * 0x400 + (b - 0xDC00)) :: joinHalves rest
      else character a :: joinHalves (b :: rest)

/-- The text that bytes encode, if they do. -/
def decode? (bytes : List UInt8) : Encoding → Option String
  | .utf8 => (Utf8.decode bytes).toOption
  | .utf16 highFirst => (pairs? highFirst bytes).map fun units => String.ofList (joinHalves units)
  | .utf32 highFirst => do
      let units ← quads? highFirst bytes
      if units.all (· < 0x110000) then return String.ofList (units.map character) else none

end Encoding

/-- A document without the mark of its encoding at its start. -/
def dropOrderMark : List UInt8 → List UInt8
  | 0xEF :: 0xBB :: 0xBF :: rest => rest
  | bytes => bytes

/-- The value that a document holds, if it holds one. -/
def ofBytes? (bytes : List UInt8) : Option Json := do
  let unmarked := dropOrderMark bytes
  let encoding := if unmarked.length < bytes.length then .utf8 else Encoding.ofStart bytes
  (parse (← encoding.decode? unmarked)).toOption

end PatchReview.Json
