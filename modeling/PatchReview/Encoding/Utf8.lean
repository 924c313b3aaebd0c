import PatchReview.Text.Quoted

/-!
Strict UTF-8. Decoding refuses overlong forms, surrogates and code points past U+10FFFF, and says
which bytes it could not use.
-/

namespace PatchReview.Utf8

/-- Why bytes are not text. -/
inductive Reason where
  | startByte
  | continuationByte
  | endOfData
  deriving DecidableEq, Repr

/-- The bytes that could not be decoded. -/
structure Fault where
  position : Nat
  length : Nat
  byte : UInt8
  reason : Reason
  deriving DecidableEq, Repr

/-- The words for a reason. -/
def Reason.text : Reason → String
  | .startByte => "invalid start byte"
  | .continuationByte => "invalid continuation byte"
  | .endOfData => "unexpected end of data"

/-- What a message says of the fault. A single byte is shown, several are only located. -/
def Fault.message (fault : Fault) : String :=
  let place :=
    if fault.length = 1 then
      "byte 0x" ++ String.ofList (Text.hexText 2 fault.byte.toNat) ++ " in position "
        ++ toString fault.position
    else
      "bytes in position " ++ toString fault.position ++ "-"
        ++ toString (fault.position + fault.length - 1)
  "'utf-8' codec can't decode " ++ place ++ ": " ++ fault.reason.text

/-- A character whose continuation bytes are still to come. -/
structure Partial where
  value : Nat
  missing : Nat
  low : Nat
  high : Nat
  lead : UInt8
  seen : Nat

/-- What a lead byte announces. The bounds on the next byte exclude overlong forms, surrogates
and code points past the last. -/
def lead? (b : UInt8) : Option Partial :=
  let n := b.toNat
  if 0xC2 ≤ n ∧ n ≤ 0xDF then some ⟨n - 0xC0, 1, 0x80, 0xBF, b, 1⟩
  else if n = 0xE0 then some ⟨0, 2, 0xA0, 0xBF, b, 1⟩
  else if n = 0xED then some ⟨0xD, 2, 0x80, 0x9F, b, 1⟩
  else if 0xE1 ≤ n ∧ n ≤ 0xEF then some ⟨n - 0xE0, 2, 0x80, 0xBF, b, 1⟩
  else if n = 0xF0 then some ⟨0, 3, 0x90, 0xBF, b, 1⟩
  else if n = 0xF4 then some ⟨4, 3, 0x80, 0x8F, b, 1⟩
  else if 0xF1 ≤ n ∧ n ≤ 0xF3 then some ⟨n - 0xF0, 3, 0x80, 0xBF, b, 1⟩
  else none

/-- Decodes bytes from a position, with the character that is under way. -/
def decodeFrom (position : Nat) (pending : Option Partial) : List UInt8 → Except Fault (List Char)
  | [] =>
      match pending with
      | none => .ok []
      | some p => .error ⟨position - p.seen, p.seen, p.lead, .endOfData⟩
  | b :: rest =>
      match pending with
      | none =>
          if b.toNat < 0x80 then
            (decodeFrom (position + 1) none rest).map (Char.ofNat b.toNat :: ·)
          else match lead? b with
            | none => .error ⟨position, 1, b, .startByte⟩
            | some p => decodeFrom (position + 1) (some p) rest
      | some p =>
          if p.low ≤ b.toNat ∧ b.toNat ≤ p.high then
            let value := p.value * 64 + (b.toNat - 0x80)
            if p.missing ≤ 1 then
              (decodeFrom (position + 1) none rest).map (Char.ofNat value :: ·)
            else
              decodeFrom (position + 1)
                (some ⟨value, p.missing - 1, 0x80, 0xBF, p.lead, p.seen + 1⟩) rest
          else .error ⟨position - p.seen, p.seen, p.lead, .continuationByte⟩

/-- The text that bytes encode. -/
def decode (bytes : List UInt8) : Except Fault String :=
  (decodeFrom 0 none bytes).map String.ofList

/-- The bytes of one character. -/
def encodeChar (c : Char) : List UInt8 :=
  let n := c.toNat
  let tail := fun (shift : Nat) => UInt8.ofNat (0x80 + n / Nat.pow 64 shift % 64)
  if n < 0x80 then [UInt8.ofNat n]
  else if n < 0x800 then [UInt8.ofNat (0xC0 + n / 64), tail 0]
  else if n < 0x10000 then [UInt8.ofNat (0xE0 + n / Nat.pow 64 2), tail 1, tail 0]
  else [UInt8.ofNat (0xF0 + n / Nat.pow 64 3), tail 2, tail 1, tail 0]

/-- The bytes of a text. -/
def encode (s : String) : List UInt8 := s.toList.flatMap encodeChar

end PatchReview.Utf8
