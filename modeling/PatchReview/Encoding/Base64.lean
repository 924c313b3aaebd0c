/-!
Base64 as hosts deliver it. Characters outside the alphabet are skipped, and padding that completes
a group of four ends the data.
-/

namespace PatchReview.Base64

/-- Why a text is not Base64. -/
inductive Fault where
  /-- The text has characters outside ASCII. -/
  | notAscii
  /-- One character is left over after this many whole ones. -/
  | danglingCharacter (count : Nat)
  /-- The last group is incomplete. -/
  | padding
  deriving DecidableEq, Repr

/-- What a message says of the fault. -/
def Fault.message : Fault → String
  | .notAscii => "string argument should contain only ASCII characters"
  | .danglingCharacter count =>
      "Invalid base64-encoded string: number of data characters (" ++ toString count
        ++ ") cannot be 1 more than a multiple of 4"
  | .padding => "Incorrect padding"

/-- The six bits of a character of the alphabet. -/
def sextet? (c : Char) : Option Nat :=
  if 'A' ≤ c ∧ c ≤ 'Z' then some (c.toNat - 0x41)
  else if 'a' ≤ c ∧ c ≤ 'z' then some (c.toNat - 0x61 + 26)
  else if '0' ≤ c ∧ c ≤ '9' then some (c.toNat - 0x30 + 52)
  else if c == '+' then some 62
  else if c == '/' then some 63
  else none

/-- A group of four under way: how many characters it has, the bits not yet written, the padding
seen since the last character, and the characters before it. -/
structure Group where
  size : Nat
  bits : Nat
  pads : Nat
  before : Nat

/-- Decodes characters into bytes. -/
def decodeFrom (group : Group) : List Char → Except Fault (List UInt8)
  | [] =>
      if group.size = 0 then .ok []
      else if group.size = 1 then .error (.danglingCharacter (group.before + 1))
      else .error .padding
  | c :: rest =>
      if c == '=' then
        if group.size < 2 then decodeFrom group rest
        else if group.size + group.pads + 1 ≥ 4 then .ok []
        else decodeFrom { group with pads := group.pads + 1 } rest
      else match sextet? c with
        | none => decodeFrom group rest
        | some bits =>
            let write := fun (byte : Nat) (next : Group) =>
              (decodeFrom next rest).map (UInt8.ofNat byte :: ·)
            match group.size with
            | 0 => decodeFrom ⟨1, bits, 0, group.before⟩ rest
            | 1 => write (group.bits * 4 + bits / 16) ⟨2, bits % 16, 0, group.before⟩
            | 2 => write (group.bits * 16 + bits / 4) ⟨3, bits % 4, 0, group.before⟩
            | _ => write (group.bits * 64 + bits) ⟨0, 0, 0, group.before + 4⟩

/-- The bytes of an ASCII text. -/
def decodeAscii (cs : List Char) : Except Fault (List UInt8) := decodeFrom ⟨0, 0, 0, 0⟩ cs

/-- The bytes of a text. -/
def decode (s : String) : Except Fault (List UInt8) :=
  if s.toList.all (·.toNat < 0x80) then decodeAscii s.toList else .error .notAscii

end PatchReview.Base64
