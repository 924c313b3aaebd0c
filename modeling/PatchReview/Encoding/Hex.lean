import PatchReview.Json.Parser

/-!
Bytes written as pairs of hexadecimal digits.
-/

namespace PatchReview.Hex

/-- The bytes that pairs of digits spell. What is no pair of digits is passed over. -/
def decode : List Char → List UInt8
  | high :: low :: rest =>
      match Json.hexValue? high, Json.hexValue? low with
      | some h, some l => UInt8.ofNat (16 * h + l) :: decode rest
      | _, _ => decode rest
  | _ => []

/-- The digits of bytes, in small letters. -/
def encode (bytes : List UInt8) : String :=
  String.ofList (bytes.flatMap fun b => Text.hexText 2 b.toNat)

end PatchReview.Hex
