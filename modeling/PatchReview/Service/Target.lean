import PatchReview.Encoding.Utf8
import PatchReview.Json.Parser
import PatchReview.Server

/-!
Targets of requests: a path, or an address with a scheme and a server before it. Queries and
fragments are cut off, and escapes of bytes in the path are resolved.
-/

namespace PatchReview.Service

/-- A target: the path it names, one character for each byte. -/
structure Target where
  path : List Char

namespace Target

/-- Spaces and control characters, which may stand before a target. -/
def isMargin (c : Char) : Bool := c.toNat ≤ 0x20

/-- Line ends and tabs, which count for nothing anywhere in a target. -/
def isIgnored (c : Char) : Bool := c == '\t' || c == '\n' || c == '\r'

/-- Characters of schemes. -/
def isSchemeChar (c : Char) : Bool := c.isAlphanum || c == '+' || c == '-' || c == '.'

/-- An address in parts. The path has its query with it. -/
structure Parts where
  scheme : List Char
  server : List Char
  path : List Char

/-- Cuts off a scheme with its colon. -/
def cutScheme (cs : List Char) : List Char × List Char :=
  let name := cs.takeWhile (· != ':')
  match cs.drop name.length with
  | _ :: rest =>
      if name.head?.any Char.isAlpha && name.all isSchemeChar then (name, rest) else ([], cs)
  | [] => ([], cs)

/-- Cuts off a server, which two slashes go before. -/
def cutServer (cs : List Char) : List Char × List Char :=
  match cs with
  | '/' :: '/' :: rest =>
      let server := rest.takeWhile fun c => c != '/' && c != '?' && c != '#'
      (server, rest.drop server.length)
  | _ => ([], cs)

/-- The parts of an address, whose server is looked at. -/
def parts (cs : List Char) : Except ServerFault Parts := do
  let (scheme, rest) := cutScheme ((cs.dropWhile isMargin).filter (!isIgnored ·))
  let (server, rest) := cutServer rest
  Server.check server
  return ⟨scheme, server, rest.takeWhile (· != '#')⟩

/-- The bytes of a path with the escapes among them resolved: a percent sign and two hexadecimal
digits are one byte. -/
def resolve : List UInt8 → List UInt8
  | 0x25 :: a :: b :: rest =>
      match Json.hexValue? (Char.ofNat a.toNat), Json.hexValue? (Char.ofNat b.toNat) with
      | some high, some low => UInt8.ofNat (high * 16 + low) :: resolve rest
      | _, _ => 0x25 :: resolve (a :: b :: rest)
  | b :: rest => b :: resolve rest
  | [] => []

/-- A path that may itself be an address, as it is asked for. -/
def written (named : Parts) : Except ServerFault (List Char) := do
  let server ← (Server.ofText named.server).written
  let place := if server.isEmpty then named.path else '/' :: '/' :: server ++ named.path
  return if named.scheme.isEmpty then place else named.scheme ++ ':' :: place

/-- A path of bytes that starts with one slash, unless it is empty. -/
def plainPath (cs : List Char) : List Char :=
  match (resolve (Utf8.encode (String.ofList cs))).map fun b => Char.ofNat b.toNat with
  | [] => []
  | cs => '/' :: cs.dropWhile (· == '/')

/-- Reads a target. What is left after the server is an address again, and its path once more. The
server of the whole is looked at last, once more as it is sent. -/
def ofText (text : String) : Except ServerFault Target := do
  let address ← parts text.toList
  let inner ← parts address.path
  let path ← written (← parts (inner.path.takeWhile (· != '?')))
  Server.check (← (Server.ofText address.server).written)
  return ⟨plainPath path⟩

/-- A path in which slashes that stand together are one. -/
def mergeSlashes : List Char → List Char
  | '/' :: rest =>
      match mergeSlashes rest with
      | '/' :: merged => '/' :: merged
      | merged => '/' :: merged
  | c :: rest => c :: mergeSlashes rest
  | [] => []

end Target

end PatchReview.Service
