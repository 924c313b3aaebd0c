import PatchReview.HostName
import PatchReview.Number.Integer
import PatchReview.Text.Letter
import PatchReview.Text.Quoted

/-!
The server in a web address: who asks, a host and a port. Brackets stand around addresses of
version 6, and nothing else stands in them. The name of a host is looked at before it is used.
-/

namespace PatchReview

/-- Why the server in an address cannot be used. -/
inductive ServerFault where
  /-- Brackets that do not stand around a host. -/
  | brackets
  /-- Brackets around what is no address. -/
  | address (host : String)
  /-- Brackets around an address of version 4. -/
  | plainAddress
  /-- Brackets around an address of a later version that is not spelled as one. -/
  | laterAddress
  /-- A character that stands for one which no server has. -/
  | lookalike (server : String)
  | port (text : String)
  | portNumber (fault : Integer.Fault)
  | portRange
  | name (fault : NameFault)
  deriving DecidableEq, Repr

/-- What a message says of the fault. -/
def ServerFault.message : ServerFault → String
  | .brackets => "Invalid IPv6 URL"
  | .address host => Text.quoted host ++ " does not appear to be an IPv4 or IPv6 address"
  | .plainAddress => "An IPv4 address cannot be in brackets"
  | .laterAddress => "IPvFuture address is invalid"
  | .lookalike server =>
      "netloc '" ++ server ++ "' contains invalid characters under NFKC normalization"
  | .port text => "Port could not be cast to integer value as " ++ Text.quoted text
  | .portNumber fault => fault.message
  | .portRange => "Port out of range 0-65535"
  | .name fault => "encoding with 'idna' codec failed (UnicodeError: " ++ fault.message ++ ")"

/-- Whether the fault is one of the host's name. -/
def ServerFault.isName : ServerFault → Bool
  | .name _ => true
  | _ => false

/-- A server, in the parts that its text has. -/
structure Server where
  user : Option (List Char)
  password : Option (List Char)
  host : List Char
  port : List Char

namespace Server

/-- Cuts a text at the first of a character. -/
def cut (mark : Char) (cs : List Char) : List Char × Option (List Char) :=
  match cs.dropWhile (· != mark) with
  | _ :: rest => (cs.takeWhile (· != mark), some rest)
  | [] => (cs, none)

/-- Cuts a text at the last of a character. What is before it is none if there is no such. -/
def cutLast (mark : Char) (cs : List Char) : Option (List Char) × List Char :=
  match cut mark cs.reverse with
  | (last, some before) => (some before.reverse, last.reverse)
  | (_, none) => (none, cs)

/-- A byte in decimal digits, without a zero in front. -/
def isByte (cs : List Char) : Bool :=
  !cs.isEmpty && cs.length ≤ 3 && cs.all Char.isDigit && (cs.head? != some '0' || cs.length == 1)
    && Integer.valueIn 10 (cs.map fun c => c.toNat - '0'.toNat) ≤ 255

/-- Addresses of version 4: four bytes. -/
def isPlainAddress (cs : List Char) : Bool :=
  let bytes := HostName.labels (· == '.') cs
  bytes.length == 4 && bytes.all isByte

/-- Hexadecimal digits. -/
def isHex (c : Char) : Bool := c.isDigit || "abcdefABCDEF".toList.contains c

/-- Two bytes in hexadecimal digits. -/
def isGroup (cs : List Char) : Bool := !cs.isEmpty && cs.length ≤ 4 && cs.all isHex

/-- The groups of an address of version 6. The last two may be written as an address of
version 4. -/
def groups? (cs : List Char) : Option (List (List Char)) :=
  let groups := HostName.labels (· == ':') cs
  let last := groups.getLast?.getD []
  if groups.length < 3 then none
  else if last.contains '.' then
    if isPlainAddress last then some (groups.dropLast ++ [['0'], ['0']]) else none
  else some groups

/-- Whether groups make an address: eight of them, or fewer with one gap. -/
def areGroups (groups : List (List Char)) : Bool :=
  let inner := (groups.drop 1).dropLast
  let gaps := inner.countP (·.isEmpty)
  if gaps = 0 then groups.length == 8 && groups.all isGroup
  else
    let place := (inner.takeWhile (!·.isEmpty)).length + 1
    let before := groups.take place
    let after := groups.drop (place + 1)
    let before := if before == [[]] then [] else before
    let after := if after == [[]] then [] else after
    gaps == 1 && before.length + after.length < 8 && before.all isGroup && after.all isGroup

/-- Addresses of version 6. A zone may follow a percent sign. -/
def isAddress (cs : List Char) : Bool :=
  let (address, zone) := cut '%' cs
  zone.all (fun zone => !zone.isEmpty && !zone.contains '%') && (groups? address).any areGroups

/-- Addresses of a later version: its number in hexadecimal, a point and more. -/
def isLaterAddress (cs : List Char) : Bool :=
  match cs with
  | 'v' :: rest =>
      let version := rest.takeWhile isHex
      match rest.drop version.length with
      | '.' :: _ :: _ => !version.isEmpty
      | _ => false
  | _ => false

/-- Looks at the host that brackets are about. -/
def checkBracketed (host : List Char) : Except ServerFault Unit :=
  if host.head? == some 'v' then
    if isLaterAddress host then .ok () else .error .laterAddress
  else if isPlainAddress host then .error .plainAddress
  else if isAddress host then .ok ()
  else .error (.address (String.ofList host))

/-- Looks at a text with brackets in it: nothing but a port stands beside them. -/
def checkBrackets (cs : List Char) : Except ServerFault Unit :=
  let place := (cutLast '@' cs).2
  match cut '[' place with
  | (before, some bracketed) =>
      let (host, after) := cut ']' bracketed
      let after := after.getD []
      if !before.isEmpty || !(after.isEmpty || after.head? == some ':') then .error .brackets
      else checkBracketed host
  | (_, none) => checkBracketed (cut ':' place).1

/-- Characters that stand for a slash, a question mark, a number sign, an at sign or a colon, alone
or among others. -/
def lookalikes : List Nat := [
    0x2047, 0x2048, 0x2049, 0x2100, 0x2101, 0x2105, 0x2106, 0x2A74, 0xFE13, 0xFE16, 0xFE55, 0xFE56,
    0xFE5F, 0xFE6B, 0xFF03, 0xFF0F, 0xFF1A, 0xFF1F, 0xFF20]

/-- Looks at the text of a server when it is found. -/
def check (cs : List Char) : Except ServerFault Unit := do
  if cs.contains '[' != cs.contains ']' then throw .brackets
  if cs.contains '[' then checkBrackets cs
  if cs.any fun c => lookalikes.contains c.toNat then throw (.lookalike (String.ofList cs))

/-- The parts of a server's text. -/
def ofText (cs : List Char) : Server :=
  let (asker, place) := cutLast '@' cs
  let userParts := asker.map (cut ':')
  let (host, port) := match cut '[' place with
    | (_, some bracketed) =>
        let (host, after) := cut ']' bracketed
        (host, (cut ':' (after.getD [])).2)
    | (_, none) => cut ':' place
  { user := userParts.map (·.1)
    password := userParts.bind (·.2)
    host
    port := port.getD [] }

/-- The host in small letters, except for the zone of an address. -/
def plainHost (server : Server) : List Char :=
  let (host, zone) := cut '%' server.host
  (Text.lower (String.ofList host)).toList ++ (zone.map ('%' :: ·)).getD []

/-- The number of the port, zero if there is none. -/
def portNumber (server : Server) : Except ServerFault Nat := do
  if server.port.isEmpty then return 0
  let text := String.ofList server.port
  if !(server.port.all Char.isDigit) then throw (.port text)
  let number ← (Integer.ofText text).mapError .portNumber
  if 65535 < number then throw .portRange
  return number.toNat

/-- The server as it is asked for. -/
def written (server : Server) : Except ServerFault (List Char) := do
  let host ← (HostName.sent server.plainHost).mapError .name
  let port ← server.portNumber
  let host := if host.contains ':' then '[' :: host ++ [']'] else host
  let place := if port = 0 then host else host ++ ':' :: (toString port).toList
  match server.user with
  | none | some [] => return place
  | some user =>
      let password := match server.password with
        | none | some [] => []
        | some password => ':' :: password
      return user ++ password ++ '@' :: place

end Server

end PatchReview
