import PatchReview.Encoding.Punycode
import PatchReview.Text.HostLetter
import PatchReview.Text.Lines
import PatchReview.Text.Quoted

/-!
Names of hosts. A name has parts between points, and each part is sent in letters of ASCII. A part
with other letters is spelled plainly, its letters are looked at, and it is sent as Punycode behind
a mark.
-/

namespace PatchReview

/-- Why a name is none that a host can have. -/
inductive NameFault where
  /-- A part that is empty or too long. -/
  | label
  /-- A last part that is too long. -/
  | lastLabel
  /-- A part that has the mark of Punycode already. -/
  | marked
  | banned (c : Char)
  /-- Letters of both directions in one part. -/
  | directions
  /-- A part in letters from right to left that does not start and end with one of them. -/
  | edges
  deriving DecidableEq, Repr

/-- What a message says of the fault. -/
def NameFault.message : NameFault → String
  | .label => "label empty or too long"
  | .lastLabel => "label too long"
  | .marked => "Label starts with ACE prefix"
  | .banned c => "Invalid character " ++ Text.quoted (String.singleton c)
  | .directions => "Violation of BIDI requirement 2"
  | .edges => "Violation of BIDI requirement 3"

namespace HostName

/-- The parts of a name between the characters that separate them. -/
def labels (separates : Char → Bool) : List Char → List (List Char)
  | [] => [[]]
  | c :: rest =>
      if separates c then [] :: labels separates rest
      else match labels separates rest with
        | label :: more => (c :: label) :: more
        | [] => [[c]]

/-- Letters of ASCII. -/
def isPlain (c : Char) : Bool := c.toNat < 0x80

/-- The points between the parts of a name. -/
def isPoint (c : Char) : Bool := [0x2E, 0x3002, 0xFF0E, 0xFF61].contains c.toNat

/-- The most letters that a part has. -/
def labelLimit : Nat := 63

/-- The mark of a part that is Punycode. -/
def mark : List Char := "xn--".toList

/-- A part in plain spelling: what counts for nothing is left out. -/
def spelled (label : List Char) : List Char :=
  (label.filter (!Text.silentLetters.contains ·)).flatMap fun c =>
    if isPlain c then [c] else (Text.asciiSpelling? c).getD [c]

/-- Looks at the directions of letters. With one letter from right to left there is none of the
other direction, and the first and the last are such letters. A sign on the last is not. -/
def checkDirections (label : List Char) : Except NameFault Unit :=
  let isLeftward := Text.leftwardLetters.contains
  let isLast := fun c => isLeftward c && !Text.signedLetters.contains c
  if !label.any isLeftward then .ok ()
  else if label.any Text.rightwardLetters.contains then .error .directions
  else if label.head?.all isLeftward && label.getLast?.all isLast then .ok ()
  else .error .edges

/-- A part that is not too long. -/
def measured (label : List Char) : Except NameFault (List Char) :=
  if label.isEmpty || labelLimit < label.length then .error .label else .ok label

/-- A part as it is sent. -/
def sentLabel (label : List Char) : Except NameFault (List Char) := do
  if label.all isPlain then measured label
  else
    let label := spelled label
    if let some c := label.find? Text.bannedLetters.contains then throw (.banned c)
    checkDirections label
    if label.all isPlain then measured label
    else if Text.startsWith mark label then throw .marked
    else measured (mark ++ Punycode.encode label)

/-- Parts with points between them. -/
def joined : List (List Char) → List Char
  | [] => []
  | [label] => label
  | label :: rest => label ++ '.' :: joined rest

/-- A name as it is sent. One more point may end it. -/
def sent (name : List Char) : Except NameFault (List Char) := do
  if name.all isPlain then
    let labels := labels (· == '.') name
    labels.dropLast.forM fun label => discard (measured label)
    if labels.getLast?.any (labelLimit < ·.length) then throw .lastLabel
    return name
  else
    let labels := labels isPoint name
    let last := labels.getLast?.getD []
    let sent ← (if last.isEmpty then labels.dropLast else labels).mapM sentLabel
    return joined (if last.isEmpty then sent ++ [[]] else sent)

end HostName

end PatchReview
