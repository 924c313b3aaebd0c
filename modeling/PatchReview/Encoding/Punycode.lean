/-!
Punycode: a name of any letters in letters of ASCII. The ASCII letters come first; each other one
is told by how far it is from the one before, in the order of code points and of places.
-/

namespace PatchReview.Punycode

/-- The letter of a digit below thirty-six. -/
def digit (d : Nat) : Char :=
  if d < 26 then Char.ofNat ('a'.toNat + d) else Char.ofNat ('0'.toNat + d - 26)

/-- The least digit at a place that is not the last one. -/
def threshold (place bias : Nat) : Nat :=
  if place ≤ bias then 1 else if bias + 26 ≤ place then 26 else place - bias

/-- Writes a distance with the least digits first, in no more digits than `steps`. -/
def writeDistance (bias : Nat) : Nat → Nat → Nat → List Char
  | 0, _, _ => []
  | steps + 1, place, distance =>
      let least := threshold place bias
      if distance < least then [digit distance]
      else
        let rest := distance - least
        digit (least + rest % (36 - least))
          :: writeDistance bias steps (place + 36) (rest / (36 - least))

/-- Scales a distance down to the range of the bias, with the places that takes. -/
def scaleDown : Nat → Nat → Nat → Nat × Nat
  | 0, distance, places => (distance, places)
  | steps + 1, distance, places =>
      if 455 < distance then scaleDown steps (distance / 35) (places + 36)
      else (distance, places)

/-- The bias after a distance, when so many letters are told. -/
def biasAfter (distance told : Nat) (isFirst : Bool) : Nat :=
  let halved := if isFirst then distance / 700 else distance / 2
  let (scaled, places) := scaleDown halved (halved + halved / told) 0
  places + 36 * scaled / (scaled + 38)

/-- What is told so far: the text, the distance since the last letter, the bias, and how many
letters there are. -/
structure Told where
  text : List Char
  distance : Nat
  bias : Nat
  count : Nat

/-- Passes a letter of the name when the letters of code point `current` are told. The first `basic`
letters needed no telling. -/
def Told.pass (basic current : Nat) (told : Told) (c : Char) : Told :=
  if c.toNat < current then { told with distance := told.distance + 1 }
  else if c.toNat = current then
    { text := told.text ++ writeDistance told.bias (told.distance + 1) 36 told.distance
      distance := 0
      bias := biasAfter told.distance (told.count + 1) (told.count == basic)
      count := told.count + 1 }
  else told

/-- Tells the letters of ascending code points, of which none is below `next`. -/
def tell (name : List Char) (basic : Nat) : List Nat → Nat → Told → Told
  | [], _, told => told
  | current :: rest, next, told =>
      let told := { told with distance := told.distance + (current - next) * (told.count + 1) }
      let told := name.foldl (Told.pass basic current) told
      tell name basic rest (current + 1) { told with distance := told.distance + 1 }

/-- Puts a number into an ascending list, unless it is there. -/
def insertDistinct (n : Nat) : List Nat → List Nat
  | [] => [n]
  | m :: rest =>
      if n < m then n :: m :: rest else if n = m then m :: rest else m :: insertDistinct n rest

/-- Writes a name. -/
def encode (name : List Char) : List Char :=
  let basic := name.filter (·.toNat < 0x80)
  let others := (name.filter (0x80 ≤ ·.toNat)).map Char.toNat
  let told := tell name basic.length (others.foldr insertDistinct []) 0x80
    ⟨[], 0, 72, basic.length⟩
  basic ++ (if basic.isEmpty then [] else ['-']) ++ told.text

end PatchReview.Punycode
