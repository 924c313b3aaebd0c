import PatchReview.Failure

/-!
Parts of JSON values that may be of any kind. Asking a value for a part that its kind does not
have is a misuse; a missing entry of an object is a failure of its own.
-/

namespace PatchReview.Json

/-- The entry of an object that has to be there. -/
def entry (key : String) : Json → Except Failure Json
  | .obj fields =>
      match Assoc.get? key fields with
      | some value => .ok value
      | none => .error (.missing key)
  | .arr _ => .error (.misuse .namedItem)
  | .str _ => .error (.misuse .namedCharacter)
  | value => .error (.misuse (.parts value.kind))

/-- The fields of an object, for an operation that only objects have. -/
def fieldsFor (operation : String) : Json → Except Failure Fields
  | .obj fields => .ok fields
  | value => .error (.misuse (.operation value.kind operation))

/-- The text of a string, for an operation that only strings have. -/
def textFor (operation : String) : Json → Except Failure String
  | .str s => .ok s
  | value => .error (.misuse (.operation value.kind operation))

/-- The items of a value: of a list, the keys of an object, the characters of a text. -/
def items : Json → Except Failure (List Json)
  | .arr xs => .ok xs
  | .obj fields => .ok (fields.map fun field => .str field.1)
  | .str s => .ok (s.toList.map fun c => .str (String.ofList [c]))
  | value => .error (.misuse (.items value.kind))

/-- Whether a value is of a kind that can be a key. -/
def checkKey : Json → Except Failure Unit
  | .arr _ => .error (.misuse (.key "list"))
  | .obj _ => .error (.misuse (.key "dict"))
  | _ => .ok ()

/-- The two parts of a value. -/
def pair (value : Json) : Except Failure (Json × Json) := do
  match ← value.items with
  | [first, second] => return (first, second)
  | parts => throw (.parts 2 parts.length)

/-- The entries that a list of pairs gives. Of entries with one key the last counts. -/
def pairs (value : Json) : Except Failure (List (Json × Json)) := do
  let entries ← (← value.items).mapM fun item => do
    let (key, part) ← item.pair
    key.checkKey
    return (key, part)
  return Assoc.ofList entries

/-- The entry of an object, or a default. -/
def getD (fields : Fields) (key : String) (default : Json) : Json :=
  (Assoc.get? key fields).getD default

/-- Compares with a whole number, for which the value has to be a number. What is not a number
compares with nothing. -/
def compareTo (bound : Int) : Json → Except Failure (Option Ordering)
  | .int n => .ok (some (compare n bound))
  | .bool b => .ok (some (compare (if b then 1 else 0) bound))
  | .float x => .ok (x.compareInt? bound)
  | value => .error (.misuse (.order value.kind "int"))

/-- Whether a number is at most a bound. -/
def isAtMost (bound : Int) (value : Json) : Except Failure Bool := do
  let order ← value.compareTo bound
  return order = some .lt || order = some .eq

/-- Whether a number is below a bound. -/
def isBelow (bound : Int) (value : Json) : Except Failure Bool := do
  let order ← value.compareTo bound
  return order = some .lt

end PatchReview.Json
