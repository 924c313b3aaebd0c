import PatchReview.Json.Basic

/-!
Numbers of lines and positions as they are given. A truth value counts as one or zero and is shown
again as it came.
-/

namespace PatchReview

/-- The number of a line or a position: a number, or a truth value. -/
inductive Ordinal where
  | number (n : Int)
  | truth (b : Bool)
  deriving DecidableEq, Repr

namespace Ordinal

/-- The number meant. -/
def value : Ordinal → Int
  | number n => n
  | truth b => if b then 1 else 0

/-- The number that a value gives, if it is one. -/
def ofJson? : Json → Option Ordinal
  | .int n => some (number n)
  | .bool b => some (truth b)
  | _ => none

/-- The value a number came as. -/
def toJson : Ordinal → Json
  | number n => .int n
  | truth b => .bool b

end Ordinal

end PatchReview
