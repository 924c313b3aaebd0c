import PatchReview.Assoc
import PatchReview.Number.DecimalText

/-!
JSON values. Objects keep the order in which their keys were first written, whole numbers have any
size, and numbers with a point or an exponent are doubles.
-/

namespace PatchReview

/-- A JSON value. -/
inductive Json where
  | null
  | bool (b : Bool)
  | int (n : Int)
  | float (x : Binary64)
  | str (s : String)
  | arr (items : List Json)
  | obj (fields : List (String × Json))
  deriving Inhabited

namespace Json

/-- An object of settings: keys in order with their values. -/
abbrev Fields := List (String × Json)

/-- Values that stand for nothing: null, false, zero and all that is empty. -/
def isTruthy : Json → Bool
  | .null => false
  | .bool b => b
  | .int n => n != 0
  | .float x => !x.isZero
  | .str s => !s.isEmpty
  | .arr items => !items.isEmpty
  | .obj fields => !fields.isEmpty

/-- The name of a value's kind, as messages give it. -/
def kind : Json → String
  | .null => "NoneType"
  | .bool _ => "bool"
  | .int _ => "int"
  | .float _ => "float"
  | .str _ => "str"
  | .arr _ => "list"
  | .obj _ => "dict"

/-- The whole number a value counts as. The truth values count as one and zero. -/
def whole? : Json → Option Int
  | .int n => some n
  | .bool b => some (if b then 1 else 0)
  | _ => none

/-- The text of a string. -/
def str? : Json → Option String
  | .str s => some s
  | _ => none

/-- A value that may not be there: null when it is not. -/
def ofOption {α : Type} (toJson : α → Json) : Option α → Json
  | some value => toJson value
  | none => .null

/-- The entry of an object, and nothing of other values. -/
def field? (key : String) : Json → Option Json
  | .obj fields => Assoc.get? key fields
  | _ => none

/-- The value of a number. -/
inductive Quantity where
  | whole (n : Int)
  | double (x : Binary64)

/-- The number a value is. -/
def quantity? : Json → Option Quantity
  | .int n => some (.whole n)
  | .bool b => some (.whole (if b then 1 else 0))
  | .float x => some (.double x)
  | _ => none

/-- Numbers agree when their values do, whatever their kinds. -/
def Quantity.same : Quantity → Quantity → Bool
  | .whole m, .whole n => m == n
  | .double x, .double y => x.same y
  | .whole n, .double x | .double x, .whole n => x.compareInt? n == some .eq

mutual

/-- Equal values: numbers by value, objects whatever the order of their keys. -/
def same : Json → Json → Bool
  | .null, .null => true
  | .str s, .str t => s == t
  | .arr xs, .arr ys => sameItems xs ys
  | .obj xs, .obj ys => xs.length == ys.length && sameFields xs ys
  | .bool b, y => sameQuantity (.whole (if b then 1 else 0)) y
  | .int n, y => sameQuantity (.whole n) y
  | .float x, y => sameQuantity (.double x) y
  | _, _ => false

/-- Equal item by item. -/
def sameItems : List Json → List Json → Bool
  | [], [] => true
  | x :: xs, y :: ys => same x y && sameItems xs ys
  | _, _ => false

/-- Every field is in the other object with an equal value. -/
def sameFields : List (String × Json) → List (String × Json) → Bool
  | [], _ => true
  | (key, x) :: xs, ys =>
      (match Assoc.get? key ys with
        | some y => same x y
        | none => false) && sameFields xs ys

/-- A number's value against any value. -/
def sameQuantity (q : Quantity) (y : Json) : Bool :=
  match y.quantity? with
  | some r => q.same r
  | none => false

end

instance : BEq Json := ⟨same⟩

mutual

/-- A value as messages show it inside other values: strings in quotes. -/
def shown : Json → String
  | .null => "None"
  | .bool b => if b then "True" else "False"
  | .int n => toString n
  | .float x => x.text Binary64.plainSpecials
  | .str s => Text.quoted s
  | .arr items => "[" ++ ", ".intercalate (shownItems items) ++ "]"
  | .obj fields => "\x7b" ++ ", ".intercalate (shownFields fields) ++ "\x7d"

/-- Items as messages show them. -/
def shownItems : List Json → List String
  | [] => []
  | x :: xs => shown x :: shownItems xs

/-- Fields as messages show them. -/
def shownFields : List (String × Json) → List String
  | [] => []
  | (key, x) :: xs => (Text.quoted key ++ ": " ++ shown x) :: shownFields xs

end

/-- A value within the text of a message: a string is its own text. -/
def display : Json → String
  | .str s => s
  | v => v.shown

end Json

end PatchReview
