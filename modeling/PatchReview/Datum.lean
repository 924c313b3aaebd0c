import PatchReview.Calendar
import PatchReview.Json.Printer
import PatchReview.Text.Quoted

/-!
Values of configuration documents. Beyond those of JSON there are dates, bytes and sets, and the
keys of a mapping are scalars of any kind.
-/

namespace PatchReview

open PatchReview.Text

/-- A value without parts. -/
inductive Scalar where
  | null
  | bool (b : Bool)
  | int (n : Int)
  | float (x : Binary64)
  | str (s : String)
  | date (d : Calendar.Date)
  | moment (m : Calendar.Moment)
  | bytes (bs : List UInt8)
  deriving DecidableEq

namespace Scalar

/-- The number a scalar is. -/
def quantity? : Scalar → Option Json.Quantity
  | .bool b => some (.whole (if b then 1 else 0))
  | .int n => some (.whole n)
  | .float x => some (.double x)
  | _ => none

/-- Same key: numbers by value, moments by the time they mean, all else as it is. -/
def same (a b : Scalar) : Bool :=
  match a.quantity?, b.quantity? with
  | some p, some q => p.same q
  | none, none =>
      match a, b with
      | .moment m, .moment n => m.same n
      | _, _ => a = b
  | _, _ => false

instance : BEq Scalar := ⟨same⟩

/-- The name of a scalar's kind. -/
def kind : Scalar → String
  | .null => "NoneType"
  | .bool _ => "bool"
  | .int _ => "int"
  | .float _ => "float"
  | .str _ => "str"
  | .date _ => "date"
  | .moment _ => "datetime"
  | .bytes _ => "bytes"

/-- Scalars that stand for nothing are not truthy. -/
def isTruthy : Scalar → Bool
  | .null => false
  | .bool b => b
  | .int n => n != 0
  | .float x => !x.isZero
  | .str s => !s.isEmpty
  | .bytes bs => !bs.isEmpty
  | .date _ | .moment _ => true

/-- One byte inside quotes. -/
def quoteByte (mark : Char) (b : UInt8) : List Char :=
  let c := Char.ofNat b.toNat
  if c == mark || c == '\\' then ['\\', c]
  else if c == '\t' then ['\\', 't']
  else if c == '\n' then ['\\', 'n']
  else if c == '\r' then ['\\', 'r']
  else if 0x20 ≤ b.toNat ∧ b.toNat < 0x7F then [c]
  else '\\' :: 'x' :: hexText 2 b.toNat

/-- Bytes in quotes. -/
def quotedBytes (bs : List UInt8) : String :=
  let mark := quoteMark (bs.map fun b => Char.ofNat b.toNat)
  String.ofList ('b' :: mark :: bs.flatMap (quoteByte mark) ++ [mark])

/-- The numbers of a date as messages list them. -/
def dateNumbers (d : Calendar.Date) : String :=
  toString d.year ++ ", " ++ toString d.month ++ ", " ++ toString d.day

/-- The offset of a moment as messages show it. -/
def offsetShown : Option Int → String
  | none => ""
  | some 0 => ", tzinfo=datetime.timezone.utc"
  | some seconds =>
      ", tzinfo=datetime.timezone(" ++ Calendar.offsetText seconds ++ ")"

/-- A scalar as messages show it inside other values. -/
def shown : Scalar → String
  | .null => "None"
  | .bool b => if b then "True" else "False"
  | .int n => toString n
  | .float x => x.text Binary64.plainSpecials
  | .str s => quoted s
  | .bytes bs => quotedBytes bs
  | .date d => "datetime.date(" ++ dateNumbers d ++ ")"
  | .moment m =>
      let time := if m.microsecond = 0 then
          (if m.second = 0 then "" else ", " ++ toString m.second)
        else ", " ++ toString m.second ++ ", " ++ toString m.microsecond
      "datetime.datetime(" ++ dateNumbers m.date ++ ", " ++ toString m.hour ++ ", "
        ++ toString m.minute ++ time ++ offsetShown m.offset ++ ")"

/-- A scalar within the text of a message, or as the text of a key. -/
def display : Scalar → String
  | .str s => s
  | .date d => d.text
  | .moment m => m.text " "
  | v => v.shown

/-- A scalar as the name of a field in JSON. -/
def fieldName : Scalar → String
  | .null => "null"
  | .bool b => if b then "true" else "false"
  | .float x => x.text Json.specials
  | v => v.display

end Scalar

/-- A value of a configuration document. -/
inductive Datum where
  | scalar (s : Scalar)
  | seq (items : List Datum)
  | map (entries : List (Scalar × Datum))
  | set (elements : List Scalar)
  /-- A collection inside itself, of which only the kind is told: a mapping or a list. -/
  | again (isMapping : Bool)
  deriving Inhabited

namespace Datum

/-- A mapping's entries in order. -/
abbrev Entries := List (Scalar × Datum)

/-- A text. -/
def text (s : String) : Datum := .scalar (.str s)

/-- A whole number. -/
def whole (n : Int) : Datum := .scalar (.int n)

/-- Nothing. -/
def null : Datum := .scalar .null

mutual

/-- The datum of a JSON value. -/
def ofJson : Json → Datum
  | .null => .scalar .null
  | .bool b => .scalar (.bool b)
  | .int n => .scalar (.int n)
  | .float x => .scalar (.float x)
  | .str s => .scalar (.str s)
  | .arr items => .seq (ofItems items)
  | .obj fields => .map (ofFields fields)

/-- The data of items. -/
def ofItems : List Json → List Datum
  | [] => []
  | x :: xs => ofJson x :: ofItems xs

/-- The entries of fields. -/
def ofFields : List (String × Json) → Entries
  | [] => []
  | (key, x) :: xs => (.str key, ofJson x) :: ofFields xs

end

mutual

/-- The JSON value of a datum. What JSON has no kind for is its text, and a key is one always. -/
def toJson : Datum → Json
  | .scalar .null => .null
  | .scalar (.bool b) => .bool b
  | .scalar (.int n) => .int n
  | .scalar (.float x) => .float x
  | .scalar s => .str s.display
  | .seq items => .arr (toItems items)
  | .map entries => .obj (toFields entries)
  | .set elements => .arr (elements.map fun s => .str s.display)
  | .again _ => .null

/-- The values of items. -/
def toItems : List Datum → List Json
  | [] => []
  | x :: xs => toJson x :: toItems xs

/-- The fields of entries. -/
def toFields : List (Scalar × Datum) → Json.Fields
  | [] => []
  | (key, x) :: xs => (key.fieldName, toJson x) :: toFields xs

end

/-- The name of a value's kind. -/
def kind : Datum → String
  | .scalar s => s.kind
  | .seq _ => "list"
  | .map _ => "dict"
  | .set _ => "set"
  | .again isMapping => if isMapping then "dict" else "list"

/-- Values that stand for nothing are not truthy. -/
def isTruthy : Datum → Bool
  | .scalar s => s.isTruthy
  | .seq items => !items.isEmpty
  | .map entries => !entries.isEmpty
  | .set elements => !elements.isEmpty
  | .again _ => true

mutual

/-- Whether a value has a collection in it that is a part of itself. -/
def isEndless : Datum → Bool
  | .seq items => anyEndless items
  | .map entries => anyEntryEndless entries
  | .again _ => true
  | _ => false

/-- Whether one of some items is endless. -/
def anyEndless : List Datum → Bool
  | [] => false
  | x :: xs => isEndless x || anyEndless xs

/-- Whether one of some entries is endless. -/
def anyEntryEndless : List (Scalar × Datum) → Bool
  | [] => false
  | (_, x) :: xs => isEndless x || anyEntryEndless xs

end

mutual

/-- A value as messages show it inside other values. -/
def shown : Datum → String
  | .scalar s => s.shown
  | .seq items => "[" ++ ", ".intercalate (shownItems items) ++ "]"
  | .map entries => "\x7b" ++ ", ".intercalate (shownEntries entries) ++ "\x7d"
  | .set elements =>
      if elements.isEmpty then "set()"
      else "\x7b" ++ ", ".intercalate (elements.map Scalar.shown) ++ "\x7d"
  | .again isMapping => if isMapping then "\x7b...\x7d" else "[...]"

/-- Items as messages show them. -/
def shownItems : List Datum → List String
  | [] => []
  | x :: xs => shown x :: shownItems xs

/-- Entries as messages show them. -/
def shownEntries : List (Scalar × Datum) → List String
  | [] => []
  | (key, x) :: xs => (key.shown ++ ": " ++ shown x) :: shownEntries xs

end

/-- A value within the text of a message. -/
def display : Datum → String
  | .scalar s => s.display
  | v => v.shown

end Datum

end PatchReview
