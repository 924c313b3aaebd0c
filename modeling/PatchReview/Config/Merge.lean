import PatchReview.Json.Access
import PatchReview.Json.Printer

/-!
Merging configurations. What the second one says wins; objects on both sides are merged in turn.
-/

namespace PatchReview.Config

mutual

/-- Writes fields over those of an object. Known keys keep their place and new ones follow. -/
def merge (base : Json.Fields) : List (String × Json) → Json.Fields
  | [] => base
  | (key, value) :: rest => merge (Assoc.set key (mergeValue (Assoc.get? key base) value) base) rest

/-- Writes a value over one that may be there. -/
def mergeValue (old : Option Json) : Json → Json
  | .obj fields =>
      match old with
      | some (.obj base) => .obj (merge base fields)
      | _ => .obj fields
  | value => value

end

/-- Entries whose keys are scalars of any kind. -/
abbrev Table := List (Json × Json)

namespace Table

/-- The entry that an item of two parts gives. -/
def entry (index : Nat) (item : Json) : Except Failure (Json × Json) := do
  match ← item.items with
  | [key, value] =>
      key.checkKey
      return (key, value)
  | parts => throw (.entry index parts.length)

/-- The entries of a document: its fields, or its items if each of them has two parts. -/
def ofDocument : Json → Except Failure Table
  | .obj fields => .ok (fields.map fun (key, value) => (.str key, value))
  | document => do
      let items ← document.items
      return Assoc.ofList (← items.zipIdx.mapM fun (item, index) => entry index item)

/-- Writes fields over the entries. -/
def merge (table : Table) (fields : Json.Fields) : Table :=
  fields.foldl (fun table (key, value) =>
    Assoc.set (.str key) (mergeValue (Assoc.get? (.str key) table) value) table) table

/-- The text of a key. -/
def keyText : Json → String
  | .str text => text
  | key => key.print

/-- The object of the entries. -/
def toJson (table : Table) : Json :=
  .obj (table.map fun (key, value) => (keyText key, value))

end Table

/-- Writes documents over a first one, one after the other. All but the first have to be objects. -/
def mergeDocuments (first : Json) : List Json → Except Failure Json
  | [] => .ok first
  | rest => do
      let table ← Table.ofDocument first
      let merged ← rest.foldlM (fun (table : Table) document => do
        return table.merge (← document.fieldsFor "items")) table
      return merged.toJson

end PatchReview.Config
