import PatchReview.Form
import PatchReview.Json.Access
import PatchReview.Ordinal

/-!
Chunks of a patch: one run of changed lines with its place in the old and the new file. A chunk
knows for each line it adds the position of that line in the patch.
-/

namespace PatchReview

/-- A chunk of a patch. Its positions are keyed by the lines of the new file, and no line occurs
twice among them. A chunk that is given as plain values may have positions under other keys, which
are no lines. -/
structure Chunk where
  oldStart : Nat
  oldLines : Nat
  newStart : Nat
  newLines : Nat
  content : String
  positions : List (Int × Ordinal)
  others : List (Json × Ordinal) := []

namespace Chunk

/-- A chunk from numbers that may be out of range. Of positions for one line the last counts. -/
def ofNumbers (oldStart oldLines newStart newLines : Int) (content : String)
    (positions : List (Int × Ordinal)) (others : List (Json × Ordinal)) : Except Refusal Chunk :=
  if oldStart < 0 ∨ newStart < 0 then .error .lineNumber
  else if oldLines < 0 ∨ newLines < 0 then .error .lineCount
  else if positions.any (·.2.value ≤ 0) || others.any (·.2.value ≤ 0) then .error .patchPosition
  else .ok {
    oldStart := oldStart.toNat, oldLines := oldLines.toNat, newStart := newStart.toNat
    newLines := newLines.toNat, content, positions, others }

/-- Puts a number into an ascending list. -/
def insertAscending (n : Int) : List Int → List Int
  | [] => [n]
  | m :: rest => if n ≤ m then n :: m :: rest else m :: insertAscending n rest

/-- The lines a chunk adds, in ascending order. -/
def changedLines (chunk : Chunk) : List Int :=
  (Assoc.keys chunk.positions).foldr insertAscending []

/-- The fields of a chunk. -/
def form : Form Json :=
  [("old_start", none), ("old_lines", none), ("new_start", none), ("new_lines", none),
    ("content", some (.str "")), ("line_positions", some (.arr []))]

/-- Whether one of two numbers is negative. The second is looked at when the first is not. -/
def eitherNegative (a b : Json) : Except Failure Bool := do
  if ← a.isBelow 0 then return true
  b.isBelow 0

/-- The positions among fields, which are pairs of a line and its position. -/
def positionsOf (given : Json.Fields) : Except Failure (List (Json × Json)) :=
  (Json.getD given "line_positions" (.arr [])).pairs

/-- Whether a position is not positive. The first that is not ends the search. -/
def anyNonPositive : List (Json × Json) → Except Failure Bool
  | [] => .ok false
  | (_, position) :: rest => do
      if ← position.isAtMost 0 then return true
      anyNonPositive rest

/-- A chunk given as plain values. Truth values count as one and zero. -/
def ofFields (given : Json.Fields) : Except Failure Chunk := do
  let pairs ← positionsOf given
  let fields ← form.fill given
  let get := fun name => Json.getD fields name .null
  if ← eitherNegative (get "old_start") (get "new_start") then throw (.refused .lineNumber)
  if ← eitherNegative (get "old_lines") (get "new_lines") then throw (.refused .lineCount)
  if ← anyNonPositive pairs then throw (.refused .patchPosition)
  let positions := pairs.filterMap fun (key, position) => do
    return (← key.whole?, ← Ordinal.ofJson? position)
  let others := pairs.filterMap fun (key, position) => do
    if key.whole?.isSome then none else return (key, ← Ordinal.ofJson? position)
  let number := fun name => ((get name).whole?).getD 0
  (ofNumbers (number "old_start") (number "old_lines") (number "new_start") (number "new_lines")
    ((get "content").str?.getD "") positions others).mapError .refused

/-- Keys in ascending order. Several keys have to be all numbers or all texts. -/
def sortedKeys (keys : List Json) : Except Failure (List Json) :=
  match keys with
  | [] | [_] => .ok keys
  | first :: second :: _ =>
      if keys.all (·.whole?.isSome) then
        .ok (keys.mergeSort fun a b => a.whole?.getD 0 ≤ b.whole?.getD 0)
      else if keys.all (·.str?.isSome) then
        .ok (keys.mergeSort fun a b => a.display ≤ b.display)
      else .error (.misuse (.order second.kind first.kind))

/-- A chunk given as plain values, as JSON with those values in it. -/
def echo (given : Json.Fields) : Except Failure Json := do
  let pairs ← positionsOf given
  let fields ← form.fill given
  return .obj (Assoc.setAll fields [
    ("line_positions", .arr (pairs.map fun (line, position) => .arr [line, position])),
    ("changed_line_numbers", .arr (← sortedKeys (Assoc.keys pairs)))])

/-- A chunk as JSON. -/
def toJson (chunk : Chunk) : Json := .obj [
  ("old_start", .int chunk.oldStart), ("old_lines", .int chunk.oldLines),
  ("new_start", .int chunk.newStart), ("new_lines", .int chunk.newLines),
  ("content", .str chunk.content),
  ("line_positions", .arr (chunk.positions.map fun (line, position) =>
    .arr [.int line, position.toJson])),
  ("changed_line_numbers", .arr (chunk.changedLines.map .int))]

end Chunk

end PatchReview
