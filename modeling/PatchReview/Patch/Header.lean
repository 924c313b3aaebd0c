import PatchReview.Number.Integer

/-!
Chunk headers: lines such as `@@ -1,2 +3,4 @@ heading`. Counts may be left out, and blanks may
stand between the parts or not.
-/

namespace PatchReview.Patch

open PatchReview.Text

/-- The digits that a chunk header spells, the most significant first. -/
structure Header where
  oldStart : List Nat
  oldLines : Option (List Nat)
  newStart : List Nat
  newLines : Option (List Nat)
  deriving DecidableEq, Repr

namespace Header

/-- Drops a character that has to come next. -/
def expect? (c : Char) : List Char → Option (List Char)
  | [] => none
  | d :: rest => if d = c then some rest else none

/-- At least one digit. -/
def takeNumber? (cs : List Char) : Option (List Nat × List Char) :=
  match cs.takeWhile isDigit with
  | [] => none
  | digits => some (digits.filterMap digitValue?, cs.dropWhile isDigit)

/-- A comma and a number, if the text goes on so. -/
def takeCount (cs : List Char) : Option (List Nat) × List Char :=
  match cs with
  | ',' :: rest =>
      match takeNumber? rest with
      | some (digits, after) => (some digits, after)
      | none => (none, cs)
  | _ => (none, cs)

/-- The header a line is, if it is one. Anything may follow the closing mark. -/
def ofLine? (line : List Char) : Option Header := do
  let cs ← expect? '@' line
  let cs ← expect? '@' cs
  let cs ← expect? '-' (trimLeft cs)
  let (oldStart, cs) ← takeNumber? cs
  let (oldLines, cs) := takeCount cs
  let cs ← expect? '+' (trimLeft cs)
  let (newStart, cs) ← takeNumber? cs
  let (newLines, cs) := takeCount cs
  let cs ← expect? '@' (trimLeft cs)
  let _ ← expect? '@' cs
  return ⟨oldStart, oldLines, newStart, newLines⟩

/-- The number that digits spell, within the digit limit. -/
def numberOf (digits : List Nat) : Except Integer.Fault Nat :=
  if digits.length > Integer.maxDigits then .error (.tooLong digits.length)
  else .ok (digitsValue digits)

/-- A count that is left out is one. -/
def countOf : Option (List Nat) → Except Integer.Fault Nat
  | none => .ok 1
  | some digits => numberOf digits

end Header

end PatchReview.Patch
