import PatchReview.Assoc
import PatchReview.Failure

/-!
Records that are filled in by name. A form lists its fields in order, those that may be left out
with the value they then have.
-/

namespace PatchReview

/-- The fields of a record and their defaults. -/
abbrev Form (α : Type) := List (String × Option α)

namespace Form

variable {α : Type}

/-- The value of each field in the form's order. Fields without a default have to be given. -/
def complete (given : List (String × α)) : Form α → Option (List (String × α))
  | [] => some []
  | (name, default) :: rest => do
      let value ← (Assoc.get? name given).or default
      let values ← complete given rest
      return (name, value) :: values

/-- Fills in a form. Names that the form does not have are refused. -/
def fill (form : Form α) (given : List (String × α)) : Except Failure (List (String × α)) :=
  if given.all fun entry => form.any (·.1 == entry.1) then
    match complete given form with
    | some values => .ok values
    | none => .error (.misuse .fields)
  else .error (.misuse .fields)

end Form

end PatchReview
