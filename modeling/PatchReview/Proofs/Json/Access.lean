import PatchReview.Json.Access

/-! When a part of a JSON value is there. -/

namespace PatchReview.Json

/-- An entry that is there is what is found under its key. -/
theorem getD_of_some {fields : Fields} {key : String} {value default : Json}
    (found : Assoc.get? key fields = some value)
    : getD fields key default = value := by
  rw [getD, found, Option.getD_some]

/-- An entry that is not there has the default. -/
theorem getD_of_none {fields : Fields} {key : String} {default : Json}
    (absent : Assoc.get? key fields = none)
    : getD fields key default = default := by
  rw [getD, absent, Option.getD_none]

/-- Only objects have entries. -/
theorem entry_eq_ok_iff {key : String} {value part : Json}
    : value.entry key = .ok part
      ↔ ∃ fields, value = .obj fields ∧ Assoc.get? key fields = some part := by
  cases value with
  | obj fields => cases found : Assoc.get? key fields <;> simp [entry, found]
  | null | bool | int | float | str | arr => simp [entry]

/-- Only objects have fields. -/
theorem fieldsFor_eq_ok_iff {operation : String} {value : Json} {fields : Fields}
    : value.fieldsFor operation = .ok fields ↔ value = .obj fields := by
  cases value <;> simp [fieldsFor]

/-- Only strings are texts. -/
theorem textFor_eq_ok_iff {operation : String} {value : Json} {text : String}
    : value.textFor operation = .ok text ↔ value = .str text := by
  cases value <;> simp [textFor]

/-- Only lists have objects among their items. -/
theorem eq_arr_of_items {value : Json} {items : List Json} {fields : Fields}
    (given : value.items = .ok items) (member : .obj fields ∈ items)
    : value = .arr items := by
  cases value with
  | arr parts =>
      cases given
      rfl
  | obj parts =>
      cases given
      simp at member
  | str text =>
      cases given
      simp at member
  | null | bool | int | float => cases given

end PatchReview.Json
