import Mathlib.Data.List.Forall2
import PatchReview.Schema.Rule

/-! When a check gives a result: when each of its parts does. -/

namespace PatchReview

variable {α β : Type}

/-- Two checks give a result when both do, by cases on them. -/
theorem Checked.and_eq_ok_iff {made : Checked (α → β)} {next : Checked α} {result : β}
    : made.and next = .ok result
      ↔ ∃ make value, made = .ok make ∧ next = .ok value ∧ make value = result := by
  cases made with
  | ok make => cases next <;> simp [Checked.and]
  | faulty errors => cases next <;> simp [Checked.and]

theorem Checked.map_eq_ok_iff {f : α → β} {checked : Checked α} {result : β}
    : checked.map f = .ok result ↔ ∃ value, checked = .ok value ∧ f value = result := by
  cases checked <;> simp [Checked.map]

/-- What is checked in order, up to the first fault, passes when each does, by induction on the items. -/
theorem Checked.inOrder_eq_ok_iff (check : α → Checked β) (inOrder : List α → Checked (List β))
    (nil : inOrder [] = .ok [])
    (cons : ∀ item rest, inOrder (item :: rest) = match check item with
      | .faulty errors => .faulty errors
      | .ok first => (inOrder rest).map (first :: ·))
    {items : List α} {values : List β}
    : inOrder items = .ok values ↔ List.Forall₂ (fun item value => check item = .ok value) items values := by
  induction items generalizing values with
  | nil =>
      rw [List.forall₂_nil_left_iff, nil, Checked.ok.injEq]
      exact eq_comm
  | cons item rest ih =>
      rw [List.forall₂_cons_left_iff, cons]
      cases check item with
      | faulty errors => simp
      | ok first =>
          simp only [Checked.map_eq_ok_iff, ih, Checked.ok.injEq]
          constructor
          · rintro ⟨others, later, rfl⟩
            exact ⟨first, others, rfl, later, rfl⟩
          · rintro ⟨_, others, rfl, later, rfl⟩
            exact ⟨others, later, rfl⟩

theorem Checked.within_eq_ok_iff {part : String} {checked : Checked α} {result : α}
    : checked.within part = .ok result ↔ checked = .ok result := by
  cases checked <;> simp [Checked.within]

/-- A further condition keeps the results that it holds of. -/
theorem Checked.ensure_eq_ok_iff {holds : α → Bool} {refusal : Refusal} {checked : Checked α} {result : α}
    : checked.ensure holds refusal = .ok result ↔ checked = .ok result ∧ holds result = true := by
  cases checked with
  | ok value =>
      rw [Checked.ensure, Checked.ok.injEq]
      by_cases fine : holds value = true
      · rw [if_pos fine, Checked.ok.injEq]
        exact ⟨fun same => ⟨same, same ▸ fine⟩, And.left⟩
      · simp only [fine, if_false, Checked.refuse, reduceCtorEq, false_iff, not_and, Bool.false_eq_true]
        rintro rfl
        exact fine
  | faulty errors => simp [Checked.ensure]

/-- A field that has to be there passes when it is and its value does. -/
theorem Rule.required_eq_ok_iff {fields : Json.Fields} {name : String} {rule : Rule α} {result : α}
    : Rule.required fields name rule = .ok result
      ↔ ∃ value, Assoc.get? name fields = some value ∧ rule value = .ok result := by
  unfold Rule.required
  cases Assoc.get? name fields with
  | none => simp [Checked.refuse, Checked.within]
  | some value => simp [Checked.within_eq_ok_iff]

/-- A field that may be left out has its default, or a value that passes. -/
theorem Rule.cases_of_withDefault {fields : Json.Fields} {name : String} {default : α} {rule : Rule α}
    {result : α} (read : Rule.withDefault fields name default rule = .ok result)
    : result = default ∨ ∃ value, rule value = .ok result := by
  unfold Rule.withDefault at read
  cases given : Assoc.get? name fields with
  | none =>
      rw [given] at read
      exact Or.inl (Checked.ok.inj read).symm
  | some value =>
      rw [given] at read
      exact Or.inr ⟨value, Checked.within_eq_ok_iff.mp read⟩

theorem Rule.object_eq_ok_iff {name : String} {read : Json.Fields → Checked α} {value : Json} {result : α}
    : Rule.object name read value = .ok result
      ↔ ∃ fields, value = .obj fields ∧ read fields = .ok result := by
  cases value <;> simp [Rule.object, Checked.refuse]

theorem Rule.text_eq_ok_iff {value : Json} {text : String}
    : Rule.text value = .ok text ↔ value = .str text := by
  cases value <;> simp [Rule.text, Checked.refuse]

/-- Items are read when each is, by induction on the items. -/
theorem Rule.itemsFrom_eq_ok_iff {rule : Rule α} {index : Nat} {items : List Json} {values : List α}
    : Rule.itemsFrom rule index items = .ok values
      ↔ List.Forall₂ (fun item value => rule item = .ok value) items values := by
  induction items generalizing index values with
  | nil =>
      rw [List.forall₂_nil_left_iff, Rule.itemsFrom, Checked.ok.injEq]
      exact eq_comm
  | cons item rest ih =>
      rw [List.forall₂_cons_left_iff, Rule.itemsFrom, Checked.and_eq_ok_iff]
      simp only [Checked.map_eq_ok_iff, Checked.within_eq_ok_iff, ih]
      constructor
      · rintro ⟨_, others, ⟨value, here, rfl⟩, later, rfl⟩
        exact ⟨value, others, here, later, rfl⟩
      · rintro ⟨value, others, here, later, rfl⟩
        exact ⟨_, others, ⟨value, here, rfl⟩, later, rfl⟩

/-- A relation leads from all items of a list to items of another when it does from each, by induction. -/
theorem exists_forall₂_iff {relates : α → β → Prop} {items : List α}
    : (∃ values, List.Forall₂ relates items values) ↔ ∀ item ∈ items, ∃ value, relates item value := by
  induction items with
  | nil => simp
  | cons item rest ih =>
      rw [List.forall_mem_cons, ← ih]
      constructor
      · rintro ⟨_, _ | ⟨here, later⟩⟩
        exact ⟨⟨_, here⟩, _, later⟩
      · rintro ⟨⟨value, here⟩, values, later⟩
        exact ⟨value :: values, .cons here later⟩

end PatchReview
