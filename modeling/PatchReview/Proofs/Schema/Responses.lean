import PatchReview.Proofs.Linter.Reviews
import PatchReview.Proofs.Schema.Checks
import PatchReview.Schema.Response

/-! Which reviews can be answered. Of a sound review the names, the lines and the positions always pass the
checks, so that it can be answered exactly when all its messages are texts.
-/

namespace PatchReview

-----------------------------------------------------------------------------------------
-- Violations
-----------------------------------------------------------------------------------------

/-- The lines and positions that are numbered from one on pass their check. -/
theorem ViolationResponse.positive_toJson {ordinal : Ordinal} (counts : 0 < ordinal.value)
    : positive ordinal.toJson = .ok ordinal.value := by
  have read : Rule.whole ordinal.toJson = .ok ordinal.value := by
    cases ordinal <;> rfl
  exact Checked.ensure_eq_ok_iff.mpr ⟨read, by simpa using counts⟩

/-- A violation says texts when all its messages are texts. -/
def Violation.IsTextual (violation : Violation) : Prop :=
  ∀ message ∈ violation.messages, ∃ text, message = .str text

/-- A review says texts when all its violations do. -/
def FileReview.IsTextual (review : FileReview) : Prop :=
  ∀ violation ∈ review.violations, violation.IsTextual

/-- A violation in a file that is named by a text can be answered when it says texts. -/
theorem ViolationResponse.exists_ofViolation_iff {violation : Violation} {filename : String}
    (stands : violation.StandsIn (.str filename))
    : (∃ response, ofViolation violation = .ok response) ↔ violation.IsTextual := by
  unfold ofViolation
  generalize given : [("filename", violation.filename), ("line_number", violation.line.toJson),
    ("patch_position", violation.position.toJson), ("messages", .arr violation.messages)] = fields
  have named : Rule.required fields "filename" Rule.text = .ok filename := by
    refine Rule.required_eq_ok_iff.mpr ⟨_, ?_, Rule.text_eq_ok_iff.mpr stands.named⟩
    rw [← given]
    rfl
  have line : Rule.required fields "line_number" positive = .ok violation.line.value := by
    refine Rule.required_eq_ok_iff.mpr ⟨_, ?_, positive_toJson stands.line⟩
    rw [← given]
    rfl
  have position : Rule.required fields "patch_position" positive = .ok violation.position.value := by
    refine Rule.required_eq_ok_iff.mpr ⟨_, ?_, positive_toJson stands.position⟩
    rw [← given]
    rfl
  have messages : Rule.required fields "messages" (Rule.list Rule.text)
      = (Rule.itemsFrom Rule.text 0 violation.messages).within "messages" := by
    rw [← given]
    rfl
  rw [ofFields, named, line, position, messages]
  constructor
  · rintro ⟨response, made⟩
    obtain ⟨_, texts, -, read, -⟩ := Checked.and_eq_ok_iff.mp made
    have each := Rule.itemsFrom_eq_ok_iff.mp (Checked.within_eq_ok_iff.mp read)
    exact exists_forall₂_iff.mp ⟨texts, each.imp fun _ _ => Rule.text_eq_ok_iff.mp⟩
  · intro textual
    obtain ⟨texts, each⟩ := exists_forall₂_iff.mpr textual
    have read : Rule.itemsFrom Rule.text 0 violation.messages = .ok texts :=
      Rule.itemsFrom_eq_ok_iff.mpr (each.imp fun _ _ => Rule.text_eq_ok_iff.mpr)
    exact ⟨_, Checked.and_eq_ok_iff.mpr ⟨_, texts, rfl, Checked.within_eq_ok_iff.mpr read, rfl⟩⟩

-----------------------------------------------------------------------------------------
-- Reviews
-----------------------------------------------------------------------------------------

namespace ReviewResponse

theorem violationsOf_eq_ok_iff {violations : List Violation} {responses : List ViolationResponse}
    : violationsOf violations = .ok responses
      ↔ List.Forall₂ (fun violation response => ViolationResponse.ofViolation violation = .ok response)
          violations responses := by
  refine Checked.inOrder_eq_ok_iff ViolationResponse.ofViolation violationsOf rfl fun violation rest => ?_
  rw [violationsOf]
  cases ViolationResponse.ofViolation violation <;> rfl

theorem ofReviews_eq_ok_iff {reviews : List FileReview} {responses : List ReviewResponse}
    : ofReviews reviews = .ok responses
      ↔ List.Forall₂ (fun review response => ofReview review = .ok response) reviews responses := by
  refine Checked.inOrder_eq_ok_iff ofReview ofReviews rfl fun review rest => ?_
  rw [ofReviews]
  cases ofReview review <;> rfl

/-- A review that is named by texts can be answered when its violations can. -/
theorem ofReview_eq_ok_iff {review : FileReview} {response : ReviewResponse} (named : review.IsNamed)
    : ofReview review = .ok response
      ↔ ∃ violations,
          violationsOf review.violations = .ok violations
          ∧ response = ⟨review.names.1, review.names.2, review.isCompleted, review.persisted,
              review.completedAt.map fun seconds => Calendar.Instant.moment ⟨seconds⟩, violations⟩ := by
  obtain ⟨filename, linter⟩ := named.parts
  have called : ∀ violations, withNames review violations
      = .ok ⟨review.names.1, review.names.2, review.isCompleted, review.persisted,
          review.completedAt.map fun seconds => Calendar.Instant.moment ⟨seconds⟩, violations⟩ := by
    intro violations
    rw [withNames, Rule.text_eq_ok_iff.mpr filename, Rule.text_eq_ok_iff.mpr linter]
    rfl
  unfold ofReview
  cases violationsOf review.violations with
  | faulty errors => simp
  | ok violations => simp [called, eq_comm]

/-- A sound review can be answered when it says texts. -/
theorem exists_ofReview_iff {review : FileReview} (sound : review.IsSound)
    : (∃ response, ofReview review = .ok response) ↔ review.IsTextual := by
  simp only [ofReview_eq_ok_iff sound.named, violationsOf_eq_ok_iff]
  rw [exists_comm]
  simp only [exists_and_left, exists_eq, and_true, exists_forall₂_iff]
  refine forall₂_congr fun violation member => ?_
  have stands := sound.stand violation member
  rw [sound.named.parts.1] at stands
  exact ViolationResponse.exists_ofViolation_iff stands

/-- Sound reviews can be answered when they all say texts. -/
theorem exists_ofReviews_iff {reviews : List FileReview} (sound : ∀ review ∈ reviews, review.IsSound)
    : (∃ responses, ofReviews reviews = .ok responses) ↔ ∀ review ∈ reviews, review.IsTextual := by
  simp only [ofReviews_eq_ok_iff, exists_forall₂_iff]
  exact forall₂_congr fun review member => exists_ofReview_iff (sound review member)

/-- Answered reviews have as many violations as the reviews, by induction on the reviews. -/
theorem length_violations_ofReviews {reviews : List FileReview} {responses : List ReviewResponse}
    (sound : ∀ review ∈ reviews, review.IsSound) (made : ofReviews reviews = .ok responses)
    : (responses.flatMap ReviewResponse.violations).length
      = (reviews.flatMap FileReview.violations).length := by
  have each := ofReviews_eq_ok_iff.mp made
  clear made
  induction each with
  | nil => rfl
  | cons here _ ih =>
      obtain ⟨first, rest⟩ := List.forall_mem_cons.mp sound
      obtain ⟨violations, checked, rfl⟩ := (ofReview_eq_ok_iff first.named).mp here
      have same := (violationsOf_eq_ok_iff.mp checked).length_eq
      simp only [List.flatMap_cons, List.length_append, same, ih rest]

end ReviewResponse

end PatchReview
