import PatchReview.Proofs.Assoc
import PatchReview.Review.Store

/-! What a store holds once reviews were kept in it one after the other: of each file and linter the last
review, in the order in which they first had one.
-/

namespace PatchReview

/-- The names of the file and the linter of a review, as texts. -/
def FileReview.names (review : FileReview) : String × String :=
  (review.filename.display, review.linter.display)

/-- A review whose file and linter are named by texts. -/
def FileReview.IsNamed (review : FileReview) : Prop :=
  review.key = ⟨.str review.names.1, .str review.names.2⟩

theorem FileReview.isNamed {review : FileReview} {filename linter : String}
    (file : review.filename = .str filename) (linted : review.linter = .str linter)
    : review.IsNamed := by
  simp [IsNamed, names, key, file, linted, Json.display]

theorem FileReview.IsNamed.parts {review : FileReview} (named : review.IsNamed)
    : review.filename = .str review.names.1 ∧ review.linter = .str review.names.2 :=
  ReviewKey.mk.inj named

/-- Reviews that are named by texts have the same key when their names agree. -/
theorem FileReview.key_beq_key {first second : FileReview} (named : first.IsNamed)
    (otherNamed : second.IsNamed)
    : (first.key == second.key) = (first.names == second.names) := by
  rw [named, otherNamed]
  simp [BEq.beq, Json.same]

namespace Store

/-- Keeps reviews one after the other. -/
def saveAll (store : Store FileReview) (reviews : List FileReview) : Store FileReview :=
  reviews.foldl (fun kept review => kept.save review.key review) store

theorem saveAll_append (store : Store FileReview) (first second : List FileReview)
    : store.saveAll (first ++ second) = (store.saveAll first).saveAll second :=
  List.foldl_append

/-- (store.Holds finished) says what a store holds once the finished reviews were kept: each under its own
key, where it is found, of each pair of names the last, in the order in which the names first came.
-/
structure Holds (store : Store FileReview) (finished : List FileReview) : Prop where
  named : ∀ review ∈ finished, review.IsNamed
  own : ∀ key review, (key, review) ∈ store.entries → key = review.key
  found : ∀ review ∈ store.all, store.get? review.key = some review
  order : store.all.map FileReview.names = (finished.map FileReview.names).eraseDups
  last : ∀ review,
    review ∈ store.all
      ↔ ∃ before after,
          finished = before ++ review :: after ∧ review.names ∉ after.map FileReview.names

/-- A review that was finished is held, unless one of its names was finished later. -/
theorem Holds.held_or_replaced {store : Store FileReview} {finished before after : List FileReview}
    {review : FileReview} (holds : store.Holds finished) (split : finished = before ++ review :: after)
    : review ∈ store.all ∨ ∃ later ∈ after, later.names = review.names := by
  by_cases replaced : review.names ∈ after.map FileReview.names
  · exact Or.inr (List.mem_map.mp replaced)
  · exact Or.inl ((holds.last review).mpr ⟨before, after, split, replaced⟩)

theorem Holds.subset {store : Store FileReview} {finished : List FileReview} (holds : store.Holds finished)
    : store.all ⊆ finished := by
  intro review member
  obtain ⟨before, after, rfl, -⟩ := (holds.last review).mp member
  exact List.mem_append_right before List.mem_cons_self

/-- The reviews in a store with their names. -/
def byNames (store : Store FileReview) : List ((String × String) × FileReview) :=
  store.all.map fun review => (review.names, review)

/-- A store whose reviews are kept under their own keys and named by texts. -/
structure IsTidy (store : Store FileReview) : Prop where
  own : ∀ key review, (key, review) ∈ store.entries → key = review.key
  named : ∀ key review, (key, review) ∈ store.entries → review.IsNamed

/-- In a tidy store the first review is under its own key and the others are tidy. -/
theorem IsTidy.uncons {key : ReviewKey} {review : FileReview} {rest : List (ReviewKey × FileReview)}
    (tidy : IsTidy ⟨(key, review) :: rest⟩)
    : key = review.key ∧ review.IsNamed ∧ IsTidy ⟨rest⟩ :=
  ⟨tidy.own key review List.mem_cons_self,
    tidy.named key review List.mem_cons_self,
    fun key review member => tidy.own key review (List.mem_cons_of_mem _ member),
    fun key review member => tidy.named key review (List.mem_cons_of_mem _ member)⟩

/-- Keeping a review writes it under its names, by induction on the entries of the store. -/
theorem byNames_save {store : Store FileReview} {review : FileReview} (tidy : store.IsTidy)
    (named : review.IsNamed)
    : (store.save review.key review).byNames = Assoc.set review.names review store.byNames := by
  obtain ⟨entries⟩ := store
  simp only [byNames, save, all, Assoc.values]
  induction entries with
  | nil => rfl
  | cons entry rest ih =>
      obtain ⟨key, kept⟩ := entry
      obtain ⟨rfl, keptNamed, others⟩ := tidy.uncons
      have later := ih others
      simp only [Assoc.set, FileReview.key_beq_key keptNamed named, List.map_cons]
      by_cases same : kept.names = review.names
      · simp [same]
      · simpa [same] using later

/-- What a tidy store finds under a key is what it has under the names, by induction on its entries. -/
theorem IsTidy.get?_key {store : Store FileReview} {review : FileReview} (tidy : store.IsTidy)
    (named : review.IsNamed)
    : store.get? review.key = Assoc.get? review.names store.byNames := by
  obtain ⟨entries⟩ := store
  simp only [byNames, get?, all, Assoc.values]
  induction entries with
  | nil => rfl
  | cons entry rest ih =>
      obtain ⟨key, kept⟩ := entry
      obtain ⟨rfl, keptNamed, others⟩ := tidy.uncons
      simp only [Assoc.get?, FileReview.key_beq_key keptNamed named, List.map_cons]
      rw [ih others]

theorem IsTidy.save {store : Store FileReview} {review : FileReview} (tidy : store.IsTidy)
    (named : review.IsNamed)
    : (store.save review.key review).IsTidy := by
  have sound : ∀ key kept, (key, kept) ∈ (store.save review.key review).entries →
      key = kept.key ∧ kept.IsNamed := by
    intro key kept member
    rcases Assoc.mem_set member with before | ⟨rfl, rfl | ⟨equal, old, before⟩⟩
    · exact ⟨tidy.own key kept before, tidy.named key kept before⟩
    · exact ⟨rfl, named⟩
    · -- The review took the place of an older one with an equal key, and so with the same names.
      have oldNamed := tidy.named key old before
      rw [tidy.own key old before] at equal ⊢
      rw [FileReview.key_beq_key oldNamed named] at equal
      refine ⟨?_, named⟩
      rw [oldNamed, named, eq_of_beq equal]
  exact ⟨fun key kept member => (sound key kept member).1, fun key kept member => (sound key kept member).2⟩

/-- What a store holds stands in the reading of the finished reviews by their names, by induction on the
finished reviews from their end.
-/
theorem byNames_saveAll {finished : List FileReview} (named : ∀ review ∈ finished, review.IsNamed)
    : (saveAll empty finished).IsTidy
      ∧ (saveAll empty finished).byNames
        = Assoc.ofList (finished.map fun review => (review.names, review)) := by
  induction finished using List.reverseRecOn with
  | nil => exact ⟨⟨nofun, nofun⟩, rfl⟩
  | append_singleton finished review ih =>
      obtain ⟨tidy, same⟩ := ih fun other member => named other (List.mem_append_left [review] member)
      have last : review.IsNamed := named review (by simp)
      have joined : saveAll empty (finished ++ [review])
          = (saveAll empty finished).save review.key review := by
        simp [saveAll]
      rw [joined, byNames_save tidy last, same, List.map_append, List.map_singleton,
        Assoc.ofList_concat]
      exact ⟨tidy.save last, rfl⟩

/-- After reviews were kept in an empty store it holds them. -/
theorem holds_saveAll {finished : List FileReview} (named : ∀ review ∈ finished, review.IsNamed)
    : (saveAll empty finished).Holds finished := by
  obtain ⟨tidy, same⟩ := byNames_saveAll named
  generalize saveAll empty finished = store at tidy same
  refine ⟨named, tidy.own, ?_, ?_, ?_⟩
  · intro review member
    obtain ⟨⟨key, kept⟩, inStore, rfl⟩ := List.mem_map.mp member
    have distinct := Assoc.nodup_keys_ofList (finished.map fun review => (review.names, review))
    rw [← same] at distinct
    rw [tidy.get?_key (tidy.named key kept inStore), Assoc.get?_eq_some_iff_mem distinct]
    exact List.mem_map.mpr ⟨kept, member, rfl⟩
  · have read := Assoc.keys_ofList (finished.map fun review => (review.names, review))
    rw [← same] at read
    simpa [Assoc.keys, byNames, Function.comp_def] using read
  · intro review
    have kept : review ∈ store.all ↔ (review.names, review) ∈ store.byNames := by
      simp [byNames]
    rw [kept, same, Assoc.mem_ofList_iff]
    constructor
    · rintro ⟨before, after, split, fresh⟩
      obtain ⟨first, rest, rfl, rfl, ends⟩ := List.map_eq_append_iff.mp split
      obtain ⟨last, later, rfl, here, rfl⟩ := List.map_eq_cons_iff.mp ends
      obtain rfl := (Prod.mk.inj here).2
      exact ⟨first, later, rfl, by simpa [Assoc.keys] using fresh⟩
    · rintro ⟨before, after, rfl, fresh⟩
      exact ⟨_, _, List.map_append, by simpa [Assoc.keys] using fresh⟩

end Store

end PatchReview
