import PatchReview.Review.FileReview

/-!
The store of reviews, keyed by file and linter. A later review of a key takes the place of the
earlier one.
-/

namespace PatchReview

/-- What a review is kept under: the names of its file and its linter. -/
structure ReviewKey where
  filename : Json
  linter : Json

namespace ReviewKey

instance : BEq ReviewKey where
  beq a b := a.filename.same b.filename && a.linter.same b.linter

/-- Whether the names are of kinds that can be keys. -/
def check (key : ReviewKey) : Except Failure Unit := do
  key.filename.checkKey
  key.linter.checkKey

end ReviewKey

/-- Reviews, or what stands for them, in the order in which their keys were first saved. -/
structure Store (ρ : Type) where
  entries : List (ReviewKey × ρ)

namespace Store

variable {ρ : Type}

/-- A store that holds nothing. -/
def empty : Store ρ := ⟨[]⟩

/-- Saves under a key. -/
def save (store : Store ρ) (key : ReviewKey) (review : ρ) : Store ρ :=
  ⟨Assoc.set key review store.entries⟩

/-- What is kept under a key. -/
def get? (store : Store ρ) (key : ReviewKey) : Option ρ := Assoc.get? key store.entries

/-- All that is kept. -/
def all (store : Store ρ) : List ρ := Assoc.values store.entries

/-- How many keys there are. -/
def size (store : Store ρ) : Nat := store.entries.length

end Store

/-- The key of a review. -/
def FileReview.key (review : FileReview) : ReviewKey := ⟨review.filename, review.linter⟩

/-- Keeps a review, whose names have to be of kinds that can be keys. -/
def FileReview.keepIn (review : FileReview) (store : Store FileReview)
    : Except Failure (FileReview × Store FileReview) := do
  review.key.check
  let kept := review.persist
  return (kept, store.save kept.key kept)

end PatchReview
