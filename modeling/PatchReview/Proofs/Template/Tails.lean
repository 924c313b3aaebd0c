import PatchReview.Proofs.Template.Layout

/-! Lines that end in a tag. Stripping cuts such a line behind its last character that shows, unless the line
shows nothing to begin with: one of blanks alone, within a tag, goes by the blanks and keeps them.
-/

namespace PatchReview.Template

open PatchReview.Text

variable {cs source blanked : List Char} {start index : Nat}

/-- (EndsInTag cs start blanked) says that a blanked line, which stands in the text from `start` on, has a
character of a tag with nothing but blanks from there on.
-/
def EndsInTag (cs : List Char) (start : Nat) (blanked : List Char) : Prop :=
  ∃ column, column < blanked.length ∧ InTag cs (start + column)
    ∧ ∀ later c, column ≤ later → blanked[later]? = some c → isBlank c = true

/-- A line of a text, if it ends in a tag, is cut behind the last character that shows of the blanked one. -/
def CutsTail (text : String) (index : Nat) : Prop :=
  ∀ blanked out,
    (splitLines (blankTags text.toList))[index]? = some blanked →
    (splitLines (stripTags text).toList)[index]? = some out →
    EndsInTag text.toList (lineStart (splitLines text.toList) index) blanked →
    out = trimRight blanked

/-- (Hidden cs start source) says that a line has blanks, nothing else, and lies within a tag that opens
before the line and closes behind it.
-/
structure Hidden (cs : List Char) (start : Nat) (source : List Char) : Prop where
  nonempty : source ≠ []
  blank : ∀ c ∈ source, isBlank c = true
  inside : ∃ first last, IsTag cs 0 first last ∧ first < start ∧ start + source.length < last

-----------------------------------------------------------------------------------------
-- Lines that are hidden
-----------------------------------------------------------------------------------------

/-- All characters of a hidden line stand in a tag. -/
theorem Hidden.inTag (hidden : Hidden cs start source) {column : Nat} (within : column < source.length)
    : InTag cs (start + column) := by
  obtain ⟨first, last, tag, opens, closes⟩ := hidden.inside
  exact ⟨first, last, tag, by omega, by omega⟩

/-- A tag shows at its first character and at its last. -/
theorem IsTag.ends {first last : Nat} (tag : IsTag cs 0 first last)
    : cs[first]? = some '<' ∧ cs[last - 1]? = some '>' := by
  have apart := tag.spans.apart
  obtain ⟨rest, opened⟩ := tag.spans.opened
  obtain ⟨after, closed⟩ := tag.spans.closed
  have here : (cs.drop first)[0]? = some '<' := by simp [← opened]
  have there : (cs.drop (last - 2))[1]? = some '>' := by simp [← closed]
  rw [List.getElem?_drop] at here there
  exact ⟨here, by rwa [show last - 2 + 1 = last - 1 by omega] at there⟩

/-- The last character that shows of a blanked line stands in no tag. -/
theorem BlankedLine.not_inTag_of_endsAt (made : BlankedLine cs start source blanked) {column : Nat}
    (ends : EndsAt blanked column)
    : ¬ InTag cs (start + column) := by
  intro tag
  obtain ⟨c, found, shows⟩ := ends.shows
  rw [made.inside column c found tag] at shows
  exact absurd shows (by decide)

/-- A line that ends in a tag, where all that the tag covers behind the last character that shows had been
blank, is hidden. Otherwise the tag would open or close on the line, and its marks show.
-/
theorem BlankedLine.hidden (made : BlankedLine cs start source blanked)
    (stands : ∀ column < source.length, cs[start + column]? = source[column]?)
    (ends : EndsInTag cs start blanked)
    (behind : ∀ column c, (trimRight blanked).length ≤ column → source[column]? = some c →
      isBlank c = true)
    : Hidden cs start source := by
  obtain ⟨column, within, ⟨first, last, tag, opens, closes⟩, blanks⟩ := ends
  obtain ⟨left, right⟩ := tag.ends
  rw [made.length_eq] at within
  have short : (trimRight blanked).length ≤ column := length_trimRight_le_iff.mpr blanks
  -- What shows last in the blanked line stands before the tag, so that the tag opens behind it.
  have beyond : trimRight blanked = [] ∨ start + (trimRight blanked).length ≤ first := by
    rcases Nat.eq_zero_or_pos (trimRight blanked).length with none | some
    · exact Or.inl (List.eq_nil_of_length_eq_zero none)
    · right
      by_contra before
      have shows : EndsAt blanked ((trimRight blanked).length - 1) := endsAt_iff.mpr (by omega)
      exact made.not_inTag_of_endsAt shows ⟨first, last, tag, by omega, by omega⟩
  have opensBefore : first < start := by
    by_contra onLine
    obtain ⟨place, rfl⟩ := Nat.exists_eq_add_of_le (Nat.le_of_not_lt onLine)
    rw [stands place (by omega)] at left
    have past : (trimRight blanked).length ≤ place := by
      rcases beyond with none | before
      · simp [none]
      · omega
    exact absurd (behind place '<' past left) (by decide)
  have none : trimRight blanked = [] := by
    rcases beyond with none | before
    · exact none
    · omega
  refine ⟨List.ne_nil_of_length_pos (by omega), ?_, first, last, tag, opensBefore, ?_⟩
  · intro c member
    obtain ⟨place, found⟩ := List.getElem?_of_mem member
    exact behind place c (by simp [none]) found
  · by_contra onLine
    obtain ⟨place, same⟩ := Nat.exists_eq_add_of_le (show start ≤ last - 1 by omega)
    rw [same, stands place (by omega)] at right
    exact absurd (behind place '>' (by simp [none]) right) (by decide)

-----------------------------------------------------------------------------------------
-- Lines that are cut
-----------------------------------------------------------------------------------------

/-- A line that ends in a tag is cut unless it is hidden: what the tag covers shows in the line, but not in the
blanked one.
-/
theorem BlankedLine.cutLine_of_endsInTag (made : BlankedLine cs start source blanked)
    (stands : ∀ column < source.length, cs[start + column]? = source[column]?)
    (ends : EndsInTag cs start blanked) (shown : ¬ Hidden cs start source)
    : cutLine source blanked = trimRight blanked := by
  rw [cutLine, if_pos]
  by_contra uncut
  apply shown
  apply made.hidden stands ends
  exact length_trimRight_le_iff.mp (Nat.le_of_not_lt uncut)

/-- A hidden line ends in a tag when it is blanked, and keeps all of its length. -/
theorem BlankedLine.of_hidden (made : BlankedLine cs start source blanked) (hidden : Hidden cs start source)
    : EndsInTag cs start blanked ∧ cutLine source blanked = blanked ∧ trimRight blanked = [] := by
  have length_eq := made.length_eq
  have filled := List.length_pos_of_ne_nil hidden.nonempty
  have blanks : ∀ column c, 0 ≤ column → blanked[column]? = some c → isBlank c = true := by
    intro column c _ found
    have within := (List.getElem?_eq_some_iff.mp found).1
    rw [made.inside column c found (hidden.inTag (length_eq ▸ within))]
    rfl
  have none : (trimRight source).length ≤ 0 := by
    apply length_trimRight_le_iff.mpr
    intro column c _ found
    exact hidden.blank c (List.mem_of_getElem? found)
  refine ⟨⟨0, by omega, hidden.inTag filled, blanks⟩, ?_, ?_⟩
  · rw [cutLine, if_neg (by omega)]
  · exact List.eq_nil_of_length_eq_zero (Nat.le_zero.mp (length_trimRight_le_iff.mpr blanks))

/-- A line that ends in a tag is cut where it shows last, unless it is hidden. -/
theorem cutsTail_iff_not_hidden (text : String) (index : Nat)
    : CutsTail text index
      ↔ ∀ source, (splitLines text.toList)[index]? = some source →
          ¬ Hidden text.toList (lineStart (splitLines text.toList) index) source := by
  have same := length_splitLines_blankTags text.toList
  constructor
  · intro cuts source original hidden
    have within := (List.getElem?_eq_some_iff.mp original).1
    obtain ⟨blanked, found⟩ : ∃ blanked, (splitLines (blankTags text.toList))[index]? = some blanked :=
      ⟨_, List.getElem?_eq_getElem (same.symm ▸ within)⟩
    have made := blankedLine_of_getElem? original found
    obtain ⟨ends, kept, none⟩ := made.of_hidden hidden
    have out : (splitLines (stripTags text).toList)[index]? = some (cutLine source blanked) := by
      rw [splitLines_stripTags, List.getElem?_zipWith, original, found]
    have cut := cuts blanked _ found out ends
    rw [kept, none] at cut
    have length_eq := made.length_eq
    rw [cut] at length_eq
    exact hidden.nonempty (List.eq_nil_of_length_eq_zero length_eq.symm)
  · intro shown blanked out found stripped ends
    rw [splitLines_stripTags] at stripped
    obtain ⟨source, other, original, again, rfl⟩ := List.getElem?_zipWith_eq_some.mp stripped
    obtain rfl : blanked = other := Option.some.inj (found.symm.trans again)
    have made := blankedLine_of_getElem? original found
    exact made.cutLine_of_endsInTag (fun _ => getElem?_splitLines original) ends (shown source original)

/-- The blanks of a line within a tag are left at its end. -/
theorem not_cutsTail_hiddenBlanks : ¬ CutsTail "<% a\n  \nb %>" 1 := by
  intro cuts
  have marked : (markTags .outside "<% a\n  \nb %>".toList)[5]? = some (' ', true) := by decide +kernel
  have ends : EndsInTag "<% a\n  \nb %>".toList
      (lineStart (splitLines "<% a\n  \nb %>".toList) 1) [' ', ' '] := by
    refine ⟨0, by decide, (markTags_inTag marked).mp rfl, ?_⟩
    intro later c _ found
    have member := List.mem_of_getElem? found
    simp only [List.mem_cons, List.not_mem_nil, or_false, or_self] at member
    rw [member]
    rfl
  have cut := cuts [' ', ' '] [' ', ' '] (by decide +kernel) (by decide +kernel) ends
  exact absurd cut (by decide +kernel)

end PatchReview.Template
