import PatchReview.Proofs.Template.Tags
import PatchReview.Proofs.Text.Blank

/-! Stripping a text of its tags leaves the rest of it at its lines and columns, and never makes a line end
with a blank that did not end with one before.
-/

namespace PatchReview.Template

open PatchReview.Text

variable {cs source blanked out : List Char} {start index : Nat}

/-- A line with its tags blanked out, of the same length. -/
structure BlankedLine (cs : List Char) (start : Nat) (source blanked : List Char) : Prop where
  length_eq : blanked.length = source.length
  inside : ∀ column c, blanked[column]? = some c → InTag cs (start + column) → c = ' '
  outside : ∀ column c, blanked[column]? = some c → ¬ InTag cs (start + column) →
    source[column]? = some c

/-- What stripping makes of a line that stands in a text from a place on: a part of the line from its start,
with a space for each character of a tag. Only blanks and characters of tags are cut off, and a line that
still ends with a blank is not cut and ends as before.
-/
structure StrippedLine (cs : List Char) (start : Nat) (source out : List Char) : Prop where
  length_le : out.length ≤ source.length
  inside : ∀ column c, out[column]? = some c → InTag cs (start + column) → c = ' '
  outside : ∀ column c, out[column]? = some c → ¬ InTag cs (start + column) →
    source[column]? = some c
  cut : ∀ column c, out.length ≤ column → source[column]? = some c →
    isBlank c = true ∨ InTag cs (start + column)
  tail : ∀ c, out.getLast? = some c → isBlank c = true →
    out.length = source.length ∧ ∀ column, EndsAt out column ↔ EndsAt source column

-----------------------------------------------------------------------------------------
-- Blanked lines
-----------------------------------------------------------------------------------------

/-- A blanked text has its line feeds where the text has them. -/
theorem forall₂_blankTags (cs : List Char)
    : List.Forall₂ (fun c blanked => c = '\n' ↔ blanked = '\n') cs (blankTags cs) := by
  have whole : List.Forall₂ (fun c blanked => c = '\n' ↔ blanked = '\n')
      ((markTags .outside cs).map Prod.fst) (blankTags cs) := by
    rw [blankTags, List.forall₂_map_left_iff, List.forall₂_map_right_iff, List.forall₂_same]
    intro marked _
    unfold blank
    by_cases feed : marked.1 = '\n'
    · simp [feed]
    · cases marked.2 <;> simp [feed]
  rwa [map_fst_markTags] at whole

theorem lengths_blankTags (cs : List Char)
    : (splitLines (blankTags cs)).map List.length = (splitLines cs).map List.length := by
  have same := length_splitLines_congr (forall₂_blankTags cs)
  rw [← List.forall₂_eq_eq_eq, List.forall₂_map_left_iff, List.forall₂_map_right_iff]
  exact same.flip.imp fun _ _ same => same.symm

/-- Blanking leaves the places where lines start. -/
theorem lineStart_blankTags (cs : List Char) (index : Nat)
    : lineStart (splitLines (blankTags cs)) index = lineStart (splitLines cs) index := by
  have sums := congrArg (fun lengths => ((lengths.take index).map (· + 1)).sum) (lengths_blankTags cs)
  simpa [lineStart, List.map_take, Function.comp_def] using sums

/-- A line of the blanked text is that line of the text, blanked out. -/
theorem blankedLine_of_getElem? (original : (splitLines cs)[index]? = some source)
    (found : (splitLines (blankTags cs))[index]? = some blanked)
    : BlankedLine cs (lineStart (splitLines cs) index) source blanked := by
  have length_eq : blanked.length = source.length := by
    have here := congrArg (·[index]?) (lengths_blankTags cs)
    simpa [original, found] using here
  have places : ∀ column c, blanked[column]? = some c → ∃ old, source[column]? = some old
      ∧ (InTag cs (lineStart (splitLines cs) index + column) → c = ' ')
      ∧ (¬ InTag cs (lineStart (splitLines cs) index + column) → c = old) := by
    intro column c shown
    have within := (List.getElem?_eq_some_iff.mp shown).1
    obtain ⟨old, old_eq⟩ : ∃ old, source[column]? = some old :=
      ⟨_, List.getElem?_eq_getElem (by omega)⟩
    have place := getElem?_splitLines original (length_eq ▸ within)
    have placeToo := getElem?_splitLines found within
    rw [old_eq] at place
    rw [lineStart_blankTags, shown] at placeToo
    obtain ⟨out, out_eq, inside, outside⟩ := getElem?_blankTags place
    rw [placeToo] at out_eq
    obtain rfl := Option.some.inj out_eq
    have plain : old ≠ '\n' := by
      intro feed
      have member := List.mem_of_getElem? old_eq
      exact not_mem_of_mem_splitLines (List.mem_of_getElem? original) (feed ▸ member)
    exact ⟨old, old_eq, fun tag => by simpa [plain] using inside tag, outside⟩
  refine ⟨length_eq, ?_, ?_⟩
  · intro column c shown tag
    obtain ⟨_, _, inside, _⟩ := places column c shown
    exact inside tag
  · intro column c shown plain
    obtain ⟨old, old_eq, _, outside⟩ := places column c shown
    rw [outside plain, old_eq]

-----------------------------------------------------------------------------------------
-- Cut lines
-----------------------------------------------------------------------------------------

/-- Blanking makes no blank show. -/
theorem BlankedLine.length_trimRight_le (made : BlankedLine cs start source blanked)
    : (trimRight blanked).length ≤ (trimRight source).length := by
  apply length_trimRight_le_iff.mpr
  intro column c past shown
  by_cases tag : InTag cs (start + column)
  · rw [made.inside column c shown tag]
    rfl
  · exact isBlank_of_length_trimRight_le past (made.outside column c shown tag)

/-- A blank of the blanked line was a blank or stands in a tag. -/
theorem BlankedLine.isBlank_or_inTag (made : BlankedLine cs start source blanked) {column : Nat} {c : Char}
    (past : (trimRight blanked).length ≤ column) (found : source[column]? = some c)
    : isBlank c = true ∨ InTag cs (start + column) := by
  have within := (List.getElem?_eq_some_iff.mp found).1
  obtain ⟨other, shown⟩ : ∃ other, blanked[column]? = some other :=
    ⟨_, List.getElem?_eq_getElem (made.length_eq.symm ▸ within)⟩
  by_cases tag : InTag cs (start + column)
  · exact Or.inr tag
  · have same := made.outside column other shown tag
    rw [found] at same
    obtain rfl := Option.some.inj same
    exact Or.inl (isBlank_of_length_trimRight_le past shown)

/-- A cut line begins as the blanked one does. -/
theorem cutLine_begins (source blanked : List Char) : cutLine source blanked <+: blanked := by
  unfold cutLine
  split
  · exact trimRight_prefix blanked
  · exact List.prefix_rfl

/-- Cutting a blanked line strips the line. -/
theorem BlankedLine.stripped (made : BlankedLine cs start source blanked)
    : StrippedLine cs start source (cutLine source blanked) := by
  have begins := cutLine_begins source blanked
  have kept : ∀ (column : Nat) (c : Char),
      (cutLine source blanked)[column]? = some c → blanked[column]? = some c := by
    intro column c shown
    obtain ⟨within, here⟩ := List.getElem?_eq_some_iff.mp shown
    rw [List.prefix_iff_getElem?.mp begins column within, here]
  refine {
    length_le := made.length_eq ▸ begins.length_le
    inside := fun column c shown => made.inside column c (kept column c shown)
    outside := fun column c shown => made.outside column c (kept column c shown)
    cut := ?_
    tail := ?_ }
  · intro column c past found
    have within := (List.getElem?_eq_some_iff.mp found).1
    unfold cutLine at past
    split at past
    · exact made.isBlank_or_inTag past found
    · have length_eq := made.length_eq
      omega
  · intro c last blank
    unfold cutLine at last ⊢
    split at last
    · -- A trimmed line has no blank at its end.
      have shows := isBlank_getLast?_trimRight last
      simp [blank] at shows
    · rename_i uncut
      have shorter := made.length_trimRight_le
      have same : (trimRight blanked).length = (trimRight source).length := by omega
      rw [if_neg uncut]
      refine ⟨made.length_eq, fun column => ?_⟩
      rw [endsAt_iff, endsAt_iff, same]

theorem cutLine_self (source : List Char) : cutLine source source = source := by simp [cutLine]

-----------------------------------------------------------------------------------------
-- Whole texts
-----------------------------------------------------------------------------------------

theorem length_splitLines_blankTags (cs : List Char)
    : (splitLines (blankTags cs)).length = (splitLines cs).length := by
  simpa using congrArg List.length (lengths_blankTags cs)

/-- The lines of a stripped text are the cut lines. -/
theorem splitLines_stripTags (text : String)
    : splitLines (stripTags text).toList
      = List.zipWith cutLine (splitLines text.toList) (splitLines (blankTags text.toList)) := by
  unfold stripTags
  rw [String.toList_ofList, splitLines_joinLines]
  · intro empty
    rcases List.zipWith_eq_nil_iff.mp empty with none | none
    · exact splitLines_ne_nil _ none
    · exact splitLines_ne_nil _ none
  · intro out member feed
    obtain ⟨index, found⟩ := List.getElem?_of_mem member
    obtain ⟨source, blanked, _, blankedLine, rfl⟩ := List.getElem?_zipWith_eq_some.mp found
    have feedToo := (cutLine_begins source blanked).subset feed
    exact not_mem_of_mem_splitLines (List.mem_of_getElem? blankedLine) feedToo

/-- A stripped text has the lines of the text, each of them stripped where it stands. A text without a
complete tag is left as it is.
-/
theorem stripTags_layout (text : String)
    : (splitLines (stripTags text).toList).length = (splitLines text.toList).length
      ∧ (∀ index source out, (splitLines text.toList)[index]? = some source →
          (splitLines (stripTags text).toList)[index]? = some out →
          StrippedLine text.toList (lineStart (splitLines text.toList) index) source out)
      ∧ ((∀ start stop, ¬ Spans text.toList start stop) → stripTags text = text) := by
  refine ⟨?_, ?_, ?_⟩
  · simp [splitLines_stripTags, length_splitLines_blankTags]
  · intro index source out original found
    rw [splitLines_stripTags] at found
    obtain ⟨_, blanked, sameLine, blankedLine, rfl⟩ := List.getElem?_zipWith_eq_some.mp found
    rw [original] at sameLine
    obtain rfl := Option.some.inj sameLine
    exact (blankedLine_of_getElem? original blankedLine).stripped
  · intro plain
    have same : List.zipWith cutLine (splitLines text.toList) (splitLines text.toList)
        = splitLines text.toList := by
      simp [List.zipWith_self, cutLine_self]
    rw [stripTags, blankTags_of_not_spans plain, same, joinLines_splitLines, String.ofList_toList]

/-- The tag at the end of a line goes with the blanks around it; those of other lines stay. -/
example : stripTags "x  \ny <%= a\nb %>z <% c %> " = "x  \ny\n    z" := by decide +kernel

end PatchReview.Template
