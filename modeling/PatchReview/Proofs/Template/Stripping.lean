import PatchReview.Proofs.Template.Layout

/-! No complete tag is left in a stripped text. Every place where one opens lies in a tag that is blanked
out, and neither blanks nor cut lines bring the characters of a mark together.
-/

namespace PatchReview.Template

open PatchReview.Text

variable {cs rest : List Char} {origin place stop : Nat} {first second : Char}

-----------------------------------------------------------------------------------------
-- Blanked texts
-----------------------------------------------------------------------------------------

/-- A mark stands at a place when its two characters do, one after the other. -/
theorem pair_prefix_drop_iff
    : [first, second] <+: cs.drop place ↔ cs[place]? = some first ∧ cs[place + 1]? = some second := by
  rw [List.prefix_iff_getElem?]
  constructor
  · intro same
    exact ⟨by simpa using same 0 (by simp), by simpa using same 1 (by simp)⟩
  · rintro ⟨here, next⟩ index before
    rcases index with _ | _ | index
    · simpa using here
    · simpa using next
    · simp only [List.length_cons, List.length_nil] at before
      omega

/-- A place where a complete tag opens lies in a tag, by induction on how far it is from where the searches
start: the first tag they find covers it, or ends before it.
-/
theorem inTagFrom_of_spans (spans : Spans cs place stop) (ahead : origin ≤ place)
    : InTagFrom cs origin place := by
  classical
  induction distance : place - origin using Nat.strongRecOn generalizing origin with
  | _ _ ih =>
      subst distance
      have somewhere : ∃ start, origin ≤ start ∧ ∃ stop, Spans cs start stop :=
        ⟨place, ahead, stop, spans⟩
      obtain ⟨past, opens⟩ := Nat.find_spec somewhere
      have atMost : Nat.find somewhere ≤ place := Nat.find_min' somewhere ⟨ahead, stop, spans⟩
      have leftmost : ∀ earlier, origin ≤ earlier → earlier < Nat.find somewhere → ∀ stop,
          ¬ Spans cs earlier stop := by
        intro earlier behind before stop other
        exact Nat.find_min somewhere before ⟨behind, stop, other⟩
      obtain ⟨last, shortest⟩ := exists_finds_of_spans opens
      have found : Finds cs origin (Nat.find somewhere) last :=
        ⟨shortest.spans, past, leftmost, shortest.shortest⟩
      rw [inTagFrom_iff_of_finds found]
      have apart := found.spans.apart
      by_cases covered : place < last
      · exact Or.inl ⟨atMost, covered⟩
      · exact Or.inr (ih (place - last) (by omega) (by omega) rfl)

/-- What shows in a blanked text stands there in the text, and in no tag. -/
theorem shown_of_blankTags {c : Char} (shown : (blankTags cs)[place]? = some c) (visible : c ≠ ' ')
    (inLine : c ≠ '\n')
    : cs[place]? = some c ∧ ¬ InTag cs place := by
  have within : place < cs.length := by
    have inside := (List.getElem?_eq_some_iff.mp shown).1
    simpa [blankTags, length_markTags] using inside
  obtain ⟨out, same, inside, outside⟩ := getElem?_blankTags (List.getElem?_eq_getElem within)
  obtain rfl : c = out := Option.some.inj (shown.symm.trans same)
  have apart : ¬ InTag cs place := by
    intro tag
    have blanked := inside tag
    split at blanked
    · exact inLine blanked
    · exact visible blanked
  exact ⟨by rw [outside apart, List.getElem?_eq_getElem within], apart⟩

/-- A blanked text has no complete tag: both of its marks would have stood in the text, so that the first one
would lie in a tag and be blanked out.
-/
theorem not_spans_blankTags (start stop : Nat) : ¬ Spans (blankTags cs) start stop := by
  intro spans
  obtain ⟨left, percent⟩ := pair_prefix_drop_iff.mp spans.opened
  obtain ⟨percentToo, right⟩ := pair_prefix_drop_iff.mp spans.closed
  obtain ⟨hadLeft, apart⟩ := shown_of_blankTags left (by decide) (by decide)
  have hadOpening := (shown_of_blankTags percent (by decide) (by decide)).1
  have hadClosing := (shown_of_blankTags percentToo (by decide) (by decide)).1
  have hadRight := (shown_of_blankTags right (by decide) (by decide)).1
  have whole : Spans cs start stop :=
    ⟨pair_prefix_drop_iff.mpr ⟨hadLeft, hadOpening⟩, pair_prefix_drop_iff.mpr ⟨hadClosing, hadRight⟩,
      spans.apart⟩
  exact apart (inTagFrom_of_spans whole (Nat.zero_le start))

-----------------------------------------------------------------------------------------
-- Cut texts
-----------------------------------------------------------------------------------------

/-- (IsCut cs out) says that `out` is the text `cs` without some of the ends of its lines. -/
inductive IsCut : List Char → List Char → Prop
  | nil : IsCut [] []
  | keep {cs out} (c : Char) (cut : IsCut cs out) : IsCut (c :: cs) (c :: out)
  | drop {cs out} (c : Char) (cut : IsCut cs out) (ends : ∀ next ∈ out.head?, next = '\n')
    : IsCut (c :: cs) out

variable {out : List Char}

/-- A line may be cut where the text ends or goes on with a line feed, by induction on the line. -/
theorem isCut_append {line part : List Char} (begins : part <+: line) (cut : IsCut cs out)
    (ends : ∀ next ∈ out.head?, next = '\n')
    : IsCut (line ++ cs) (part ++ out) := by
  induction line generalizing part with
  | nil =>
      obtain rfl := List.prefix_nil.mp begins
      exact cut
  | cons c line ih =>
      cases part with
      | nil => exact .drop c (ih List.nil_prefix) ends
      | cons d part =>
          obtain ⟨rfl, later⟩ := List.cons_prefix_cons.mp begins
          exact .keep d (ih later)

/-- Lines that are cut one by one make a cut text, by induction on the lines. -/
theorem isCut_joinLines {lines parts : List (List Char)}
    (each : List.Forall₂ (fun line part => part <+: line) lines parts)
    : IsCut (joinLines lines) (joinLines parts) := by
  induction each with
  | nil => exact .nil
  | @cons line part lines parts begins later ih =>
      cases later with
      | nil => simpa [joinLines] using isCut_append begins .nil (by simp)
      | cons _ _ => exact isCut_append begins (.keep '\n' ih) (by simp)

/-- What a cut text goes on with, other than with a line feed, the text goes on with. -/
theorem IsCut.prefix_of_prefix (cut : IsCut cs (first :: out)) (inLine : first ≠ '\n')
    : ∃ tail, cs = first :: tail ∧ IsCut tail out := by
  cases cut with
  | keep _ rest => exact ⟨_, rfl, rest⟩
  | drop _ _ ends => exact absurd (ends first (by simp)) inLine

/-- A mark of a cut text stands in the text, by induction on the cut. -/
theorem IsCut.pair_infix (cut : IsCut cs out) (inLine : second ≠ '\n') (mark : [first, second] <:+: out)
    : [first, second] <:+: cs := by
  induction cut with
  | nil => exact mark
  | keep c rest ih =>
      rcases List.infix_cons_iff.mp mark with here | later
      · obtain ⟨rfl, next⟩ := List.cons_prefix_cons.mp here
        obtain ⟨after, rfl⟩ := next
        obtain ⟨tail, rfl, -⟩ := rest.prefix_of_prefix inLine
        exact ⟨[], tail, rfl⟩
      · exact List.infix_cons_iff.mpr (Or.inr (ih later))
  | drop c rest ends ih => exact List.infix_cons_iff.mpr (Or.inr (ih mark))

/-- A text has a complete tag when an opening mark in it is followed by a closing one. -/
theorem exists_spans_iff
    : (∃ start stop, Spans cs start stop)
      ↔ ∃ rest, '<' :: '%' :: rest <:+ cs ∧ ['%', '>'] <:+: rest := by
  constructor
  · rintro ⟨start, stop, spans⟩
    obtain ⟨rest, opened⟩ := spans.opened
    have apart := spans.apart
    obtain ⟨length, rfl⟩ := Nat.exists_eq_add_of_le (show start + 4 ≤ stop by omega)
    have closed := spans.closed
    rw [show start + 4 + length - 2 = start + (length + 2) by omega, ← List.drop_drop, ← opened] at closed
    have behind : ['%', '>'] <+: rest.drop length := by simpa using closed
    have ends := List.drop_suffix start cs
    rw [← opened] at ends
    exact ⟨rest, ends, behind.isInfix.trans (List.drop_suffix length rest).isInfix⟩
  · rintro ⟨rest, ⟨before, rfl⟩, body, after, rfl⟩
    refine ⟨before.length, before.length + (body.length + 4), by simp, ?_, by omega⟩
    rw [show before.length + (body.length + 4) - 2 = before.length + (body.length + 2) by omega]
    simp [← List.drop_drop]

/-- A complete tag of a cut text stands in the text, by induction on the cut. -/
theorem IsCut.exists_spans (cut : IsCut cs out) (spans : ∃ start stop, Spans out start stop)
    : ∃ start stop, Spans cs start stop := by
  rw [exists_spans_iff] at spans ⊢
  induction cut with
  | nil => exact spans
  | keep c rest ih =>
      obtain ⟨after, ends, closed⟩ := spans
      rcases List.suffix_cons_iff.mp ends with here | later
      · obtain ⟨rfl, rfl⟩ := List.cons.inj here
        obtain ⟨tail, rfl, cutToo⟩ := rest.prefix_of_prefix (by decide)
        exact ⟨tail, List.suffix_rfl, cutToo.pair_infix (by decide) closed⟩
      · obtain ⟨tail, endsToo, closedToo⟩ := ih ⟨after, later, closed⟩
        exact ⟨tail, endsToo.trans (List.suffix_cons c _), closedToo⟩
  | drop c rest ends ih =>
      obtain ⟨tail, endsToo, closedToo⟩ := ih spans
      exact ⟨tail, endsToo.trans (List.suffix_cons c _), closedToo⟩

-----------------------------------------------------------------------------------------
-- Stripped texts
-----------------------------------------------------------------------------------------

/-- A text that has nothing to blank out is left as it is. -/
theorem stripTags_of_blankTags {text : String} (plain : blankTags text.toList = text.toList)
    : stripTags text = text := by
  have same : List.zipWith cutLine (splitLines text.toList) (splitLines text.toList)
      = splitLines text.toList := by
    simp [List.zipWith_self, cutLine_self]
  rw [stripTags, plain, same, joinLines_splitLines, String.ofList_toList]

/-- A stripped text is the blanked one with some of its lines cut. -/
theorem isCut_stripTags (text : String) : IsCut (blankTags text.toList) (stripTags text).toList := by
  have lines : List.Forall₂ (fun line part => part <+: line) (splitLines (blankTags text.toList))
      (splitLines (stripTags text).toList) := by
    rw [splitLines_stripTags, List.forall₂_iff_get]
    refine ⟨by simp [length_splitLines_blankTags], ?_⟩
    intro index _ _
    simpa using cutLine_begins _ _
  have cut := isCut_joinLines lines
  rwa [joinLines_splitLines, joinLines_splitLines] at cut

/-- No complete tag is left in a stripped text: it would have been left in the blanked one. -/
theorem not_spans_stripTags (text : String) (start stop : Nat)
    : ¬ Spans (stripTags text).toList start stop := by
  intro spans
  obtain ⟨first, last, whole⟩ := (isCut_stripTags text).exists_spans ⟨start, stop, spans⟩
  exact not_spans_blankTags first last whole

/-- No complete tag is left in a stripped text, and stripping it once more changes nothing. -/
theorem stripTags_leaves_plain (text : String)
    : (∀ start stop, ¬ Spans (stripTags text).toList start stop)
      ∧ stripTags (stripTags text) = stripTags text :=
  ⟨not_spans_stripTags text, stripTags_of_blankTags (blankTags_of_not_spans (not_spans_stripTags text))⟩

/-- An opening mark without a closing one stays, and what is left on both sides of a tag stays apart. -/
example : stripTags "<<%= a %>% b %> <%>" = "<        % b %> <%>" := by decide +kernel

end PatchReview.Template
