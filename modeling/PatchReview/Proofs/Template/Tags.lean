import Mathlib.Data.Nat.Find
import PatchReview.Proofs.Text.Lines
import PatchReview.Template

/-! The tags of a text, by their places. A search from left to right finds them one after the other: each is
the first one that opens behind the one before it, and ends with the first closing mark behind its opening
mark.
-/

namespace PatchReview.Template

open PatchReview.Text

/-- An opening mark stands at a place of a text, and a closing mark behind it ends at another one. -/
structure Spans (cs : List Char) (start stop : Nat) : Prop where
  opened : ['<', '%'] <+: cs.drop start
  closed : ['%', '>'] <+: cs.drop (stop - 2)
  apart : start + 4 ≤ stop

/-- A search from a place on finds a tag: none opens before it, and it is the shortest that opens there. -/
structure Finds (cs : List Char) (origin start stop : Nat) : Prop where
  spans : Spans cs start stop
  ahead : origin ≤ start
  leftmost : ∀ earlier, origin ≤ earlier → earlier < start → ∀ stop, ¬ Spans cs earlier stop
  shortest : ∀ earlier, earlier < stop → ¬ Spans cs start earlier

/-- (IsTag cs origin start stop) says that the searches from `origin` on, each behind the tag of the one
before, find a tag from `start` up to `stop`.
-/
inductive IsTag (cs : List Char) : Nat → Nat → Nat → Prop
  | first {origin start stop} (found : Finds cs origin start stop)
    : IsTag cs origin start stop
  | later {origin start stop next last} (found : Finds cs origin start stop)
    (behind : IsTag cs stop next last)
    : IsTag cs origin next last

/-- A place lies in one of the tags that are found from `origin` on. -/
def InTagFrom (cs : List Char) (origin place : Nat) : Prop :=
  ∃ start stop, IsTag cs origin start stop ∧ start ≤ place ∧ place < stop

/-- A place of a text lies in one of its tags. -/
def InTag (cs : List Char) (place : Nat) : Prop := InTagFrom cs 0 place

variable {cs : List Char} {origin start stop place : Nat}

-----------------------------------------------------------------------------------------
-- One tag
-----------------------------------------------------------------------------------------

/-- A tag ends within its text. -/
theorem Spans.le_length (spans : Spans cs start stop) : stop ≤ cs.length := by
  have closed := spans.closed.length_le
  simp only [List.length_drop, List.length_cons, List.length_nil] at closed
  omega

/-- A search has at most one result. -/
theorem Finds.unique {other otherStop : Nat} (found : Finds cs origin start stop)
    (again : Finds cs origin other otherStop)
    : other = start ∧ otherStop = stop := by
  have same : other = start := by
    apply Nat.le_antisymm
    · by_contra behind
      exact again.leftmost start found.ahead (by omega) stop found.spans
    · by_contra before
      exact found.leftmost other again.ahead (by omega) otherStop again.spans
  subst same
  refine ⟨rfl, Nat.le_antisymm ?_ ?_⟩
  · by_contra longer
    exact again.shortest stop (by omega) found.spans
  · by_contra shorter
    exact found.shortest otherStop (by omega) again.spans

/-- A tag that opens where the search starts is found, with its first closing mark. -/
theorem exists_finds_of_spans (spans : ∃ stop, Spans cs start stop)
    : ∃ stop, Finds cs start start stop := by
  classical
  refine ⟨Nat.find spans, Nat.find_spec spans, le_rfl, ?_, fun _ => Nat.find_min spans⟩
  intro earlier past before
  omega

/-- Where no tag opens, the search goes on at the next place. -/
theorem finds_succ_iff (closed : ∀ stop, ¬ Spans cs origin stop)
    : Finds cs origin start stop ↔ Finds cs (origin + 1) start stop := by
  constructor
  · intro found
    have moved : start ≠ origin := by
      intro same
      exact closed stop (same ▸ found.spans)
    have ahead := found.ahead
    exact ⟨found.spans, by omega, fun earlier past => found.leftmost earlier (by omega), found.shortest⟩
  · intro found
    have ahead := found.ahead
    refine ⟨found.spans, by omega, fun earlier past before => ?_, found.shortest⟩
    rcases Nat.eq_or_lt_of_le past with rfl | behind
    · exact closed
    · exact found.leftmost earlier behind before

/-- A tag of the rest of a text is one of the text, at a place that much later. -/
theorem spans_drop {count : Nat}
    : Spans (cs.drop count) start stop ↔ Spans cs (count + start) (count + stop) := by
  constructor
  · intro spans
    have apart := spans.apart
    refine ⟨by simpa using spans.opened, ?_, by omega⟩
    have closed := spans.closed
    rw [List.drop_drop] at closed
    rwa [show count + stop - 2 = count + (stop - 2) by omega]
  · intro spans
    have apart := spans.apart
    refine ⟨by simpa using spans.opened, ?_, by omega⟩
    have closed := spans.closed
    rw [show count + stop - 2 = count + (stop - 2) by omega] at closed
    rwa [List.drop_drop]

theorem finds_drop {count : Nat}
    : Finds (cs.drop count) origin start stop
      ↔ Finds cs (count + origin) (count + start) (count + stop) := by
  constructor
  · intro found
    have ahead := found.ahead
    refine ⟨spans_drop.mp found.spans, by omega, ?_, ?_⟩
    · intro earlier past before stop spans
      obtain ⟨place, rfl⟩ := Nat.exists_eq_add_of_le (show count ≤ earlier by omega)
      have apart := spans.apart
      obtain ⟨last, rfl⟩ := Nat.exists_eq_add_of_le (show count ≤ stop by omega)
      exact found.leftmost place (by omega) (by omega) last (spans_drop.mpr spans)
    · intro earlier before spans
      have apart := spans.apart
      obtain ⟨last, rfl⟩ := Nat.exists_eq_add_of_le (show count ≤ earlier by omega)
      exact found.shortest last (by omega) (spans_drop.mpr spans)
  · intro found
    have ahead := found.ahead
    refine ⟨spans_drop.mpr found.spans, by omega, ?_, ?_⟩
    · intro earlier past before stop spans
      exact found.leftmost (count + earlier) (by omega) (by omega) _ (spans_drop.mp spans)
    · intro earlier before spans
      exact found.shortest (count + earlier) (by omega) (spans_drop.mp spans)

-----------------------------------------------------------------------------------------
-- All tags
-----------------------------------------------------------------------------------------

/-- A tag is found behind the place where the searches start, by induction on the searches. -/
theorem IsTag.ahead (tag : IsTag cs origin start stop) : origin ≤ start := by
  induction tag with
  | first found => exact found.ahead
  | later found _ ih =>
      have ahead := found.ahead
      have apart := found.spans.apart
      omega

theorem IsTag.spans (tag : IsTag cs origin start stop) : Spans cs start stop := by
  induction tag with
  | first found => exact found.spans
  | later _ _ ih => exact ih

/-- The tags of the rest of a text are those that are found from there on, by induction on the searches. -/
theorem isTag_drop {count : Nat}
    : IsTag (cs.drop count) origin start stop
      ↔ IsTag cs (count + origin) (count + start) (count + stop) := by
  constructor
  · intro tag
    induction tag with
    | first found => exact .first (finds_drop.mp found)
    | later found _ ih => exact .later (finds_drop.mp found) ih
  · intro tag
    generalize begins : count + origin = first at tag
    generalize opens : count + start = opening at tag
    generalize closes : count + stop = closing at tag
    induction tag generalizing origin with
    | first found =>
        subst begins opens closes
        exact .first (finds_drop.mpr found)
    | @later _ next last _ _ found _ ih =>
        have ahead := found.ahead
        have apart := found.spans.apart
        obtain ⟨place, rfl⟩ := Nat.exists_eq_add_of_le (show count ≤ next by omega)
        obtain ⟨behind, rfl⟩ := Nat.exists_eq_add_of_le (show count ≤ last by omega)
        subst begins
        exact .later (finds_drop.mpr found) (ih rfl opens closes)

theorem inTagFrom_drop {count : Nat}
    : InTagFrom (cs.drop count) origin place ↔ InTagFrom cs (count + origin) (count + place) := by
  constructor
  · intro inside
    obtain ⟨start, stop, tag, past, before⟩ := inside
    exact ⟨count + start, count + stop, isTag_drop.mp tag, by omega, by omega⟩
  · intro inside
    obtain ⟨start, stop, tag, past, before⟩ := inside
    have ahead := tag.ahead
    have apart := tag.spans.apart
    obtain ⟨first, rfl⟩ := Nat.exists_eq_add_of_le (show count ≤ start by omega)
    obtain ⟨last, rfl⟩ := Nat.exists_eq_add_of_le (show count ≤ stop by omega)
    exact ⟨first, last, isTag_drop.mpr tag, by omega, by omega⟩

/-- Where no tag opens, all tags are found from the next place on. -/
theorem inTagFrom_succ_iff (closed : ∀ stop, ¬ Spans cs origin stop)
    : InTagFrom cs origin place ↔ InTagFrom cs (origin + 1) place := by
  have same : ∀ start stop, IsTag cs origin start stop ↔ IsTag cs (origin + 1) start stop := by
    intro start stop
    constructor
    · intro tag
      cases tag with
      | first found => exact .first ((finds_succ_iff closed).mp found)
      | later found behind => exact .later ((finds_succ_iff closed).mp found) behind
    · intro tag
      cases tag with
      | first found => exact .first ((finds_succ_iff closed).mpr found)
      | later found behind => exact .later ((finds_succ_iff closed).mpr found) behind
  simp only [InTagFrom, same]

/-- Behind a tag, the tags are those found from its end on. -/
theorem inTagFrom_iff_of_finds (found : Finds cs origin start stop)
    : InTagFrom cs origin place
      ↔ (start ≤ place ∧ place < stop) ∨ InTagFrom cs stop place := by
  constructor
  · intro inside
    obtain ⟨first, last, tag, past, before⟩ := inside
    cases tag with
    | first again =>
        obtain ⟨rfl, rfl⟩ := found.unique again
        exact Or.inl ⟨past, before⟩
    | later again behind =>
        obtain ⟨rfl, rfl⟩ := found.unique again
        exact Or.inr ⟨first, last, behind, past, before⟩
  · intro inside
    rcases inside with here | behind
    · exact ⟨start, stop, .first found, here.1, here.2⟩
    · obtain ⟨first, last, tag, past, before⟩ := behind
      exact ⟨first, last, .later found tag, past, before⟩

-----------------------------------------------------------------------------------------
-- Marks
-----------------------------------------------------------------------------------------

/-- Marking keeps the characters, by induction on the text. -/
theorem map_fst_markTags (here : Place) (cs : List Char) : (markTags here cs).map Prod.fst = cs := by
  induction cs generalizing here with
  | nil => rfl
  | cons c rest ih => simp [markTags, ih]

theorem length_markTags (here : Place) (cs : List Char) : (markTags here cs).length = cs.length := by
  rw [← List.length_map Prod.fst, map_fst_markTags]

theorem closesTag_iff : closesTag cs = true ↔ ['%', '>'] <+: cs := by
  unfold closesTag
  split
  · simp
  · rename_i other
    simp only [Bool.false_eq_true, false_iff]
    intro closed
    obtain ⟨rest, rfl⟩ := closed
    exact other rest rfl

/-- A tag opens at the start of a text when a closing mark stands somewhere behind the opening one. -/
theorem opensTag_iff : opensTag cs = true ↔ ∃ stop, Spans cs 0 stop := by
  unfold opensTag
  split
  · rename_i rest
    rw [contains_iff]
    constructor
    · intro closed
      obtain ⟨body, after, rfl⟩ := closed
      exact ⟨body.length + 4, by simp, by simp, by omega⟩
    · intro spans
      obtain ⟨stop, spans⟩ := spans
      have apart := spans.apart
      have closed := spans.closed
      rw [show stop - 2 = stop - 4 + 2 by omega] at closed
      exact closed.isInfix.trans (List.drop_suffix (stop - 4) rest).isInfix
  · rename_i other
    simp only [Bool.false_eq_true, false_iff]
    intro spans
    obtain ⟨stop, spans⟩ := spans
    obtain ⟨rest, opened⟩ := spans.opened
    exact other rest (by simpa using opened.symm)

/-- Inside a tag everything is marked up to the first closing mark, by induction on how far that is. -/
theorem markTags_inside {count : Nat} (closed : ['%', '>'] <+: cs.drop count)
    (first : ∀ earlier < count, ¬ ['%', '>'] <+: cs.drop earlier)
    : markTags .inside cs
      = (cs.take (count + 2)).map (·, true) ++ markTags .outside (cs.drop (count + 2)) := by
  induction count generalizing cs with
  | zero =>
      obtain ⟨rest, rfl⟩ := closed
      simp [markTags, Place.step, closesTag]
  | succ count ih =>
      cases cs with
      | nil => simp at closed
      | cons c rest =>
          have goesOn : closesTag (c :: rest) = false := by
            rw [Bool.eq_false_iff, ne_eq, closesTag_iff]
            exact first 0 (by omega)
          have later : markTags .inside rest
              = (rest.take (count + 2)).map (·, true) ++ markTags .outside (rest.drop (count + 2)) :=
            ih closed fun earlier before => first (earlier + 1) (by omega)
          simp [markTags, Place.step, goesOn, later]

/-- A tag at the start of a text is marked as a whole, and what is behind it like a text of its own. -/
theorem markTags_of_finds (found : Finds cs 0 0 stop)
    : markTags .outside cs = (cs.take stop).map (·, true) ++ markTags .outside (cs.drop stop) := by
  have opens : opensTag cs = true := opensTag_iff.mpr ⟨stop, found.spans⟩
  obtain ⟨rest, opened⟩ := found.spans.opened
  obtain ⟨count, rfl⟩ := Nat.exists_eq_add_of_le (show 4 ≤ stop from found.spans.apart)
  have whole : cs = '<' :: '%' :: rest := by simpa using opened.symm
  subst whole
  have closed : ['%', '>'] <+: rest.drop count := by
    have mark := found.spans.closed
    rwa [show 4 + count - 2 = count + 2 by omega] at mark
  have inside := markTags_inside closed fun earlier before closes =>
    found.shortest (earlier + 4) (by omega) ⟨by simp, closes, by omega⟩
  rw [show 4 + count = count + 2 + 2 by omega]
  simp [markTags, Place.step, opens, inside]

/-- Where no tag opens, a character is not marked. -/
theorem markTags_of_not_spans {c : Char} {rest : List Char} (closed : ∀ stop, ¬ Spans (c :: rest) 0 stop)
    : markTags .outside (c :: rest) = (c, false) :: markTags .outside rest := by
  have plain : opensTag (c :: rest) = false := by
    rw [Bool.eq_false_iff, ne_eq, opensTag_iff]
    simpa using closed
  simp [markTags, Place.step, plain]

/-- Exactly the places that lie in a tag are marked, by induction on the length of the text: a search either
moves on by one place or takes a whole tag.
-/
theorem markTags_inTag {c : Char} {mark : Bool} (found : (markTags .outside cs)[place]? = some (c, mark))
    : mark = true ↔ InTag cs place := by
  induction length : cs.length using Nat.strongRecOn generalizing cs place with
  | _ _ ih =>
      subst length
      by_cases opens : ∃ stop, Spans cs 0 stop
      · obtain ⟨stop, tag⟩ := exists_finds_of_spans opens
        have apart := tag.spans.apart
        have within := tag.spans.le_length
        rw [markTags_of_finds tag] at found
        rw [InTag, inTagFrom_iff_of_finds tag]
        by_cases inside : place < stop
        · rw [List.getElem?_append_left (by simp; omega)] at found
          rw [List.getElem?_map, Option.map_eq_some_iff] at found
          obtain ⟨_, _, told⟩ := found
          have marked : true = mark := congrArg Prod.snd told
          simp [← marked, inside]
        · obtain ⟨further, rfl⟩ := Nat.exists_eq_add_of_le (Nat.le_of_not_lt inside)
          have size : ((cs.take stop).map (·, true)).length = stop := by simp [within]
          rw [List.getElem?_append_right (by omega), size, Nat.add_sub_cancel_left] at found
          rw [ih _ (by simp; omega) found rfl, InTag, inTagFrom_drop]
          simp [inside]
      · have closed : ∀ stop, ¬ Spans cs 0 stop := fun stop spans => opens ⟨stop, spans⟩
        cases cs with
        | nil => simp [markTags] at found
        | cons first rest =>
            rw [markTags_of_not_spans closed] at found
            rw [InTag, inTagFrom_succ_iff closed]
            cases place with
            | zero =>
                have plain : mark = false := by simpa using (congrArg Prod.snd (Option.some.inj found)).symm
                simp only [plain, Bool.false_eq_true, false_iff]
                intro inside
                obtain ⟨start, stop, tag, past, _⟩ := inside
                have ahead := tag.ahead
                omega
            | succ place =>
                rw [ih rest.length (by simp) (by simpa using found) rfl, InTag]
                have moved : InTagFrom ((first :: rest).drop 1) 0 place
                    ↔ InTagFrom (first :: rest) (1 + 0) (1 + place) :=
                  inTagFrom_drop
                rwa [Nat.add_comm 1 place] at moved

/-- A blanked text has a space at the places in a tag that are no line feed, and else what was there. -/
theorem getElem?_blankTags {c : Char} (found : cs[place]? = some c)
    : ∃ out, (blankTags cs)[place]? = some out
      ∧ (InTag cs place → out = if c = '\n' then '\n' else ' ')
      ∧ (¬ InTag cs place → out = c) := by
  have inside : place < (markTags .outside cs).length := by
    rw [length_markTags]
    exact (List.getElem?_eq_some_iff.mp found).1
  obtain ⟨⟨other, mark⟩, marked⟩ : ∃ marked, (markTags .outside cs)[place]? = some marked :=
    ⟨_, List.getElem?_eq_getElem inside⟩
  have same : other = c := by
    have kept : ((markTags .outside cs).map Prod.fst)[place]? = some other := by simp [marked]
    rw [map_fst_markTags, found] at kept
    exact (Option.some.inj kept).symm
  subst same
  refine ⟨blank (other, mark), by simp [blankTags, marked], ?_, ?_⟩
  · intro tag
    have isMarked : mark = true := (markTags_inTag marked).mpr tag
    by_cases feed : other = '\n' <;> simp [blank, isMarked, feed]
  · intro plain
    have isPlain : mark = false := Bool.eq_false_iff.mpr (mt (markTags_inTag marked).mp plain)
    simp [blank, isPlain]

/-- A text without a complete tag is not changed. -/
theorem blankTags_of_not_spans (plain : ∀ start stop, ¬ Spans cs start stop) : blankTags cs = cs := by
  apply List.ext_getElem?
  intro place
  cases found : cs[place]? with
  | none => simpa [blankTags, length_markTags] using found
  | some c =>
      obtain ⟨out, blanked, _, same⟩ := getElem?_blankTags found
      rw [blanked, same]
      intro inside
      obtain ⟨start, stop, tag, _⟩ := inside
      exact plain start stop tag.spans

end PatchReview.Template
