import Mathlib.Data.List.DropRight
import PatchReview.Text.Blank

/-! Trimming at the end keeps a line up to its last character that shows, and a trimmed text has no blanks around
it.
-/

namespace PatchReview.Text

/-- A line ends at a column when that is the last one with a character that shows. -/
structure EndsAt (cs : List Char) (column : Nat) : Prop where
  shows : ∃ c, cs[column]? = some c ∧ isBlank c = false
  last : ∀ later c, column < later → cs[later]? = some c → isBlank c = true

theorem trimRight_prefix (cs : List Char) : trimRight cs <+: cs :=
  List.rdropWhile_prefix isBlank cs

theorem trimRight_concat (cs : List Char) (c : Char)
    : trimRight (cs ++ [c]) = if isBlank c then trimRight cs else cs ++ [c] :=
  List.rdropWhile_concat isBlank cs c

/-- Trimming goes down to a length when all characters behind that are blank, by induction on the line from
its end.
-/
theorem length_trimRight_le_iff {cs : List Char} {length : Nat}
    : (trimRight cs).length ≤ length
      ↔ ∀ column c, length ≤ column → cs[column]? = some c → isBlank c = true := by
  induction cs using List.reverseRecOn with
  | nil => simp [trimRight]
  | append_singleton cs last ih =>
      rw [trimRight_concat]
      cases blank : isBlank last with
      | true =>
          rw [if_pos rfl, ih]
          constructor
          · intro behind column c past found
            rcases Nat.lt_trichotomy column cs.length with inside | rfl | outside
            · exact behind column c past (by rwa [List.getElem?_append_left inside] at found)
            · simp at found
              rwa [← found]
            · have within := (List.getElem?_eq_some_iff.mp found).1
              simp at within
              omega
          · intro behind column c past found
            have inside : column < cs.length := (List.getElem?_eq_some_iff.mp found).1
            exact behind column c past (by rwa [List.getElem?_append_left inside])
      | false =>
          rw [if_neg Bool.false_ne_true]
          constructor
          · intro short column c past found
            have inside := (List.getElem?_eq_some_iff.mp found).1
            omega
          · intro behind
            by_contra long
            have found : (cs ++ [last])[cs.length]? = some last := by simp
            have blankToo := behind cs.length last (by simp at long; omega) found
            simp [blank] at blankToo

/-- Behind a trimmed line there are only blanks. -/
theorem isBlank_of_length_trimRight_le {cs : List Char} {column : Nat} {c : Char}
    (past : (trimRight cs).length ≤ column) (found : cs[column]? = some c)
    : isBlank c = true :=
  length_trimRight_le_iff.mp le_rfl column c past found

/-- A line ends where its trimmed part does. -/
theorem endsAt_iff {cs : List Char} {column : Nat}
    : EndsAt cs column ↔ (trimRight cs).length = column + 1 := by
  constructor
  · intro ends
    obtain ⟨c, found, shows⟩ := ends.shows
    have atMost : (trimRight cs).length ≤ column + 1 :=
      length_trimRight_le_iff.mpr fun later c past found => ends.last later c past found
    have atLeast : ¬ (trimRight cs).length ≤ column := by
      intro short
      have blank := isBlank_of_length_trimRight_le short found
      simp [shows] at blank
    omega
  · intro length
    refine ⟨?_, fun later c past found => isBlank_of_length_trimRight_le (by omega) found⟩
    by_contra none
    have short : (trimRight cs).length ≤ column := by
      apply length_trimRight_le_iff.mpr
      intro later c past found
      rcases Nat.eq_or_lt_of_le past with rfl | behind
      · by_contra shows
        exact none ⟨c, found, Bool.eq_false_iff.mpr shows⟩
      · exact isBlank_of_length_trimRight_le (by omega) found
    omega

/-- A trimmed line does not end with a blank. -/
theorem isBlank_getLast?_trimRight {cs : List Char} {c : Char}
    (last : (trimRight cs).getLast? = some c)
    : isBlank c = false := by
  have nonempty : cs.rdropWhile isBlank ≠ [] := by
    intro empty
    have none : (cs.rdropWhile isBlank).getLast? = some c := last
    simp [empty] at none
  have shows := List.rdropWhile_last_not isBlank cs nonempty
  have same : (cs.rdropWhile isBlank).getLast? = some c := last
  rw [List.getLast?_eq_some_getLast nonempty, Option.some_inj] at same
  rw [← same]
  exact Bool.eq_false_iff.mpr shows

/-- A text that does not start with a blank does not start with one either once it is trimmed at the end, by
cases on whether anything is left.
-/
theorem trimLeft_trimRight_trimLeft (cs : List Char)
    : trimLeft (trimRight (trimLeft cs)) = trimRight (trimLeft cs) := by
  cases left : trimRight (trimLeft cs) with
  | nil => rfl
  | cons c rest =>
      obtain ⟨behind, whole⟩ := trimRight_prefix (trimLeft cs)
      rw [left, List.cons_append] at whole
      have shows := List.head?_dropWhile_not isBlank cs
      rw [← trimLeft, ← whole] at shows
      exact List.dropWhile_cons_of_neg (Bool.eq_false_iff.mp shows)

/-- A trimmed text has no blanks around it. -/
theorem trim_trim (s : String) : trim (trim s) = trim s := by
  have right := List.rdropWhile_idempotent isBlank (trimLeft s.toList)
  rw [trim, trim, String.toList_ofList, trimLeft_trimRight_trimLeft]
  exact congrArg String.ofList right

end PatchReview.Text
