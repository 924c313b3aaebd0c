import Mathlib.Algebra.GroupWithZero.Nat
import Mathlib.Data.List.Forall2
import PatchReview.Text.Lines

/-! Lines and searches in texts, against the relations between lists that they decide. -/

namespace PatchReview.Text

-----------------------------------------------------------------------------------------
-- Splitting and joining
-----------------------------------------------------------------------------------------

/-- A line without a line feed is the first line of what goes on behind it, by induction on the
line.
-/
theorem splitLines_append {line : List Char} (plain : '\n' ∉ line) (rest : List Char)
    : splitLines (line ++ '\n' :: rest) = line :: splitLines rest := by
  induction line with
  | nil => simp [splitLines]
  | cons c tail ih =>
      have head : c ≠ '\n' := fun same => plain (by simp [same])
      have later := ih (fun member => plain (List.mem_cons_of_mem c member))
      simp [splitLines, head, later]

/-- A text without a line feed is its only line, by induction on the text. -/
theorem splitLines_of_not_mem {line : List Char} (plain : '\n' ∉ line)
    : splitLines line = [line] := by
  induction line with
  | nil => rfl
  | cons c tail ih =>
      have head : c ≠ '\n' := fun same => plain (by simp [same])
      have later := ih (fun member => plain (List.mem_cons_of_mem c member))
      simp [splitLines, head, later]

/-- Splitting undoes joining where there is a line and no line has a line feed, by induction on the
lines.
-/
theorem splitLines_joinLines {lines : List (List Char)} (nonempty : lines ≠ [])
    (plain : ∀ line ∈ lines, '\n' ∉ line)
    : splitLines (joinLines lines) = lines := by
  induction lines with
  | nil => contradiction
  | cons line rest ih =>
      have first := plain line (by simp)
      cases rest with
      | nil => simpa only [joinLines] using splitLines_of_not_mem first
      | cons next more =>
          have later := ih (by simp) (fun other member => plain other (List.mem_cons_of_mem line member))
          rw [joinLines, splitLines_append first, later]
          simp

/-- No line has a line feed, by induction on the text. -/
theorem not_mem_of_mem_splitLines {cs line : List Char} (member : line ∈ splitLines cs)
    : '\n' ∉ line := by
  induction cs generalizing line with
  | nil =>
      simp only [splitLines, List.mem_singleton] at member
      simp [member]
  | cons c rest ih =>
      unfold splitLines at member
      split at member
      · rcases List.mem_cons.mp member with rfl | later
        · simp
        · exact ih later
      · rename_i plain
        cases split : splitLines rest with
        | nil => exact absurd split (splitLines_ne_nil rest)
        | cons first lines =>
            simp only [split, List.mem_cons] at member ih
            rcases member with rfl | later
            · have firstPlain : '\n' ∉ first := ih (Or.inl rfl)
              simp [Ne.symm plain, firstPlain]
            · exact ih (Or.inr later)

/-- Texts with line feeds at the same places have lines of the same lengths, by induction on the texts. -/
theorem length_splitLines_congr {cs others : List Char}
    (alike : List.Forall₂ (fun c other => c = '\n' ↔ other = '\n') cs others)
    : List.Forall₂ (fun line other => line.length = other.length) (splitLines cs) (splitLines others) := by
  induction alike with
  | nil => exact .cons rfl .nil
  | @cons c other rest others here _ ih =>
      unfold splitLines
      by_cases feed : c = '\n'
      · rw [if_pos feed, if_pos (here.mp feed)]
        exact .cons rfl ih
      · rw [if_neg feed, if_neg (mt here.mpr feed)]
        generalize splitLines rest = lines at ih ⊢
        generalize splitLines others = otherLines at ih ⊢
        cases ih with
        | nil => exact .cons rfl .nil
        | cons first later => exact .cons (by simpa using first) later

/-- Where a line starts in the text of the lines: behind the earlier ones and a line feed for each. -/
def lineStart (lines : List (List Char)) (index : Nat) : Nat :=
  ((lines.take index).map fun line => line.length + 1).sum

/-- A line stands in the text of the lines from its start on, by induction on the lines. -/
theorem getElem?_joinLines {lines : List (List Char)} {index column : Nat} {part : List Char}
    (found : lines[index]? = some part) (inside : column < part.length)
    : (joinLines lines)[lineStart lines index + column]? = part[column]? := by
  induction lines generalizing index with
  | nil => simp at found
  | cons first rest ih =>
      cases index with
      | zero =>
          have here : first = part := by simpa using found
          subst here
          cases rest with
          | nil => simp [joinLines, lineStart]
          | cons next more => simp [joinLines, lineStart, List.getElem?_append_left inside]
      | succ index =>
          cases rest with
          | nil => simp at found
          | cons next more =>
              have later : (joinLines (next :: more))[lineStart (next :: more) index + column]?
                  = part[column]? :=
                ih (by simpa using found)
              have place : lineStart (first :: next :: more) (index + 1) + column
                  = first.length + 1 + (lineStart (next :: more) index + column) := by
                simp [lineStart]
                omega
              have spread : joinLines (first :: next :: more)
                  = (first ++ ['\n']) ++ joinLines (next :: more) := by
                simp [joinLines]
              rw [place, spread, List.getElem?_append_right (by simp), ← later]
              simp

/-- A line of a text stands in it from its start on. -/
theorem getElem?_splitLines {cs : List Char} {index column : Nat} {part : List Char}
    (found : (splitLines cs)[index]? = some part) (inside : column < part.length)
    : cs[lineStart (splitLines cs) index + column]? = part[column]? := by
  have place := getElem?_joinLines found inside
  rwa [joinLines_splitLines] at place

-----------------------------------------------------------------------------------------
-- Searching
-----------------------------------------------------------------------------------------

/-- A text starts with another one when that is a prefix of it, by induction on the latter. -/
theorem startsWith_iff {needle cs : List Char} : startsWith needle cs ↔ needle <+: cs := by
  induction needle generalizing cs with
  | nil => simp [startsWith]
  | cons n needle ih =>
      cases cs with
      | nil => simp [startsWith]
      | cons c cs => simp [startsWith, ih, List.cons_prefix_cons]

/-- A text contains another one when that is an infix of it, by induction on the text. -/
theorem contains_iff {needle cs : List Char} : contains needle cs ↔ needle <:+: cs := by
  induction cs with
  | nil => simp [contains, startsWith_iff]
  | cons c cs ih =>
      rw [contains, Bool.or_eq_true, startsWith_iff, ih, List.infix_cons_iff]

/-- A text ends with another one when that is a suffix of it. -/
theorem endsWith_iff {tail cs : List Char} : endsWith tail cs ↔ tail <:+ cs := by
  rw [endsWith, startsWith_iff, List.reverse_prefix]

end PatchReview.Text
