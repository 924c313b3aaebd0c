/-!
Lines, separated by line feeds alone. Joining the lines of a text gives the text back.
-/

namespace PatchReview.Text

/-- The lines of a text. A text without a line feed is one line, also when it is empty. -/
def splitLines : List Char → List (List Char)
  | [] => [[]]
  | c :: rest =>
      if c = '\n' then [] :: splitLines rest
      else match splitLines rest with
        | [] => [[c]]
        | line :: lines => (c :: line) :: lines

/-- Writes lines with a line feed between each two. -/
def joinLines : List (List Char) → List Char
  | [] => []
  | [line] => line
  | line :: lines => line ++ '\n' :: joinLines lines

/-- A text in which every line ends with a line feed alone, carriage returns being line ends or
parts of them. -/
def plainBreaks : List Char → List Char
  | [] => []
  | '\r' :: '\n' :: rest => '\n' :: plainBreaks rest
  | '\r' :: rest => '\n' :: plainBreaks rest
  | c :: rest => c :: plainBreaks rest

/-- There is always a first line. -/
theorem splitLines_ne_nil (cs : List Char) : splitLines cs ≠ [] := by
  cases cs with
  | nil => simp [splitLines]
  | cons c rest =>
      unfold splitLines
      split
      · simp
      · split <;> simp

/-- Joining undoes splitting. -/
theorem joinLines_splitLines (cs : List Char) : joinLines (splitLines cs) = cs := by
  induction cs with
  | nil => rfl
  | cons c rest ih =>
      unfold splitLines
      split
      next h =>
        subst h
        cases hs : splitLines rest with
        | nil => exact absurd hs (splitLines_ne_nil rest)
        | cons line lines =>
            rw [hs] at ih
            simp [joinLines, ih]
      next =>
        cases hs : splitLines rest with
        | nil => exact absurd hs (splitLines_ne_nil rest)
        | cons line lines =>
            rw [hs] at ih
            cases lines <;> simp_all [joinLines]

/-- Whether `needle` begins a text. -/
def startsWith : List Char → List Char → Bool
  | [], _ => true
  | _ :: _, [] => false
  | n :: needle, c :: cs => n == c && startsWith needle cs

/-- Whether `needle` stands somewhere in a text. -/
def contains (needle : List Char) : List Char → Bool
  | [] => startsWith needle []
  | c :: cs => startsWith needle (c :: cs) || contains needle cs

/-- Whether `tail` ends a text. -/
def endsWith (tail cs : List Char) : Bool := startsWith tail.reverse cs.reverse

end PatchReview.Text
