/-!
Blank characters and trimming. Blank means white space of any script, including the
information separators U+001C to U+001F, but not the zero-width space.
-/

namespace PatchReview.Text

/-- White space of any script. -/
def isBlank (c : Char) : Bool :=
  let n := c.toNat
  (9 ≤ n && n ≤ 13) || (0x1C ≤ n && n ≤ 0x20) || n == 0x85 || n == 0xA0 || n == 0x1680
    || (0x2000 ≤ n && n ≤ 0x200A) || n == 0x2028 || n == 0x2029 || n == 0x202F || n == 0x205F
    || n == 0x3000

/-- Drops the blanks at the start. -/
def trimLeft (cs : List Char) : List Char := cs.dropWhile isBlank

/-- Drops the blanks at the end. -/
def trimRight (cs : List Char) : List Char := (cs.reverse.dropWhile isBlank).reverse

/-- Drops the blanks at both ends. -/
def trim (s : String) : String := String.ofList (trimRight (trimLeft s.toList))

/-- A text without a character that shows. -/
def isBlankText (s : String) : Bool := s.toList.all isBlank

end PatchReview.Text
