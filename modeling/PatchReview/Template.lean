import PatchReview.Failure
import PatchReview.Text.Blank
import PatchReview.Text.Lines

/-!
Template tags in source text, such as `<%= name %>`. They are blanked out before a linter reads
the text, so that lines and columns stay where they are; a line that ends in a tag is cut.
-/

namespace PatchReview.Template

open PatchReview.Text

/-- Where a character stands. The two characters that open and close a tag belong to it. -/
inductive Place where
  | outside
  /-- On the second character of an opening mark. -/
  | opening
  | inside
  /-- On the second character of a closing mark. -/
  | closing
  deriving DecidableEq, Repr

/-- Whether a tag opens here: its opening mark is followed by a closing mark somewhere. -/
def opensTag : List Char → Bool
  | '<' :: '%' :: rest => contains ['%', '>'] rest
  | _ => false

/-- Whether a closing mark stands here. -/
def closesTag : List Char → Bool
  | '%' :: '>' :: _ => true
  | _ => false

/-- The place of the character after `cs`'s first one, which stands at `place`, and whether that
first character belongs to a tag. -/
def Place.step (place : Place) (cs : List Char) : Bool × Place :=
  match place with
  | .outside => if opensTag cs then (true, .opening) else (false, .outside)
  | .opening => (true, .inside)
  | .inside => if closesTag cs then (true, .closing) else (true, .inside)
  | .closing => (true, .outside)

/-- Each character with whether it belongs to a tag. A tag ends at the first closing mark. -/
def markTags (place : Place) : List Char → List (Char × Bool)
  | [] => []
  | c :: rest =>
      let (isTag, next) := place.step (c :: rest)
      (c, isTag) :: markTags next rest

/-- A character of a tag becomes a space; line ends stay. -/
def blank (marked : Char × Bool) : Char := if marked.2 && marked.1 != '\n' then ' ' else marked.1

/-- A text with its tags blanked out. -/
def blankTags (cs : List Char) : List Char := (markTags .outside cs).map blank

/-- A blanked line, cut after its last character that shows if the line itself goes on after it. -/
def cutLine (line blanked : List Char) : List Char :=
  if (trimRight blanked).length < (trimRight line).length then trimRight blanked else blanked

/-- A text without its tags, in which all else keeps its line and column. -/
def stripTags (text : String) : String :=
  let cs := text.toList
  String.ofList (joinLines
    (List.zipWith cutLine (splitLines cs) (splitLines (blankTags cs))))

/-- The ending of the names of templates. -/
def templateSuffix : String := ".erb"

/-- A content without its tags. It has to be a text. -/
def strip : Json → Except Failure Json
  | .str text => .ok (.str (stripTags text))
  | value => .error (.misuse (.search value.kind))

/-- What a linter reads for a file: templates lose their tags, and all else is left as it is. -/
def prepare (content : Json) (filename : String) : Except Failure Json :=
  if endsWith templateSuffix.toList filename.toList then strip content else .ok content

end PatchReview.Template
