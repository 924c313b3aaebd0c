import PatchReview.Patch.Chunk
import PatchReview.Patch.Header
import PatchReview.Text.Lines

/-!
Patches as hosts deliver them. The line below the first chunk header has position one, and every
later line of the patch, further headers included, adds one. Positions are kept for the lines that
a chunk adds, under their numbers in the new file.
-/

namespace PatchReview.Patch

open PatchReview.Text

/-- A line of text. -/
abbrev Line := List Char

/-- What a line of a chunk is, by its first character. A line that is none of the others is
context, also an empty one. -/
inductive Row where
  | added
  | removed
  | note
  | context
  deriving DecidableEq, Repr

/-- The kind of a line of a chunk. -/
def Row.ofLine : Line → Row
  | '+' :: _ => .added
  | '-' :: _ => .removed
  | '\\' :: _ => .note
  | _ => .context

/-- Whether a row takes up a line of the new file. -/
def Row.isInNewFile : Row → Bool
  | .added | .context => true
  | .removed | .note => false

/-- The added lines among rows with their positions, when the first row would have the number
`line` in the new file and stands at `position`. -/
def addedAt (line position : Int) : List Line → List (Int × Ordinal)
  | [] => []
  | row :: rows =>
      let kind := Row.ofLine row
      let next := if kind.isInNewFile then line + 1 else line
      let later := addedAt next (position + 1) rows
      if kind = .added then (line, .number position) :: later else later

/-- A chunk's header with the lines below it. -/
structure Section where
  header : Header
  rows : List Line

/-- Splits lines at the chunk headers: the lines above the first one, and the sections. -/
def sections : List Line → List Line × List Section
  | [] => ([], [])
  | line :: rest =>
      let (lead, later) := sections rest
      match Header.ofLine? line with
      | some header => ([], ⟨header, lead⟩ :: later)
      | none => (line :: lead, later)

/-- The chunk of a section whose first row stands at `position`. -/
def Section.chunk (part : Section) (position : Int) : Except Integer.Fault Chunk := do
  let oldStart ← Header.numberOf part.header.oldStart
  let oldLines ← Header.countOf part.header.oldLines
  let newStart ← Header.numberOf part.header.newStart
  let newLines ← Header.countOf part.header.newLines
  return {
    oldStart, oldLines, newStart, newLines
    content := String.ofList (joinLines part.rows)
    positions := addedAt newStart position part.rows }

/-- The chunks of sections, the first of whose rows stands at `position`. A header stands between
each two. -/
def chunksFrom (position : Int) : List Section → Except Integer.Fault (List Chunk)
  | [] => .ok []
  | part :: rest => do
      let chunk ← part.chunk position
      let later ← chunksFrom (position + part.rows.length + 1) rest
      return chunk :: later

/-- A line that says that binary files differ. -/
def isBinaryNotice : Line → Bool
  | [] => false
  | c :: rest =>
      let cs := c :: rest
      let saysSo := fun (start : String) =>
        startsWith start.toList cs && contains " differ".toList (cs.drop start.length)
      saysSo "Binary file " || saysSo "Binary files " || isBinaryNotice rest

/-- The chunks of a patch. A patch with a notice about binary files has none. -/
def parse (patch : String) : Except Integer.Fault (List Chunk) :=
  let lines := splitLines patch.toList
  if lines.any isBinaryNotice then .ok [] else chunksFrom 1 (sections lines).2

end PatchReview.Patch
