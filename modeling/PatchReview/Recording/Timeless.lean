import PatchReview.Json.Basic
import PatchReview.Text.Digit

/-!
Answers without the times in them. What is left depends on the recording alone, so that two runs
over one recording can be compared.
-/

namespace PatchReview

/-- What stands for a time. -/
def Recording.timeMark : String := "<time>"

/-- A name without the number at its end, which is a time. -/
def Recording.withoutTime (name : String) : String :=
  let reversed := name.toList.reverse
  let digits := reversed.takeWhile Char.isDigit
  match digits, reversed.drop digits.length with
  | _ :: _, '_' :: rest => String.ofList rest.reverse ++ "_" ++ timeMark
  | _, _ => name

/-- Takes a number with two digits after its point, and the unit of seconds at the end of a line.
Digits are those of every script. -/
def Recording.takeSeconds? (cs : List Char) : Option (List Char) :=
  match cs.takeWhile Text.isDigit, cs.dropWhile Text.isDigit with
  | _ :: _, '.' :: tenth :: hundredth :: 's' :: left =>
      if Text.isDigit tenth && Text.isDigit hundredth && left.head?.all (· == '\n') then some left
      else none
  | _, _ => none

/-- Replaces numbers of seconds at the ends of lines, which the word before them tells. -/
def Recording.dropSeconds : Nat → List Char → List Char
  | 0, cs => cs
  | _, [] => []
  | steps + 1, c :: rest =>
      match c :: rest with
      | 'i' :: 'n' :: ' ' :: more =>
          match takeSeconds? more with
          | some left => "in ".toList ++ timeMark.toList ++ 's' :: dropSeconds steps left
          | none => c :: dropSeconds steps rest
      | _ => c :: dropSeconds steps rest

/-- A text without numbers of seconds. -/
def Recording.withoutSeconds (text : String) : String :=
  String.ofList (dropSeconds text.length text.toList)

namespace Json

mutual

/-- An answer without the times in it. -/
def timeless : Json → Json
  | .arr items => .arr (timelessItems items)
  | .obj fields => .obj (timelessFields fields)
  | value => value

/-- Items without the times in them. -/
def timelessItems : List Json → List Json
  | [] => []
  | x :: xs => timeless x :: timelessItems xs

/-- Fields without the times in them. -/
def timelessFields : List (String × Json) → List (String × Json)
  | [] => []
  | (name, x) :: xs =>
      let value := match name, x with
        | "completed_at", .null => .null
        | "completed_at", _ | "processing_time", _ => .str Recording.timeMark
        | "review_id", .str s => .str (Recording.withoutTime s)
        | _, _ => timeless x
      (name, value) :: timelessFields xs

end

end Json

end PatchReview
