import PatchReview.Failure

/-!
The file system that settings are kept in and logs are written to. What is in it is not known: a
file system tells of each path what happens there.
-/

namespace PatchReview

/-- A path as a setting has it. -/
inductive FilePath where
  | text (path : String)
  | bytes (path : List UInt8)
  deriving DecidableEq, Repr

/-- A file system as it is at one moment. -/
structure FileSystem where
  /-- Opens a file to append to, which is made where there is none. -/
  append : FilePath → Except Failure Unit
  /-- The text of a file, if there is one. -/
  read? : String → Except Failure (Option String)

end PatchReview
