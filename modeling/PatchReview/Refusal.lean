/-!
Why values are not admitted: the rules that owners, builds, changed files, findings and settings
have to keep, each with its words.
-/

namespace PatchReview

/-- A rule that a value breaks. -/
inductive Refusal where
  | ownerName
  | configRepository
  | repository
  | commit
  | pullRequestNumber
  | lineNumber
  | lineCount
  | patchPosition
  | filename
  /-- A status that is none of the four, with its text. -/
  | status (text : String)
  /-- A status of a request that is none of the four. -/
  | requestStatus
  | findingLine
  | findingMessages
  | violationPosition
  | reportedNumber
  | token
  /-- Settings that break several rules. -/
  | settings (complaints : List String)
  deriving DecidableEq, Repr

/-- The words for a refusal. -/
def Refusal.text : Refusal → String
  | .ownerName => "Owner name cannot be empty"
  | .configRepository => "Config repo must be in format 'owner/repo'"
  | .repository => "Repository must be in format 'owner/repo'"
  | .commit => "Commit SHA cannot be empty"
  | .pullRequestNumber => "PR number must be positive"
  | .lineNumber => "Line numbers must be non-negative"
  | .lineCount => "Line counts must be non-negative"
  | .patchPosition => "Patch positions must be positive"
  | .filename => "Filename cannot be empty"
  | .status text => "Invalid status: " ++ text
  | .requestStatus => "Invalid status"
  | .findingLine => "Line number must be positive"
  | .findingMessages => "A finding needs at least one message"
  | .violationPosition => "Patch position must be positive"
  | .reportedNumber => "Line numbers and positions must be positive"
  | .token => "GitHub token is required"
  | .settings complaints =>
      "Configuration validation failed: " ++ "; ".intercalate complaints

end PatchReview
