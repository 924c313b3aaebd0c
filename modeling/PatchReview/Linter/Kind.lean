import PatchReview.Json.Access
import PatchReview.Text.Lines

/-!
The linters there are: each claims files by the endings of their names and knows the
configuration files of old. A registry holds them in the order in which they were added.
-/

namespace PatchReview

/-- A linter. Its identity sets it apart from others of the same name. What it is called, the
endings and the files are as whoever adds it gives them. -/
structure LinterKind where
  identity : String
  name : Json
  suffixes : List Json
  legacyFiles : List Json

namespace LinterKind

/-- The linter for CoffeeScript, also in templates. -/
def coffeeScript : LinterKind where
  identity := "default"
  name := .str "coffeescript"
  suffixes := [.str ".coffee", .str ".coffee.erb", .str ".coffee.js"]
  legacyFiles := [.str "coffeelint.json"]

/-- Whether a name has one of some endings. The name, and the endings before that one, have to be
texts. -/
def hasEnding (filename : Json) : List Json → Except Failure Bool
  | [] => .ok false
  | suffix :: rest => do
      let name ← filename.textFor "endswith"
      match suffix with
      | .str suffix =>
          if Text.endsWith suffix.toList name.toList then return true else hasEnding filename rest
      | value => throw (.misuse (.ending value.kind))

/-- Whether a linter claims a file, or what is wrong with its name or with the endings. -/
def claims? (kind : LinterKind) (filename : Json) : Except Failure Bool :=
  hasEnding filename kind.suffixes

end LinterKind

/-- Linters in order. -/
abbrev Registry := List LinterKind

namespace Registry

/-- The registry of the linters that come with the library. -/
def standard : Registry := [.coffeeScript]

/-- Adds a linter unless it is there. -/
def register (registry : Registry) (kind : LinterKind) : Registry :=
  if registry.any (·.identity == kind.identity) then registry else registry ++ [kind]

/-- The first linter of a name. -/
def named? (registry : Registry) (name : Json) : Option LinterKind :=
  registry.find? (·.name.same name)

/-- The linters that claim a file. -/
def claiming (registry : Registry) (filename : Json) : Except Failure (List LinterKind) :=
  registry.filterM (·.claims? filename)

end Registry

end PatchReview
