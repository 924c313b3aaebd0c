import PatchReview.Config.Merge
import PatchReview.Config.Resolver
import PatchReview.Linter.Engine
import PatchReview.Linter.Kind
import PatchReview.Patch.ChangedFile
import PatchReview.Review.Store
import PatchReview.Settings.Basic
import PatchReview.Template

/-!
Running a linter on a changed file: its configuration is put together, its engine reads the file,
and what the engine reports about changed lines becomes a review, which is complete and kept.
-/

namespace PatchReview

variable {σ : Type}

/-- What a review reaches outside of itself: the host, the engine's program and the clock, which
counts seconds. -/
structure Outside (σ : Type) where
  host : Host σ
  runEngine : Invocation Datum → StateM σ Outcome
  now : StateM σ Int

/-- A state together with the reviews that are kept. -/
structure Session (σ : Type) where
  outside : σ
  store : Store FileReview

/-- Works on the state outside of a session. -/
def Attempt.outside {α : Type} (attempt : Attempt σ α) : Attempt (Session σ) α :=
  attempt.within Session.outside fun state session => { session with outside := state }

/-- The time, within a session. -/
def Outside.time (outside : Outside σ) : StateM (Session σ) Int := do
  let (seconds, state) := outside.now.run (← get).outside
  modify fun session => { session with outside := state }
  return seconds

/-- A linter for one build. It may have a pointer document to look for configurations with; without
one its configuration is empty. -/
structure Linter where
  kind : LinterKind
  switches : Switches
  build : Build
  engine : Engine
  pointer : Option Json

namespace Linter

/-- The engine that settings describe. -/
def engineOf (lint : LintSettings) : Engine :=
  ⟨lint.executable, lint.timeout, false, Engine.usualNesting⟩

/-- Whether the linter is switched on, for which its name has to be a text. -/
def enabled? (linter : Linter) : Except Failure Bool := do
  return linter.switches.isEnabled (← linter.kind.name.textFor "lower")

/-- Whether the linter claims a file and is switched on. Only of one that claims it the second is
asked. -/
def wants? (linter : Linter) (filename : Json) : Except Failure Bool := do
  if ← linter.kind.claims? filename then linter.enabled? else return false

/-- The linter's configuration: that of the owner with that of the repository written over it. -/
def config (linter : Linter) (host : Host σ) : Attempt σ Json.Fields := do
  match linter.pointer with
  | none => return []
  | some pointer =>
      let name := linter.kind.name
      let ofOwner ← Config.ofOwner host pointer linter.build.owner name linter.kind.legacyFiles
      let ofRepository ← Config.ofRepository host linter.build linter.switches name
      return Config.merge ofOwner ofRepository

/-- What the engine finds in a file. -/
def findings (linter : Linter) (outside : Outside σ) (file : ChangedFile)
    : Attempt σ (List Finding) := do
  let source ← Attempt.ofExcept (Template.prepare file.content file.filename)
  let config ← linter.config outside.host
  linter.engine.lint outside.runEngine source (.obj config)

/-- Reviews a file. The review is kept when it is complete. -/
def review (linter : Linter) (outside : Outside σ) (file : ChangedFile)
    : Attempt (Session σ) FileReview := do
  let found ← (linter.findings outside file).outside
  let started := FileReview.start (.str file.filename) linter.kind.name
  let review ← Attempt.ofExcept
    ((started.addFindings file.positionFor found).mapError .refused)
  let now ← Attempt.ofState outside.time
  let kept := (review.complete now).persist
  modify fun session => { session with store := session.store.save kept.key kept }
  return kept

/-- Reviews a file if the linter wants it. -/
def reviewWanted (linter : Linter) (outside : Outside σ) (file : ChangedFile)
    : Attempt (Session σ) (Option FileReview) := do
  if ← Attempt.ofExcept (linter.wants? (.str file.filename)) then
    some <$> linter.review outside file
  else return none

/-- Reviews a file with every linter that wants it, in order: whether one does is asked when those
before it are done. Removed files have no reviews. -/
def reviewAll (outside : Outside σ) (linters : List Linter) (file : ChangedFile)
    : Attempt (Session σ) (List FileReview) :=
  if file.isRemoved then return []
  else List.reduceOption <$> linters.mapM fun linter => linter.reviewWanted outside file

/-- The linters of a registry for a build. -/
def forBuild (registry : Registry) (engine : Engine) (pointer : Option Json)
    (switches : Switches) (build : Build) : List Linter :=
  registry.map fun kind => ⟨kind, switches, build, engine, pointer⟩

end Linter

end PatchReview
