import PatchReview.Linter.Run
import PatchReview.Proofs.Config.Lookups
import PatchReview.Proofs.Config.Merging
import PatchReview.Proofs.Json.Stops
import PatchReview.Proofs.Linter.Reports

/-! What configuration a lint engine receives. It is that of the owner with that of the repository under
review written over it, spelled in ASCII so that it is read again as it is; a file of the repository that is
no configuration is passed over, unless its document stops the review.
-/

namespace PatchReview

open PatchReview.Text

variable {σ : Type}

-----------------------------------------------------------------------------------------
-- Configurations that are read
-----------------------------------------------------------------------------------------

namespace Json

/-- The keys of a tidy value differ, by induction on the value. -/
theorem IsTidy.hasDistinctKeys {value : Json} (tidy : value.IsTidy) : value.HasDistinctKeys := by
  induction tidy with
  | obj distinct _ ih => exact .obj distinct ih
  | null | bool | int | float | str | arr => exact .other (by simp [IsObject])

end Json

namespace Config

variable {host : Host σ} {repository ref path : Json} {state last : σ} {config base override : Json.Fields}

/-- A merge with a tidy object is tidy or exact when both objects are. -/
theorem merge_keeps {Kept : Json → Prop}
    (object : ∀ fields, Kept (.obj fields) ↔ (Assoc.keys fields).Nodup ∧ ∀ field ∈ fields, Kept field.2)
    (tidy : (Json.obj override).IsTidy) (keptBase : Kept (.obj base)) (kept : Kept (.obj override))
    : Kept (.obj (merge base override)) := by
  have merged : Json.obj (merge base override) = mergeValue (some (.obj base)) (.obj override) := rfl
  rw [merged]
  refine mergeValue_keeps object tidy.hasDistinctKeys kept ?_
  intro before same
  exact Option.some.inj same ▸ keptBase

/-- A configuration that is loaded is a tidy object. -/
theorem isTidy_of_load (loaded : (load host repository ref path).on state = (.ok config, last))
    : (Json.obj config).IsTidy := by
  obtain ⟨document, reached, -, read⟩ := Attempt.on_bind_eq_ok_iff.mp loaded
  obtain ⟨given, -⟩ := Prod.mk.inj read
  cases document with
  | str text =>
      simp only [ofDocument, ofText] at given
      split at given
      · cases given
      · cases given
      · next fields parsed =>
          cases given
          exact .of_parse parsed
      · cases given
  | null | bool | int | float | arr | obj => cases given

theorem isTidy_of_candidate {candidate : Candidate}
    (loaded : (candidate.load host repository ref).on state = (.ok config, last))
    : (Json.obj config).IsTidy := by
  cases candidate with
  | fixed path => exact isTidy_of_load loaded
  | pointed linter pointer =>
      obtain ⟨document, _, -, loaded⟩ := Attempt.on_bind_eq_ok_iff.mp loaded
      obtain ⟨switches, -, loaded⟩ := Attempt.on_ofExcept_bind_eq_ok_iff.mp loaded
      obtain ⟨name, -, loaded⟩ := Attempt.on_ofExcept_bind_eq_ok_iff.mp loaded
      split at loaded
      · cases loaded
      · exact isTidy_of_load loaded

/-- The configuration of the first usable candidate is a tidy object, by induction on the candidates. -/
theorem isTidy_of_firstUsable {candidates : List Candidate}
    (found : (Candidate.firstUsable host repository ref candidates).on state = (.ok config, last))
    : (Json.obj config).IsTidy := by
  induction candidates generalizing state with
  | nil =>
      cases found
      exact .obj .nil (List.forall_mem_nil _)
  | cons candidate rest ih =>
      cases loaded : (candidate.load host repository ref).on state with
      | mk result reached =>
          rw [Candidate.firstUsable, Attempt.on_outcome_bind loaded] at found
          cases result with
          | ok given =>
              cases found
              exact isTidy_of_candidate loaded
          | error failure =>
              dsimp only at found
              split at found
              · exact ih found
              · cases found

theorem isTidy_of_ofOwner {pointer : Json} {owner : Owner} {linter : Json} {legacy : List Json}
    (found : (ofOwner host pointer owner linter legacy).on state = (.ok config, last))
    : (Json.obj config).IsTidy := by
  have nothing : (Json.obj []).IsTidy := .obj .nil (List.forall_mem_nil _)
  unfold ofOwner at found
  split at found
  · cases found
    exact nothing
  · next repository style =>
      cases head : (host.branchHead repository).on state with
      | mk result reached =>
          rw [Attempt.on_outcome_bind head] at found
          cases result with
          | error failure =>
              cases found
              exact nothing
          | ok ref => exact isTidy_of_firstUsable found

theorem isTidy_of_object? {answer : FileAnswer} (held : object? answer = some config)
    : (Json.obj config).IsTidy := by
  unfold object? at held
  split at held
  · split at held
    · next fields parsed =>
        cases held
        exact .of_parse parsed
    · cases held
  · cases held

-----------------------------------------------------------------------------------------
-- The repository under review
-----------------------------------------------------------------------------------------

/-- A document is read unless it stops a search. -/
theorem isRead_of_not_failsWith {document : Json} (passed : ∀ failure, ¬ FailsWith document failure)
    : IsRead document := by
  cases document with
  | str text =>
      refine ⟨text, rfl, ?_⟩
      cases parsed : Json.parse text with
      | ok value => exact Or.inl ⟨value, rfl⟩
      | error fault =>
          cases fault with
          | malformed problem place => exact Or.inr ⟨problem, place, rfl⟩
          | number fault => exact absurd (.number parsed) (passed _)
          | tooDeep bracket => exact absurd parsed (Json.parse_ne_tooDeep text bracket)
  | null | bool | int | float | arr | obj => exact absurd (.noText nofun) (passed _)

/-- What a host says about the file that the switches of a repository name for a linter, and its state then.
When none is named, there is no file and nothing is asked.
-/
def told (host : Host σ) (build : Build) (switches : Switches) (linter : String) (state : σ)
    : FileAnswer × σ :=
  match switches.configFileFor linter with
  | none => (.ok none, state)
  | some path => (host.fetchFile build.repository (.str build.commit) (.str path)).on state

/-- (Stops answer) says that a host's answer is a document that stops a search. -/
def Stops (answer : FileAnswer) : Prop :=
  ∃ document failure, answer = .ok (some document) ∧ FailsWith document failure

theorem not_stops_of_parse {text : String} {value : Json} (read : Json.parse text = .ok value)
    : ¬ Stops (.ok (some (.str text))) := by
  intro stops
  obtain ⟨document, failure, same, fails⟩ := stops
  obtain rfl := Option.some.inj (Except.ok.inj same)
  cases fails with
  | number stopped =>
      rw [read] at stopped
      cases stopped
  | noText other => exact other text rfl

variable {build : Build} {switches : Switches} {linter : String}

/-- A repository's own configuration is what the file that is named is loaded as. -/
theorem on_ofRepository_of_some {path : String} {result : Except Failure Json.Fields}
    (found : switches.configFileFor linter = some path)
    (loaded : (load host build.repository (.str build.commit) (.str path)).on state = (result, last))
    : (ofRepository host build switches (.str linter)).on state
      = (match result with
          | .ok config => .ok config
          | .error failure => if failure.isConfig then .ok [] else .error failure,
          last) := by
  rw [ofRepository, Attempt.on_bind, Attempt.on_ofExcept]
  simp only [Json.textFor, found, Attempt.on_outcome_bind loaded]
  cases result with
  | ok config => rfl
  | error failure =>
      dsimp only
      split
      · rfl
      · rfl

/-- A repository's own configuration is what its file holds, or else empty, unless the file stops the
search.
-/
theorem on_ofRepository_of_not_stops (passed : ¬ Stops (told host build switches linter state).1)
    : (ofRepository host build switches (.str linter)).on state
      = (.ok ((object? (told host build switches linter state).1).getD []),
          (told host build switches linter state).2) := by
  unfold told at passed ⊢
  cases found : switches.configFileFor linter with
  | none =>
      simp only [ofRepository, Attempt.on_bind, Attempt.on_ofExcept, Json.textFor, found, Attempt.on_pure,
        object?, Option.getD_none]
  | some path =>
      rw [found] at passed
      dsimp only at passed ⊢
      cases said : (host.fetchFile build.repository (.str build.commit) (.str path)).on state with
      | mk answer reached =>
          rw [said] at passed
          have read : ∀ document, answer = .ok (some document) → IsRead document := fun document same =>
            isRead_of_not_failsWith fun failure fails => passed ⟨document, failure, same, fails⟩
          rcases load_cases said read with ⟨config, object, loaded⟩ | ⟨none, failure, failed, ignored⟩
          · rw [on_ofRepository_of_some found loaded, object]
            rfl
          · rw [on_ofRepository_of_some found failed, none]
            simp [ignored]

/-- A file that stops the search leaves its failure. -/
theorem on_ofRepository_of_failsWith {document : Json} {failure : Failure}
    (answer : (told host build switches linter state).1 = .ok (some document))
    (fails : FailsWith document failure)
    : (ofRepository host build switches (.str linter)).on state
      = (.error failure, (told host build switches linter state).2) := by
  unfold told at answer ⊢
  cases found : switches.configFileFor linter with
  | none =>
      rw [found] at answer
      cases answer
  | some path =>
      rw [found] at answer
      have said : (host.fetchFile build.repository (.str build.commit) (.str path)).on state
          = (.ok (some document),
              ((host.fetchFile build.repository (.str build.commit) (.str path)).on state).2) := by
        rw [← answer]
      obtain ⟨failed, other⟩ := load_fails_iff.mpr ⟨document, said, fails⟩
      rw [on_ofRepository_of_some found failed]
      simp [other]

end Config

-----------------------------------------------------------------------------------------
-- The engine
-----------------------------------------------------------------------------------------

/-- The text of the configuration for a run is that of the whole object. -/
theorem Engine.configText_invocation (engine : Engine) (source : Json) (config : Json.Fields)
    : (engine.invocation source (.obj config)).configText = (Json.obj config).print := by
  rw [Engine.invocation, configOf_obj]

/-- No end of a run is a failure that stops a search, apart from those of its output. -/
theorem Engine.findings_absent_ne {engine : Engine} {document : Json} {failure : Failure}
    (fails : Config.FailsWith document failure)
    : engine.findings .absent ≠ .error failure := by
  cases fails with
  | number | noText => nofun

namespace Linter

open Config

/-- (Receives linter host file invocation before reached) says that a linter which reads a file from the state
`before` on runs its engine once, from `reached` on, and what it runs is the invocation, whatever the engine's
program and the clock do.
-/
def Receives (linter : Linter) (host : Host σ) (file : ChangedFile) (invocation : Invocation Datum)
    (before reached : σ)
    : Prop :=
  ∀ outside : Outside σ, outside.host = host →
    (linter.findings outside file).on before
      = (linter.engine.findings ((outside.runEngine invocation).run reached).1,
          ((outside.runEngine invocation).run reached).2)

/-- (Spells text config) says that a text is in ASCII alone and is read as a configuration. -/
def Spells (text : String) (config : Json.Fields) : Prop :=
  (∀ c ∈ text.toList, c.toNat < 0x80) ∧ Json.parse text = .ok (.obj config)

theorem spells_print {config : Json.Fields} (exact : (Json.obj config).IsExact)
    : Spells (Json.obj config).print config := by
  refine ⟨?_, Json.parse_print exact⟩
  rw [Json.print, String.toList_ofList]
  exact fun c member => Nat.lt_trans (exact.isVisible c member).2 (by decide)

/-- (Overlays linter host file source owner answer before reached) says which configuration the engine of a
linter receives, when the owner has one and `answer` is what the host says about the repository's own: what
the file holds is written over that of the owner, and a file that holds no object leaves that of the owner.
Where there are no doubles, the text that the engine receives spells the configuration.
-/
structure Overlays (linter : Linter) (host : Host σ) (file : ChangedFile) (source : Json)
    (owner : Json.Fields) (answer : FileAnswer) (before reached : σ)
    : Prop where
  overlaid : ∀ override, object? answer = some override →
    linter.Receives host file (linter.engine.invocation source (.obj (merge owner override))) before reached
    ∧ ((Json.obj owner).HasNoDouble → (Json.obj override).HasNoDouble →
        Spells (linter.engine.invocation source (.obj (merge owner override))).configText
          (merge owner override))
  kept : object? answer = none →
    linter.Receives host file (linter.engine.invocation source (.obj owner)) before reached
    ∧ ((Json.obj owner).HasNoDouble →
        Spells (linter.engine.invocation source (.obj owner)).configText owner)

variable {linter : Linter} {host : Host σ} {file : ChangedFile} {pointer source : Json} {name : String}
  {owner : Json.Fields} {before middle : σ}

section Given

variable (points : linter.pointer = some pointer) (named : linter.kind.name = .str name)
  (prepared : Template.prepare file.content file.filename = .ok source)
  (owned : (ofOwner host pointer linter.build.owner (.str name) linter.kind.legacyFiles).on before
    = (.ok owner, middle))

include points named prepared owned

/-- Once the owner's configuration is known, that of the repository is looked for, and the engine is run. -/
theorem on_findings {outside : Outside σ} (same : outside.host = host)
    : (linter.findings outside file).on before
      = ((ofRepository host linter.build linter.switches (.str name)) >>= fun override =>
          linter.engine.lint outside.runEngine source (.obj (merge owner override))).on middle := by
  subst same
  have begins : (linter.findings outside file).on before
      = ((linter.config outside.host) >>= fun config =>
          linter.engine.lint outside.runEngine source (.obj config)).on before := by
    rw [findings, prepared]
    rfl
  rw [begins, config, points]
  dsimp only
  rw [named, bind_assoc, Attempt.on_bind, owned]
  simp only [bind_assoc, pure_bind]

/-- The engine receives the owner's configuration with what the repository's file holds written over it,
unless the file stops the search.
-/
theorem receives_of_not_stops
    (passed : ¬ Stops (told host linter.build linter.switches name middle).1)
    : linter.Receives host file
        (linter.engine.invocation source
          (.obj (merge owner ((object? (told host linter.build linter.switches name middle).1).getD []))))
        before (told host linter.build linter.switches name middle).2 := by
  intro outside same
  -- What is read is tidy, so that the merged configuration can be written.
  have tidy : (Json.obj ((object? (told host linter.build linter.switches name middle).1).getD [])).IsTidy := by
    cases held : object? (told host linter.build linter.switches name middle).1 with
    | none => exact .obj .nil (List.forall_mem_nil _)
    | some override => exact isTidy_of_object? held
  have merged := merge_keeps Json.isTidy_obj_iff tidy (isTidy_of_ofOwner owned) tidy
  rw [on_findings points named prepared owned same, Attempt.on_bind, on_ofRepository_of_not_stops passed]
  exact Engine.on_lint _ _ (by rw [Engine.configOf_obj]; exact merged.isWritable) _ _

/-- A file that stops the search keeps the engine from being run. -/
theorem not_receives_of_stops (stops : Stops (told host linter.build linter.switches name middle).1)
    (invocation : Invocation Datum) (reached : σ)
    : ¬ linter.Receives host file invocation before reached := by
  obtain ⟨document, failure, answer, fails⟩ := stops
  intro receives
  -- A program that is not there makes a failure of its own.
  let outside : Outside σ := ⟨host, fun _ => pure .absent, pure 0⟩
  have failed := on_findings points named prepared owned (rfl : outside.host = host)
  rw [receives outside rfl, Attempt.on_bind, on_ofRepository_of_failsWith answer fails] at failed
  exact Engine.findings_absent_ne fails (Prod.mk.inj failed).1

/-- The engine of a linter receives the configuration that was resolved exactly when the file that the
repository names, if it names one, does not stop the search.
-/
theorem overlays_iff
    : linter.Overlays host file source owner (told host linter.build linter.switches name middle).1 before
        (told host linter.build linter.switches name middle).2
      ↔ ¬ Stops (told host linter.build linter.switches name middle).1 := by
  have tidy := isTidy_of_ofOwner owned
  constructor
  · intro overlays stops
    have nothing := not_receives_of_stops points named prepared owned stops
    cases held : object? (told host linter.build linter.switches name middle).1 with
    | none => exact nothing _ _ (overlays.kept held).1
    | some override => exact nothing _ _ (overlays.overlaid override held).1
  · intro passed
    have receives := receives_of_not_stops points named prepared owned passed
    refine ⟨fun override held => ?_, fun none => ?_⟩
    · rw [held] at receives
      refine ⟨receives, fun plain plainToo => ?_⟩
      rw [Engine.configText_invocation]
      have tidyToo := isTidy_of_object? held
      exact spells_print
        (merge_keeps Json.isExact_obj_iff tidyToo (tidy.isExact plain) (tidyToo.isExact plainToo))
    · rw [none] at receives
      refine ⟨receives, fun plain => ?_⟩
      rw [Engine.configText_invocation]
      exact spells_print (tidy.isExact plain)

end Given

end Linter

open Config

/-- A linter for CoffeeScript whose repository names a file of its own for it. -/
def pointingLinter (owner : Owner) : Linter where
  kind := .coffeeScript
  switches := ⟨[], [("coffeescript", ⟨none, some "own.json", []⟩)]⟩
  build := ⟨.str "o/r", "abc", owner, none⟩
  engine := .standard
  pointer := some (.str ".hound.yml")

/-- An owner with a style repository, and one without. -/
def styledOwner : Owner := ⟨"o", true, .str "o/style"⟩

def plainOwner : Owner := ⟨"o", false, .null⟩

/-- A file without a template. -/
def plainFile : ChangedFile := ⟨"a.coffee", .str "x", [], .added⟩

/-- Files of which the one of old and the one that is named hold objects that clash. -/
def clashingFiles : Json → FileAnswer
  | .str "coffeelint.json" => .ok (some (.str (Json.obj nested).print))
  | .str "own.json" => .ok (some (.str (Json.obj clashing).print))
  | _ => .ok none

def clashingHost : Host Unit where
  pullRequest _ _ := throw .endless
  changedFiles _ _ := throw .endless
  branchHead _ := return .str "head"
  fetchFile _ _ path := Attempt.ofExcept (clashingFiles path)

theorem isExact_nested : (Json.obj nested).IsExact := by
  have one : (Json.int 1).IsExact := .int (Integer.isShort_of_lt_ten (by decide))
  have two : (Json.int 2).IsExact := .int (Integer.isShort_of_lt_ten (by decide))
  simp [nested, Json.isExact_obj_iff, Json.IsExact.bool, one, two, Assoc.keys]

theorem isExact_clashing : (Json.obj clashing).IsExact := by
  have three : (Json.int 3).IsExact := .int (Integer.isShort_of_lt_ten (by decide))
  simp [clashing, Json.isExact_obj_iff, Json.IsExact.null, Json.IsExact.str, three, Assoc.keys]

/-- The owner's configuration there is that of old, since the pointer document is not there. -/
theorem Config.on_ofOwner_clashingHost
    : (ofOwner clashingHost (.str ".hound.yml") styledOwner (.str "coffeescript")
        [.str "coffeelint.json"]).on () = (.ok nested, ()) := by
  have style : styledOwner.styleRepository? = some (.str "o/style") := rfl
  have head : (clashingHost.branchHead (.str "o/style")).on () = (.ok (.str "head"), ()) := rfl
  have unnamed : ((Candidate.pointed (.str "coffeescript") (.str ".hound.yml")).load clashingHost
      (.str "o/style") (.str "head")).on ()
        = (.error (.configFetch (.absent (.str ".hound.yml")) (.str "o/style") (.str ".hound.yml")), ()) :=
    rfl
  have loaded : ((Candidate.fixed (.str "coffeelint.json")).load clashingHost (.str "o/style")
      (.str "head")).on () = (.ok nested, ()) := by
    have fetched : (Config.fetch clashingHost (.str "o/style") (.str "head") (.str "coffeelint.json")).on ()
        = (.ok (.str (Json.obj nested).print), ()) :=
      rfl
    simp [Candidate.load, Config.load, Attempt.on_bind, fetched, ofDocument, ofText,
      Json.parse_print isExact_nested]
  simp only [ofOwner, style, Attempt.on_outcome_bind head, Candidate.forLinter, List.map_cons, List.map_nil]
  rw [Candidate.on_firstUsable_of_error unnamed rfl, Candidate.on_firstUsable_of_ok loaded]

theorem Linter.overlays_clashing
    : (pointingLinter styledOwner).Overlays clashingHost plainFile (.str "x") nested
        (.ok (some (.str (Json.obj clashing).print))) () ()
      ∧ object? (.ok (some (.str (Json.obj clashing).print))) = some clashing
      ∧ (Json.obj nested).HasNoDouble
      ∧ (Json.obj clashing).HasNoDouble := by
  have read : Json.parse (Json.obj clashing).print = .ok (.obj clashing) := Json.parse_print isExact_clashing
  have said : told clashingHost (pointingLinter styledOwner).build (pointingLinter styledOwner).switches
      "coffeescript" () = (.ok (some (.str (Json.obj clashing).print)), ()) :=
    rfl
  have overlays := Linter.overlays_iff
    (rfl : (pointingLinter styledOwner).pointer = some (.str ".hound.yml")) rfl
    (rfl : Template.prepare plainFile.content plainFile.filename = .ok (.str "x"))
    Config.on_ofOwner_clashingHost
  rw [said] at overlays
  refine ⟨overlays.mpr (not_stops_of_parse read), by simp [object?, read], ?_, ?_⟩
  · simp [nested, Json.hasNoDouble_obj_iff, Json.HasNoDouble.bool, Json.HasNoDouble.int]
  · simp [clashing, Json.hasNoDouble_obj_iff, Json.HasNoDouble.null, Json.HasNoDouble.int,
      Json.HasNoDouble.str]

/-- A host that holds one text under every path. -/
def holdingHost (text : String) : Host Unit where
  pullRequest _ _ := throw .endless
  changedFiles _ _ := throw .endless
  branchHead _ := throw .endless
  fetchFile _ _ _ := return some (.str text)

/-- A number with one digit too many. -/
def longNumber : String := String.ofList (List.replicate (Integer.maxDigits + 1) '1')

theorem parse_longNumber
    : Json.parse longNumber
      = .error (.number (.tooLong (List.replicate (Integer.maxDigits + 1) '1').length)) := by
  refine Json.parse_of_long ?_ (by rw [List.replicate_succ]; simp) ?_
  · intro c member
    rw [List.eq_of_mem_replicate member]
    decide
  · rw [List.length_replicate]
    exact Nat.lt_succ_self _

/-- A file that stops the search holds no object, and still the engine does not receive the owner's
configuration.
-/
theorem Linter.not_overlays_of_stopped {text : String} {fault : Integer.Fault}
    (stopped : Json.parse text = .error (.number fault))
    : (ofOwner (holdingHost text) (.str ".hound.yml") plainOwner (.str "coffeescript")
          [.str "coffeelint.json"]).on () = (.ok [], ())
      ∧ told (holdingHost text) (pointingLinter plainOwner).build (pointingLinter plainOwner).switches
          "coffeescript" () = (.ok (some (.str text)), ())
      ∧ object? (.ok (some (.str text))) = none
      ∧ ¬ (pointingLinter plainOwner).Overlays (holdingHost text) plainFile (.str "x") []
          (.ok (some (.str text))) () () := by
  have owned : (ofOwner (holdingHost text) (.str ".hound.yml") plainOwner (.str "coffeescript")
      [.str "coffeelint.json"]).on () = (.ok [], ()) :=
    rfl
  have said : told (holdingHost text) (pointingLinter plainOwner).build (pointingLinter plainOwner).switches
      "coffeescript" () = (.ok (some (.str text)), ()) :=
    rfl
  have object : object? (.ok (some (.str text))) = none := by simp only [object?, stopped]
  refine ⟨owned, said, object, fun overlays => ?_⟩
  have nothing := Linter.not_receives_of_stops
    (rfl : (pointingLinter plainOwner).pointer = some (.str ".hound.yml")) rfl
    (rfl : Template.prepare plainFile.content plainFile.filename = .ok (.str "x")) owned
  rw [said] at nothing
  exact nothing ⟨_, _, rfl, .number stopped⟩ _ _ (overlays.kept object).1

theorem Linter.not_overlays_longNumber
    : (ofOwner (holdingHost longNumber) (.str ".hound.yml") plainOwner (.str "coffeescript")
          [.str "coffeelint.json"]).on () = (.ok [], ())
      ∧ told (holdingHost longNumber) (pointingLinter plainOwner).build (pointingLinter plainOwner).switches
          "coffeescript" () = (.ok (some (.str longNumber)), ())
      ∧ object? (.ok (some (.str longNumber))) = none
      ∧ ¬ (pointingLinter plainOwner).Overlays (holdingHost longNumber) plainFile (.str "x") []
          (.ok (some (.str longNumber))) () () :=
  Linter.not_overlays_of_stopped parse_longNumber

end PatchReview
