import Mathlib.Data.List.Nodup
import PatchReview.Proofs.Config.Lookups

/-! How often a search for a configuration fetches a file. Each candidate fetches files of its own, so that a file
is fetched twice only when the pointer document names itself or a file of old that the search gets to.
-/

namespace PatchReview

variable {σ : Type}

/-- (host.files repository ref state) is what a host says in a state about the files of a repository at a commit.
-/
def Host.files (host : Host σ) (repository ref : Json) (state : σ) (path : Json) : FileAnswer :=
  ((host.fetchFile repository ref path).on state).1

namespace Candidate

open Config

-----------------------------------------------------------------------------------------
-- Files of a candidate
-----------------------------------------------------------------------------------------

/-- (candidate.asks host repository ref state) is the files that loading a candidate fetches from a state on, in
order: the pointer document is followed to the file that it names, if the linter's name is a text.
-/
def asks (host : Host σ) (repository ref : Json) (state : σ) : Candidate → List Json
  | pointed linter pointer =>
      pointer :: (linter.str?.bind (named? (host.files repository ref state) pointer)).toList.map Json.str
  | fixed path => [path]

variable {host : Host σ} {repository ref : Json}

/-- Over a host that notes its questions a document is fetched as it is, and noted. -/
theorem on_fetch_noting (path : Json) (state : σ) (asked : List Question)
    : (fetch host.noting repository ref path).on (state, asked)
      = (((fetch host repository ref path).on state).1, ((fetch host repository ref path).on state).2,
          asked ++ [.file repository ref path]) := by
  cases ended : (host.fetchFile repository ref path).on state with
  | mk answer reached =>
      have noted : (host.noting.fetchFile repository ref path).on (state, asked)
          = (answer, reached, asked ++ [.file repository ref path]) := by
        simp [Host.noting, ended]
      rw [fetch, fetch, Attempt.on_outcome_bind noted, Attempt.on_outcome_bind ended]
      rcases answer with failure | _ | document <;> rfl

theorem on_load_noting (path : Json) (state : σ) (asked : List Question)
    : (Config.load host.noting repository ref path).on (state, asked)
      = (((Config.load host repository ref path).on state).1, ((Config.load host repository ref path).on state).2,
          asked ++ [.file repository ref path]) := by
  rw [Config.load, Config.load, Attempt.on_bind, Attempt.on_bind, on_fetch_noting]
  cases (fetch host repository ref path).on state with
  | mk result reached => cases result <;> rfl

/-- What is named is what the pointer document says. -/
theorem named?_of_document {files : Json → FileAnswer} {pointer document : Json}
    (answer : files pointer = .ok (some document)) (linter : String)
    : named? files pointer linter = (Switches.ofDocument document).toOption.bind (·.configFileFor linter) := by
  rw [named?, answer]

theorem named?_of_absent {files : Json → FileAnswer} {pointer : Json}
    (absent : ∀ document, files pointer ≠ .ok (some document)) (linter : String)
    : named? files pointer linter = none := by
  unfold named?
  split
  · next document answer => exact absurd answer (absent document)
  · rfl

/-- Over a host that notes its questions a candidate is loaded as it is, and its files are noted. -/
theorem on_noting (candidate : Candidate) (state : σ) (asked : List Question)
    : (candidate.load host.noting repository ref).on (state, asked)
      = (((candidate.load host repository ref).on state).1, ((candidate.load host repository ref).on state).2,
          asked ++ (candidate.asks host repository ref state).map (.file repository ref)) := by
  cases candidate with
  | fixed path => exact on_load_noting path state asked
  | pointed linter pointer =>
      rw [load, load, Attempt.on_bind, Attempt.on_bind, on_fetch_noting, asks]
      cases told : (host.fetchFile repository ref pointer).on state with
      | mk answer reached =>
          have files : host.files repository ref state pointer = answer := by rw [Host.files, told]
          rcases fetch_cases told with ⟨document, rfl, fetched⟩ | ⟨absent, failure, failed, -⟩
          · have named := named?_of_document files
            simp only [fetched, Attempt.on_bind, Attempt.on_ofExcept]
            cases given : Switches.ofDocument document with
            | error fault => simp [named, given, Except.toOption]
            | ok switches =>
                cases linter with
                | str name =>
                    simp only [Json.textFor, Json.str?, Option.bind_some, named, given, Except.toOption]
                    cases switches.configFileFor name with
                    | none => rfl
                    | some path =>
                        dsimp only
                        rw [on_load_noting]
                        simp
                | null | bool | int | float | arr | obj => rfl
          · have unnamed := named?_of_absent (files ▸ absent)
            have none : linter.str?.bind (named? (host.files repository ref state) pointer) = none := by
              cases linter.str? <;> simp [unnamed]
            rw [failed, none]
            rfl

-----------------------------------------------------------------------------------------
-- Files of a search
-----------------------------------------------------------------------------------------

/-- (asksFrom host repository ref state candidates) is the files that a search through candidates fetches: those
of each one, as long as the ones before it are passed over.
-/
def asksFrom (host : Host σ) (repository ref : Json) : σ → List Candidate → List Json
  | _, [] => []
  | state, candidate :: rest =>
      candidate.asks host repository ref state
        ++ match (candidate.load host repository ref).on state with
          | (.ok _, _) => []
          | (.error failure, reached) =>
              if failure.isConfig then asksFrom host repository ref reached rest else []

/-- (GetsTo host repository ref goal state candidates) says that a search gets to one of the candidates: those
before it are passed over.
-/
inductive GetsTo (host : Host σ) (repository ref : Json) (goal : Candidate) : σ → List Candidate → Prop where
  | here {state rest} : GetsTo host repository ref goal state (goal :: rest)
  | later {state reached candidate rest failure}
    (unavailable : (candidate.load host repository ref).on state = (.error failure, reached))
    (passed : failure.isConfig = true) (below : GetsTo host repository ref goal reached rest)
    : GetsTo host repository ref goal state (candidate :: rest)

theorem mem_of_getsTo {host : Host σ} {repository ref : Json} {goal : Candidate} {state : σ}
    {candidates : List Candidate} (gets : GetsTo host repository ref goal state candidates)
    : goal ∈ candidates := by
  induction gets with
  | here => exact List.mem_cons_self
  | later _ _ _ ih => exact List.mem_cons_of_mem _ ih

/-- Over a host that notes its questions a search goes as it does, and notes its files, by induction on the
candidates.
-/
theorem on_firstUsable_noting (candidates : List Candidate) (state : σ) (asked : List Question)
    : (firstUsable host.noting repository ref candidates).on (state, asked)
      = (((firstUsable host repository ref candidates).on state).1,
          ((firstUsable host repository ref candidates).on state).2,
          asked ++ (asksFrom host repository ref state candidates).map (.file repository ref)) := by
  induction candidates generalizing state asked with
  | nil => simp [firstUsable, asksFrom]
  | cons candidate rest ih =>
      have noted : (candidate.load host.noting repository ref).on (state, asked) = _ :=
        candidate.on_noting state asked
      rw [asksFrom]
      cases loaded : (candidate.load host repository ref).on state with
      | mk result reached =>
          rw [loaded] at noted
          cases result with
          | ok config =>
              rw [on_firstUsable_of_ok noted, on_firstUsable_of_ok loaded]
              simp
          | error failure =>
              rw [firstUsable, firstUsable, Attempt.on_outcome_bind noted, Attempt.on_outcome_bind loaded]
              cases passed : failure.isConfig with
              | true => simp [passed, ih]
              | false => simp [passed]

/-- A search through fixed files fetches some of them, in order, by induction on the files. -/
theorem asksFrom_fixed_sublist (paths : List Json) (state : σ)
    : (asksFrom host repository ref state (paths.map fixed)).Sublist paths := by
  induction paths generalizing state with
  | nil => exact .slnil
  | cons path rest ih =>
      rw [List.map_cons, asksFrom]
      refine List.Sublist.cons_cons path ?_
      split
      · exact List.nil_sublist rest
      · split
        · exact ih _
        · exact List.nil_sublist rest

/-- A search through fixed files fetches those that it gets to, by induction on the files. -/
theorem mem_asksFrom_fixed_iff {paths : List Json} {path : Json} {state : σ}
    : path ∈ asksFrom host repository ref state (paths.map fixed)
      ↔ GetsTo host repository ref (fixed path) state (paths.map fixed) := by
  induction paths generalizing state with
  | nil => exact ⟨nofun, nofun⟩
  | cons first rest ih =>
      rw [List.map_cons, asksFrom, asks, List.singleton_append, List.mem_cons]
      constructor
      · rintro (rfl | below)
        · exact .here
        · split at below
          · cases below
          · next failure reached unavailable =>
              split at below
              · next passed => exact .later unavailable passed (ih.mp below)
              · cases below
      · intro gets
        cases gets with
        | here => exact Or.inl rfl
        | later unavailable passed below =>
            rw [unavailable]
            simpa [passed] using Or.inr (ih.mpr below)

variable {linter : String} {pointer : Json} {legacy : List Json} {state : σ}

/-- The search for a linter fetches the pointer document and the file that it names, and then those files of old
that it gets to, by cases on how the pointer document is followed.
-/
theorem exists_asksFrom_forLinter (host : Host σ) (repository ref : Json) (linter : String) (pointer : Json)
    (legacy : List Json) (state : σ)
    : ∃ tried,
        asksFrom host repository ref state (forLinter pointer (.str linter) legacy)
          = pointer :: (named? (host.files repository ref state) pointer linter).toList.map Json.str ++ tried
        ∧ tried.Sublist legacy
        ∧ ∀ path,
            path ∈ tried
              ↔ GetsTo host repository ref (fixed path) state (forLinter pointer (.str linter) legacy) := by
  rw [forLinter, asksFrom]
  refine ⟨_, rfl, ?_, fun path => ?_⟩
  · split
    · exact List.nil_sublist legacy
    · split
      · exact asksFrom_fixed_sublist legacy _
      · exact List.nil_sublist legacy
  · constructor
    · intro member
      split at member
      · cases member
      · next failure reached unavailable =>
          split at member
          · next passed => exact .later unavailable passed (mem_asksFrom_fixed_iff.mp member)
          · cases member
    · intro gets
      cases gets with
      | later unavailable passed below =>
          rw [unavailable]
          simpa [passed] using mem_asksFrom_fixed_iff.mpr below

/-- The search for a linter fetches no file twice unless the pointer document names itself, or a file of old that
the search gets to. The files of old differ from each other and from the pointer document.
-/
theorem nodup_asksFrom_iff (distinct : legacy.Nodup) (other : pointer ∉ legacy)
    : (asksFrom host repository ref state (forLinter pointer (.str linter) legacy)).Nodup
      ↔ ∀ path,
          named? (host.files repository ref state) pointer linter = some path →
            Json.str path ≠ pointer
            ∧ ¬ GetsTo host repository ref (fixed (.str path)) state
                (forLinter pointer (.str linter) legacy) := by
  obtain ⟨tried, asks, sublist, reached⟩ :=
    exists_asksFrom_forLinter host repository ref linter pointer legacy state
  have fresh : pointer ∉ tried := fun member => other (sublist.subset member)
  have single : tried.Nodup := distinct.sublist sublist
  rw [asks]
  simp only [← reached]
  cases named? (host.files repository ref state) pointer linter with
  | none => simp [fresh, single]
  | some path => simp [fresh, single, eq_comm]

end Candidate

namespace Config

/-- (ReadsAgain host pointer owner linter legacy state) says that the pointer document in an owner's style
repository names itself for a linter, or a file of old that the search gets to.
-/
def ReadsAgain (host : Host σ) (pointer : Json) (owner : Owner) (linter : String) (legacy : List Json)
    (state : σ)
    : Prop :=
  ∃ repository ref reached path,
    owner.styleRepository? = some repository
    ∧ (host.branchHead repository).on state = (.ok ref, reached)
    ∧ named? (host.files repository ref reached) pointer linter = some path
    ∧ (Json.str path = pointer
      ∨ Candidate.GetsTo host repository ref (.fixed (.str path)) reached
          (Candidate.forLinter pointer (.str linter) legacy))

/-- The search for the configuration of an owner's linter asks for the head of the style repository and then for
the files of its candidates.
-/
theorem asked_ofOwner {host : Host σ} {owner : Owner} {repository ref : Json} {state reached : σ}
    (style : owner.styleRepository? = some repository)
    (known : (host.branchHead repository).on state = (.ok ref, reached)) (pointer : Json) (linter : String)
    (legacy : List Json) (asked : List Question)
    : ((ofOwner host.noting pointer owner (.str linter) legacy).on (state, asked)).2.2
      = asked ++ .branchHead repository
        :: (Candidate.asksFrom host repository ref reached
            (Candidate.forLinter pointer (.str linter) legacy)).map (.file repository ref) := by
  have told : (host.noting.branchHead repository).on (state, asked)
      = (.ok ref, reached, asked ++ [.branchHead repository]) := by
    simp [Host.noting, known]
  simp only [ofOwner, style, Attempt.on_outcome_bind told, Candidate.on_firstUsable_noting]
  simp

/-- The search for the configuration of an owner's linter asks no question twice, whatever the host, unless the
pointer document names itself or a file of old that the search gets to.
-/
theorem ofOwner_asks_once_iff (host : Host σ) (owner : Owner) (linter : String) {pointer : Json}
    {legacy : List Json} (distinct : legacy.Nodup) (other : pointer ∉ legacy) (state : σ)
    : ((ofOwner host.noting pointer owner (.str linter) legacy).on (state, [])).2.2.Nodup
      ↔ ¬ ReadsAgain host pointer owner linter legacy state := by
  unfold ReadsAgain
  cases style : owner.styleRepository? with
  | none => simp [ofOwner, style]
  | some repository =>
      cases known : (host.branchHead repository).on state with
      | mk result reached =>
          cases result with
          | error failure =>
              have told : (host.noting.branchHead repository).on (state, [])
                  = (.error failure, reached, [.branchHead repository]) := by
                simp [Host.noting, known]
              simp [ofOwner, style, Attempt.on_outcome_bind told, known]
          | ok ref =>
              have files : Function.Injective (Question.file repository ref) := fun _ _ => by simp
              rw [asked_ofOwner style known, List.nil_append, List.nodup_cons, and_iff_right (by simp),
                List.nodup_map_iff files, Candidate.nodup_asksFrom_iff distinct other]
              constructor
              · rintro each ⟨_, _, _, path, ⟨⟩, ended, named, again⟩
                rw [known] at ended
                cases ended
                rcases again with same | gets
                · exact (each path named).1 same
                · exact (each path named).2 gets
              · intro never path named
                exact ⟨fun same => never ⟨repository, ref, reached, path, rfl, known, named, Or.inl same⟩,
                  fun gets => never ⟨repository, ref, reached, path, rfl, known, named, Or.inr gets⟩⟩

/-- The file that is named holds no object, but none of the files of old is the same one. -/
theorem ofOwner_asks_once_fallback
    : [Json.str "coffeelint.json", .str "old.json"].Nodup
      ∧ Json.str ".hound.yml" ∉ [Json.str "coffeelint.json", .str "old.json"]
      ∧ ((ofOwner fallbackHost.noting (.str ".hound.yml") ⟨"o", true, .str "o/style"⟩ (.str "coffeescript")
          [.str "coffeelint.json", .str "old.json"]).on ((), [])).2.2.Nodup := by
  have distinct : [Json.str "coffeelint.json", .str "old.json"].Nodup := by simp
  have other : Json.str ".hound.yml" ∉ [Json.str "coffeelint.json", .str "old.json"] := by simp
  refine ⟨distinct, other, (ofOwner_asks_once_iff fallbackHost _ "coffeescript" distinct other ()).mpr ?_⟩
  rintro ⟨_, _, _, path, ⟨⟩, ⟨⟩, named, again⟩
  have style : named? (fallbackHost.files (.str "o/style") (.str "head") ()) (.str ".hound.yml") "coffeescript"
      = some "style.json" := by
    decide +kernel
  obtain rfl : "style.json" = path := Option.some.inj (style.symm.trans named)
  rcases again with same | gets
  · simp at same
  · have member := Candidate.mem_of_getsTo gets
    simp [Candidate.forLinter] at member

/-- A host whose pointer document names a file of old, which is not there. -/
def renamedHost : Host Unit where
  pullRequest _ _ := throw .endless
  changedFiles _ _ := throw .endless
  branchHead _ := return .str "head"
  fetchFile _ _ path := return match path with
    | .str ".hound.yml" => some (.str "coffeescript:\n  config_file: coffeelint.json\n")
    | _ => none

/-- The file is asked for once as the one that is named, and once more as the one of old. -/
theorem not_asks_once_renamedHost
    : [Json.str "coffeelint.json"].Nodup
      ∧ Json.str ".hound.yml" ∉ [Json.str "coffeelint.json"]
      ∧ ¬ ((ofOwner renamedHost.noting (.str ".hound.yml") ⟨"o", true, .str "o/style"⟩ (.str "coffeescript")
          [.str "coffeelint.json"]).on ((), [])).2.2.Nodup := by
  have other : Json.str ".hound.yml" ∉ [Json.str "coffeelint.json"] := by simp
  refine ⟨by simp, other, fun once => ?_⟩
  have known : (renamedHost.branchHead (.str "o/style")).on () = (.ok (.str "head"), ()) := rfl
  rw [asked_ofOwner rfl known] at once
  have distinct := (List.nodup_cons.mp once).2.of_map
  have named : named? (renamedHost.files (.str "o/style") (.str "head") ()) (.str ".hound.yml") "coffeescript"
      = some "coffeelint.json" := by
    decide +kernel
  refine ((Candidate.nodup_asksFrom_iff (by simp) other).mp distinct _ named).2 ?_
  have passed : ((((Candidate.pointed (.str "coffeescript") (.str ".hound.yml")).load renamedHost (.str "o/style")
      (.str "head")).on ()).1.mapError Failure.isConfig).map (fun _ => ()) = .error true := by
    decide +kernel
  cases loaded : ((Candidate.pointed (.str "coffeescript") (.str ".hound.yml")).load renamedHost
      (.str "o/style") (.str "head")).on () with
  | mk result reached =>
      rw [loaded, Except.map_eq_error_iff, Except.mapError_eq_error_iff] at passed
      obtain ⟨failure, unavailable, lookup⟩ := passed
      obtain rfl : result = .error failure := unavailable
      exact .later loaded lookup .here

end Config

end PatchReview
