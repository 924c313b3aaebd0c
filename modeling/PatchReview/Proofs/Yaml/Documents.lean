import PatchReview.Proofs.Yaml.Tokens
import PatchReview.Yaml.Document

/-! What reading a YAML document fails with. A document fails as its text, its tokens and its values do: whatever
is wrong with it, the failure is not that of a configuration lookup.
-/

namespace PatchReview

namespace Yaml

variable {σ α β : Type} {failure : Failure}

-----------------------------------------------------------------------------------------
-- Steps over a state
-----------------------------------------------------------------------------------------

/-- (Keeps Holds step) says that a step leads from states where something holds to such states, or fails, though
not as a configuration lookup.
-/
def Keeps (Holds : σ → Prop) (step : StateT σ (Except Failure) α) : Prop :=
  ∀ state, Holds state →
    match step.run state with
    | .ok (_, next) => Holds next
    | .error failure => failure.isConfig = false

section Steps

variable {Holds : σ → Prop}

theorem Keeps.isConfig_of_run {step : StateT σ (Except Failure) α} {state : σ} (keeps : Keeps Holds step)
    (holds : Holds state) (failed : step.run state = .error failure)
    : failure.isConfig = false := by
  have ended := keeps state holds
  rw [failed] at ended
  exact ended

theorem keeps_pure (value : α) : Keeps Holds (pure value) := fun _ holds => holds

theorem keeps_throw (plain : failure.isConfig = false)
    : Keeps Holds (throw failure : StateT σ (Except Failure) α) := fun _ _ => plain

theorem keeps_get : Keeps Holds (get : StateT σ (Except Failure) σ) := fun _ holds => holds

theorem keeps_set {state : σ} (holds : Holds state)
    : Keeps Holds (set state : StateT σ (Except Failure) PUnit) := fun _ _ => holds

theorem keeps_modify {f : σ → σ} (keeps : ∀ state, Holds state → Holds (f state))
    : Keeps Holds (modify f : StateT σ (Except Failure) PUnit) := keeps

/-- A step that only reads fails as what is read. -/
theorem keeps_lift {result : Except Failure α}
    (plain : ∀ failure, result = .error failure → failure.isConfig = false)
    : Keeps Holds (liftM result) := by
  intro state holds
  cases result with
  | error failure => exact plain failure rfl
  | ok value => exact holds

/-- Two steps in a row keep what both keep, by cases on the first. -/
theorem Keeps.bind {first : StateT σ (Except Failure) α} {next : α → StateT σ (Except Failure) β}
    (keeps : Keeps Holds first) (later : ∀ value, Keeps Holds (next value))
    : Keeps Holds (first >>= next) := by
  intro state holds
  have here := keeps state holds
  rw [StateT.run_bind]
  cases ended : first.run state with
  | error failure =>
      rw [ended] at here
      exact here
  | ok result =>
      rw [ended] at here
      exact later result.1 result.2 here

/-- Steps for all items keep what each one keeps, by induction on the items. -/
theorem keeps_mapM {items : List α} {step : α → StateT σ (Except Failure) β}
    (keeps : ∀ item, Keeps Holds (step item))
    : Keeps Holds (items.mapM step) := by
  induction items with
  | nil => exact keeps_pure []
  | cons item rest ih =>
      rw [List.mapM_cons]
      exact (keeps item).bind fun _ => ih.bind fun _ => keeps_pure _

theorem keeps_forM {items : List α} {step : α → StateT σ (Except Failure) PUnit}
    (keeps : ∀ item, Keeps Holds (step item))
    : Keeps Holds (items.forM step) := by
  induction items with
  | nil => exact keeps_pure ()
  | cons item rest ih => exact (keeps item).bind fun _ => ih

end Steps

/-- (FailsPlainly step) says that a step never fails as a configuration lookup, whatever the state. -/
abbrev FailsPlainly (step : StateT σ (Except Failure) α) : Prop := Keeps (fun _ => True) step

-----------------------------------------------------------------------------------------
-- Nodes
-----------------------------------------------------------------------------------------

namespace Graph

/-- The tokens that are left stand for failures of the text alone. -/
def Reading.IsSound (reading : Reading) : Prop :=
  ∀ failure, Token.failed failure ∈ reading.tokens → failure.isConfig = false

/-- A reader keeps the tokens sound. -/
abbrev Sound (reader : Reader α) : Prop := Keeps Reading.IsSound reader

/-- The next token is looked at unless it stands for a failure, by cases on the tokens. -/
theorem sound_peek : Sound peek := by
  rintro ⟨tokens, names, graph⟩ sound
  cases tokens with
  | nil => exact sound
  | cons token rest =>
      cases token with
      | failed failure => exact sound failure List.mem_cons_self
      | _ => exact sound

theorem sound_advance : Sound advance :=
  keeps_modify fun _ sound failure member => sound failure (List.mem_of_mem_tail member)

theorem sound_place (node : Node) : Sound (place node) :=
  keeps_get.bind fun reading => (keeps_modify fun _ sound => sound).bind fun _ => keeps_pure reading.graph.size

theorem sound_placeEmpty : Sound placeEmpty := sound_place _

theorem sound_properties : Sound properties := by
  refine sound_peek.bind fun first => ?_
  split
  · refine sound_advance.bind fun _ => sound_peek.bind fun second => ?_
    split
    · exact sound_advance.bind fun _ => keeps_pure _
    · exact keeps_pure _
  · refine sound_advance.bind fun _ => sound_peek.bind fun second => ?_
    split
    · exact sound_advance.bind fun _ => keeps_pure _
    · exact keeps_pure _
  · exact keeps_pure _

theorem isConfig_of_fullTag {handles : Handles} {tag : WrittenTag} (failed : fullTag handles tag = .error failure)
    : failure.isConfig = false := by
  unfold fullTag at failed
  grind

theorem sound_fullTag (handles : Handles) (tag : Option WrittenTag)
    : Sound (liftM (tag.mapM (fullTag handles)) : Reader (Option String)) := by
  refine keeps_lift fun failure failed => ?_
  cases tag with
  | none => cases failed
  | some tag =>
      simp only [Option.mapM_some, Functor.map, Except.map_eq_error_iff] at failed
      exact isConfig_of_fullTag failed

theorem sound_placeNamed (anchor : Option String) (node : Node) : Sound (placeNamed anchor node) := by
  refine (sound_place node).bind fun id => Keeps.bind ?_ fun _ => keeps_pure id
  unfold register
  split
  · exact keeps_pure ()
  · exact keeps_modify fun _ sound => sound

theorem sound_checkFresh (anchor : Option String) : Sound (checkFresh anchor) := by
  unfold checkFresh
  split
  · exact keeps_pure ()
  · refine keeps_get.bind fun reading => ?_
    split
    · exact keeps_throw rfl
    · exact keeps_pure ()

theorem sound_readEmpty (written : Properties) (tag : Option String) : Sound (readEmpty written tag) := by
  unfold readEmpty
  split
  · exact keeps_throw rfl
  · exact sound_placeNamed _ _

theorem sound_readComma (first : Bool) : Sound (readComma first) := by
  unfold readComma
  split
  · exact keeps_pure ()
  · refine sound_peek.bind fun token => ?_
    split
    · exact sound_advance
    · exact keeps_throw rfl

/-- (ReadsSound handles steps) says that all readers of nodes and their parts keep the tokens sound when they take
that many steps.
-/
structure ReadsSound (handles : Handles) (steps : Nat) : Prop where
  node : ∀ position, Sound (read handles steps position)
  blockItems : Sound (readBlockItems handles steps)
  indentless : Sound (readIndentless handles steps)
  blockPairs : Sound (readBlockPairs handles steps)
  part : Sound (readPart handles steps)
  blockValue : Sound (readBlockValue handles steps)
  flowItems : ∀ first, Sound (readFlowItems handles steps first)
  flowPairs : ∀ first, Sound (readFlowPairs handles steps first)

namespace ReadsSound

variable {handles : Handles} {steps : Nat}

/-- One more step for a node: its properties are read, and then its parts by their kind. -/
theorem node_succ (sound : ReadsSound handles steps) (position : Position)
    : Sound (read handles (steps + 1) position) := by
  unfold read
  refine sound_peek.bind fun token => ?_
  split
  · refine sound_advance.bind fun _ => keeps_get.bind fun reading => ?_
    split
    · exact keeps_pure _
    · exact keeps_throw rfl
  · refine sound_properties.bind fun written => (sound_fullTag handles _).bind fun tag => ?_
    refine sound_peek.bind fun token => (sound_checkFresh _).bind fun _ => ?_
    extract_lets collect
    have collected {content : Reader Content} (filled : Sound content) (kind : Tag)
        : Sound (collect kind content) :=
      (sound_placeNamed _ _).bind fun id => filled.bind fun _ =>
        (keeps_modify fun _ sound => sound).bind fun _ => keeps_pure id
    split
    · split
      · exact collected (sound.indentless.bind fun _ => keeps_pure _) _
      · exact sound_readEmpty _ _
    · exact sound_advance.bind fun _ => sound_placeNamed _ _
    · exact sound_advance.bind fun _ => collected ((sound.flowItems _).bind fun _ => keeps_pure _) _
    · exact sound_advance.bind fun _ => collected ((sound.flowPairs _).bind fun _ => keeps_pure _) _
    · split
      · exact sound_readEmpty _ _
      · exact sound_advance.bind fun _ => collected (sound.blockItems.bind fun _ => keeps_pure _) _
    · split
      · exact sound_readEmpty _ _
      · exact sound_advance.bind fun _ => collected (sound.blockPairs.bind fun _ => keeps_pure _) _
    · exact sound_readEmpty _ _

theorem blockItems_succ (sound : ReadsSound handles steps) : Sound (readBlockItems handles (steps + 1)) := by
  have later (item : NodeId) : Sound (do return item :: (← readBlockItems handles steps)) :=
    sound.blockItems.bind fun _ => keeps_pure _
  unfold readBlockItems
  refine sound_peek.bind fun token => ?_
  split
  · refine sound_advance.bind fun _ => sound_peek.bind fun token => ?_
    dsimp only
    split
    · exact sound_placeEmpty.bind later
    · exact sound_placeEmpty.bind later
    · exact (sound.node _).bind later
  · exact sound_advance.bind fun _ => keeps_pure []
  · exact keeps_throw rfl

theorem indentless_succ (sound : ReadsSound handles steps) : Sound (readIndentless handles (steps + 1)) := by
  have later (item : NodeId) : Sound (do return item :: (← readIndentless handles steps)) :=
    sound.indentless.bind fun _ => keeps_pure _
  unfold readIndentless
  refine sound_peek.bind fun token => ?_
  split
  · refine sound_advance.bind fun _ => sound_peek.bind fun token => ?_
    dsimp only
    split
    · exact sound_placeEmpty.bind later
    · exact sound_placeEmpty.bind later
    · exact sound_placeEmpty.bind later
    · exact sound_placeEmpty.bind later
    · exact (sound.node _).bind later
  · exact keeps_pure []

theorem blockPairs_succ (sound : ReadsSound handles steps) : Sound (readBlockPairs handles (steps + 1)) := by
  unfold readBlockPairs
  refine sound_peek.bind fun token => ?_
  split
  · exact sound_advance.bind fun _ => sound.part.bind fun _ => sound.blockValue.bind fun _ =>
      sound.blockPairs.bind fun _ => keeps_pure _
  · exact sound_advance.bind fun _ => keeps_pure []
  · exact keeps_throw rfl

theorem part_succ (sound : ReadsSound handles steps) : Sound (readPart handles (steps + 1)) := by
  unfold readPart
  refine sound_peek.bind fun token => ?_
  split
  · exact sound_placeEmpty
  · exact sound_placeEmpty
  · exact sound_placeEmpty
  · exact sound.node _

theorem blockValue_succ (sound : ReadsSound handles steps) : Sound (readBlockValue handles (steps + 1)) := by
  unfold readBlockValue
  refine sound_peek.bind fun token => ?_
  split
  · exact sound_advance.bind fun _ => sound.part
  · exact sound_placeEmpty

/-- One more step for the items of a flow sequence, of which one with a mark is a pair. -/
theorem flowItems_succ (sound : ReadsSound handles steps) (first : Bool)
    : Sound (readFlowItems handles (steps + 1) first) := by
  unfold readFlowItems
  refine sound_peek.bind fun token => ?_
  split
  · exact sound_advance.bind fun _ => keeps_pure []
  · refine (sound_readComma first).bind fun _ => sound_peek.bind fun token => ?_
    split
    · refine sound_advance.bind fun _ => sound_peek.bind fun token => ?_
      extract_lets goOn
      have keyed (key : NodeId) : Sound (goOn key) := by
        refine sound_peek.bind fun token => ?_
        extract_lets goOn
        have valued (value : NodeId) : Sound (goOn value) :=
          (sound_place _).bind fun _ => (sound.flowItems _).bind fun _ => keeps_pure _
        split
        · refine sound_advance.bind fun _ => sound_peek.bind fun token => ?_
          split
          · exact sound_placeEmpty.bind valued
          · exact sound_placeEmpty.bind valued
          · exact (sound.node _).bind valued
        · exact sound_placeEmpty.bind valued
      split
      · exact sound_placeEmpty.bind keyed
      · exact sound_placeEmpty.bind keyed
      · exact sound_placeEmpty.bind keyed
      · exact (sound.node _).bind keyed
    · exact sound_advance.bind fun _ => keeps_pure []
    · exact (sound.node _).bind fun _ => (sound.flowItems _).bind fun _ => keeps_pure _

theorem flowPairs_succ (sound : ReadsSound handles steps) (first : Bool)
    : Sound (readFlowPairs handles (steps + 1) first) := by
  unfold readFlowPairs
  refine sound_peek.bind fun token => ?_
  split
  · exact sound_advance.bind fun _ => keeps_pure []
  · refine (sound_readComma first).bind fun _ => sound_peek.bind fun token => ?_
    split
    · refine sound_advance.bind fun _ => sound_peek.bind fun token => ?_
      extract_lets goOn
      have keyed (key : NodeId) : Sound (goOn key) := by
        refine sound_peek.bind fun token => ?_
        extract_lets goOn
        have valued (value : NodeId) : Sound (goOn value) := (sound.flowPairs _).bind fun _ => keeps_pure _
        split
        · refine sound_advance.bind fun _ => sound_peek.bind fun token => ?_
          split
          · exact sound_placeEmpty.bind valued
          · exact sound_placeEmpty.bind valued
          · exact (sound.node _).bind valued
        · exact sound_placeEmpty.bind valued
      split
      · exact sound_placeEmpty.bind keyed
      · exact sound_placeEmpty.bind keyed
      · exact sound_placeEmpty.bind keyed
      · exact (sound.node _).bind keyed
    · exact sound_advance.bind fun _ => keeps_pure []
    · exact (sound.node _).bind fun _ => sound_placeEmpty.bind fun _ =>
        (sound.flowPairs _).bind fun _ => keeps_pure _

end ReadsSound

/-- Reading nodes keeps the tokens sound, by induction on the steps of all readers at once. -/
theorem readsSound (handles : Handles) (steps : Nat) : ReadsSound handles steps := by
  induction steps with
  | zero =>
      exact ⟨fun _ => keeps_throw rfl, keeps_throw rfl, keeps_throw rfl, keeps_throw rfl, keeps_throw rfl,
        keeps_throw rfl, fun _ => keeps_throw rfl, fun _ => keeps_throw rfl⟩
  | succ steps ih =>
      exact ⟨ih.node_succ, ih.blockItems_succ, ih.indentless_succ, ih.blockPairs_succ, ih.part_succ,
        ih.blockValue_succ, ih.flowItems_succ, ih.flowPairs_succ⟩

/-- Reading directives keeps the tokens sound, by induction on the directives. -/
theorem sound_readDirectives (steps : Nat) (versioned : Bool) (handles : Handles)
    : Sound (readDirectives steps versioned handles) := by
  induction steps generalizing versioned handles with
  | zero => exact keeps_throw rfl
  | succ steps ih =>
      unfold readDirectives
      refine sound_peek.bind fun token => ?_
      split
      · refine sound_advance.bind fun _ => ?_
        split
        · exact keeps_throw rfl
        · exact ih true handles
      · refine sound_advance.bind fun _ => ?_
        split
        · exact keeps_throw rfl
        · exact ih versioned _
      · exact sound_advance.bind fun _ => ih versioned handles
      · exact keeps_pure _

theorem sound_readRest (steps : Nat) : Sound (readRest steps) := by
  induction steps with
  | zero => exact keeps_throw rfl
  | succ steps ih =>
      unfold readRest
      refine sound_peek.bind fun token => ?_
      split
      · exact sound_advance.bind fun _ => ih
      · exact keeps_pure ()
      · exact (sound_readDirectives _ _ _).bind fun _ => sound_peek.bind fun _ => keeps_throw rfl

theorem sound_readDocument (steps : Nat) : Sound (readDocument steps) := by
  have finished (root : NodeId) : Sound (do readRest steps; return some root) :=
    (sound_readRest steps).bind fun _ => keeps_pure _
  unfold readDocument
  refine sound_peek.bind fun token => ?_
  split
  case h_1 => exact keeps_pure none
  case h_2 | h_3 =>
    refine (sound_readDirectives _ _ _).bind fun handles => sound_peek.bind fun token => ?_
    extract_lets finish start
    have started (marked : Unit) : Sound (start marked) := by
      refine sound_peek.bind fun token => ?_
      split
      · exact sound_placeEmpty.bind finished
      · exact sound_placeEmpty.bind finished
      · exact sound_placeEmpty.bind finished
      · exact sound_placeEmpty.bind finished
      · exact ((readsSound _ _).node _).bind finished
    split
    · exact sound_advance.bind started
    · exact Keeps.bind (keeps_throw rfl) started
  case h_4 => exact ((readsSound _ _).node _).bind finished

/-- A text that does not make a document fails for itself. -/
theorem isConfig_of_ofText {text : List Char} (failed : ofText text = .error failure)
    : failure.isConfig = false := by
  rw [ofText, Except.bind_eq_error_iff] at failed
  rcases failed with failed | ⟨_, -, made⟩
  · exact (sound_readDocument _).isConfig_of_run (fun _ => Token.isConfig_of_mem_ofText) failed
  · cases made

-----------------------------------------------------------------------------------------
-- Merge keys
-----------------------------------------------------------------------------------------

theorem failsPlainly_mergedPairs {resolve : NodeId → Change Unit} (resolves : ∀ id, FailsPlainly (resolve id))
    (id : NodeId)
    : FailsPlainly (mergedPairs resolve id) := by
  unfold mergedPairs
  refine keeps_get.bind fun graph => ?_
  split
  · exact (resolves id).bind fun _ => keeps_get.bind fun _ => keeps_pure _
  · exact keeps_throw rfl

theorem failsPlainly_brought {resolve : NodeId → Change Unit} (resolves : ∀ id, FailsPlainly (resolve id))
    (id : NodeId)
    : FailsPlainly (brought resolve id) := by
  unfold brought
  refine keeps_get.bind fun graph => ?_
  split
  · exact (keeps_mapM (failsPlainly_mergedPairs resolves)).bind fun _ => keeps_pure _
  · exact failsPlainly_mergedPairs resolves id

/-- Merge keys that cannot be resolved make the document invalid, by induction on the steps. -/
theorem failsPlainly_resolveMerges (steps : Nat) (id : NodeId) : FailsPlainly (resolveMerges steps id) := by
  induction steps generalizing id with
  | zero => exact keeps_throw rfl
  | succ steps ih =>
      unfold resolveMerges
      refine keeps_get.bind fun graph => ?_
      split
      · exact keeps_set trivial
      · exact (keeps_set trivial).bind fun _ => (failsPlainly_brought ih _).bind fun _ => (ih id).bind fun _ =>
          keeps_modify fun _ _ => trivial

@[grind →] theorem isConfig_of_text {graph : Graph} {steps : Nat} {id : NodeId}
    (failed : graph.text steps id = .error failure)
    : failure.isConfig = false := by
  fun_induction Graph.text graph steps id <;> grind

end Graph

-----------------------------------------------------------------------------------------
-- Values
-----------------------------------------------------------------------------------------

namespace Scalar

variable {text : String} {cs : List Char}

@[grind →] theorem isConfig_of_wholeIn {base : Nat} (failed : wholeIn base cs = .error failure)
    : failure.isConfig = false := by
  unfold wholeIn at failed
  grind

@[grind →] theorem isConfig_of_whole (failed : whole text = .error failure) : failure.isConfig = false := by
  unfold whole at failed
  grind

@[grind →] theorem isConfig_of_realPart (failed : realPart cs = .error failure) : failure.isConfig = false := by
  unfold realPart at failed
  grind

@[grind →] theorem isConfig_of_sixtieths {unit : Nat} {parts : List Binary64} {total : Binary64}
    (failed : sixtieths unit parts total = .error failure)
    : failure.isConfig = false := by
  fun_induction sixtieths unit parts total <;> grind

@[grind →] theorem isConfig_of_real (failed : real text = .error failure) : failure.isConfig = false := by
  unfold real at failed
  grind

@[grind →] theorem isConfig_of_truth (failed : truth text = .error failure) : failure.isConfig = false := by
  unfold truth at failed
  grind

@[grind →] theorem isConfig_of_bytes (failed : bytes text = .error failure) : failure.isConfig = false := by
  unfold bytes at failed
  grind

@[grind →] theorem isConfig_of_stamp (failed : stamp text = .error failure) : failure.isConfig = false := by
  unfold stamp at failed
  grind

/-- A scalar fails as the value that its tag asks for, by cases on the tag. -/
@[grind →] theorem isConfig_of_ofTag {tag : Tag} (failed : ofTag tag text = .error failure)
    : failure.isConfig = false := by
  unfold ofTag at failed
  grind

end Scalar

namespace Document

theorem isConfig_of_scalar {graph : Graph} {id : NodeId} (failed : scalar graph id = .error failure)
    : failure.isConfig = false := by
  unfold scalar at failed
  grind

/-- The part that a node is fails as a scalar only, by cases on the tag. -/
theorem failsPlainly_part (id : NodeId) : FailsPlainly (part id) := by
  unfold part
  refine keeps_get.bind fun draft => ?_
  split
  · exact keeps_pure _
  · split
    case h_6 =>
      exact (keeps_lift fun _ => isConfig_of_scalar).bind fun _ =>
        (keeps_modify fun _ _ => trivial).bind fun _ => keeps_pure _
    all_goals exact Keeps.bind (keeps_modify fun _ _ => trivial) fun _ => keeps_pure (Part.collection id)

theorem failsPlainly_entry (pair : Pair) : FailsPlainly (entry pair) := by
  unfold entry
  refine (failsPlainly_part _).bind fun found => ?_
  split
  · exact keeps_get.bind fun _ => (failsPlainly_part _).bind fun _ => keeps_pure _
  · exact keeps_throw rfl

theorem failsPlainly_entries (merges : Nat) (id : NodeId) : FailsPlainly (entries merges id) := by
  have resolved (graph : Graph) (failure : Failure)
      (failed : (Graph.resolveMerges merges id).run graph = .error failure)
      : failure.isConfig = false :=
    (Graph.failsPlainly_resolveMerges merges id).isConfig_of_run trivial failed
  unfold entries
  exact keeps_get.bind fun draft => (keeps_lift (resolved draft.graph)).bind fun _ =>
    (keeps_set trivial).bind fun _ => (keeps_mapM failsPlainly_entry).bind fun _ => keeps_pure _

theorem failsPlainly_singlePair (id : NodeId) : FailsPlainly (singlePair id) := by
  unfold singlePair
  refine keeps_get.bind fun draft => ?_
  split
  · exact (failsPlainly_part _).bind fun _ => (failsPlainly_part _).bind fun _ => keeps_pure _
  · exact keeps_throw rfl

/-- A collection is filled or fails as one of its parts, by cases on its tag. -/
theorem failsPlainly_fill (merges : Nat) (id : NodeId) : FailsPlainly (fill merges id) := by
  refine Keeps.bind ?_ fun _ => keeps_modify fun _ _ => trivial
  unfold filling
  refine keeps_get.bind fun draft => ?_
  dsimp only
  split
  · exact (keeps_mapM failsPlainly_part).bind fun _ => keeps_pure _
  · exact (failsPlainly_entries _ _).bind fun _ => keeps_pure _
  · exact (failsPlainly_entries _ _).bind fun _ => keeps_pure _
  · exact (keeps_mapM failsPlainly_singlePair).bind fun _ => keeps_pure _
  · exact (keeps_mapM failsPlainly_singlePair).bind fun _ => keeps_pure _
  · exact keeps_throw rfl

/-- Filling all collections fails as one of them, by induction on the rounds. -/
theorem failsPlainly_fillAll (merges rounds : Nat) : FailsPlainly (fillAll merges rounds) := by
  induction rounds with
  | zero => exact keeps_throw rfl
  | succ rounds ih =>
      unfold fillAll
      refine keeps_get.bind fun draft => ?_
      dsimp only
      split
      · exact keeps_pure ()
      · exact Keeps.bind (keeps_modify fun _ _ => trivial) fun _ =>
          (keeps_forM (failsPlainly_fill merges)).bind fun _ => ih

theorem isConfig_of_datum {graph : Graph} {root : NodeId} (failed : datum graph root = .error failure)
    : failure.isConfig = false := by
  rw [datum, Except.bind_eq_error_iff] at failed
  rcases failed with failed | ⟨⟨found, draft⟩, -, failed⟩
  · exact (failsPlainly_part root).isConfig_of_run trivial failed
  · rw [Except.bind_eq_error_iff] at failed
    rcases failed with failed | ⟨_, -, made⟩
    · exact (failsPlainly_fillAll _ _).isConfig_of_run trivial failed
    · cases made

end Document

end Yaml

/-- A text that has no value in YAML fails for itself, and never as a configuration lookup. -/
theorem Datum.isConfig_of_ofYaml {text : String} {failure : Failure} (failed : ofYaml text = .error failure)
    : failure.isConfig = false := by
  rw [ofYaml, Except.bind_eq_error_iff] at failed
  rcases failed with unread | ⟨given, -, failed⟩
  · exact Yaml.Graph.isConfig_of_ofText unread
  · cases given with
    | none => cases failed
    | some found => exact Yaml.Document.isConfig_of_datum failed

end PatchReview
