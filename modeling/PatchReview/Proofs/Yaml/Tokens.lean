import PatchReview.Proofs.Attempt
import PatchReview.Yaml.Lexer

/-! What cutting a YAML text into tokens fails with. Whatever is wrong with the text, the failure is its own: none
is that of a configuration lookup.
-/

namespace PatchReview

variable {α β : Type}

-----------------------------------------------------------------------------------------
-- Steps that fail
-----------------------------------------------------------------------------------------

section Results

variable {ε : Type} {failure : ε}

@[grind =] theorem Except.pure_eq_error_iff {value : α} : (pure value : Except ε α) = .error failure ↔ False := by
  simp [pure, Except.pure]

@[grind =] theorem Except.throw_eq_error_iff {fault : ε}
    : (throw fault : Except ε α) = .error failure ↔ fault = failure := by
  simp [throw, throwThe, MonadExceptOf.throw]

theorem Except.throw_bind {next : α → Except ε β} : throw failure >>= next = throw failure := rfl

end Results

attribute [grind =] Except.bind_eq_error_iff Except.map_eq_error_iff Except.map_eq_ok_iff
  Except.mapError_eq_error_iff

attribute [grind →] Except.exists_of_mapM_eq_error

attribute [grind] Failure.isConfig

namespace Yaml

variable {failure : Failure} {cursor : Cursor} {steps : Nat}

-----------------------------------------------------------------------------------------
-- Scalars
-----------------------------------------------------------------------------------------

namespace Quoted

@[grind →] theorem isConfig_of_character {code : Nat} (failed : character code = .error failure)
    : failure.isConfig = false := by
  unfold character at failed
  grind

@[grind →] theorem isConfig_of_breaks (failed : breaks steps cursor = .error failure)
    : failure.isConfig = false := by
  fun_induction breaks steps cursor <;> grind

@[grind →] theorem isConfig_of_spaces (failed : spaces cursor = .error failure)
    : failure.isConfig = false := by
  unfold spaces at failed
  grind

@[grind →] theorem isConfig_of_escape (failed : escape cursor = .error failure)
    : failure.isConfig = false := by
  unfold escape at failed
  grind

theorem isConfig_of_readBody {mark : Char} (failed : readBody mark steps cursor = .error failure)
    : failure.isConfig = false := by
  fun_induction readBody mark steps cursor <;> grind

/-- A scalar in quotes fails as what stands between them. -/
theorem isConfig_of_read {mark : Char} (failed : read mark cursor = .error failure)
    : failure.isConfig = false :=
  isConfig_of_readBody failed

end Quoted

namespace Block

@[grind →] theorem isConfig_of_indicators (failed : indicators cursor = .error failure)
    : failure.isConfig = false := by
  unfold indicators at failed
  grind

theorem isConfig_of_read {folded : Bool} {parent : Int} (failed : read folded parent cursor = .error failure)
    : failure.isConfig = false := by
  unfold read at failed
  grind

end Block

-----------------------------------------------------------------------------------------
-- Names, tags and directives
-----------------------------------------------------------------------------------------

@[grind →] theorem isConfig_of_readName (failed : readName cursor = .error failure)
    : failure.isConfig = false := by
  unfold readName at failed
  grind

@[grind →] theorem isConfig_of_readAnchor (failed : readAnchor cursor = .error failure)
    : failure.isConfig = false := by
  unfold readAnchor at failed
  grind

@[grind →] theorem isConfig_of_readTagBytes (failed : readTagBytes steps cursor = .error failure)
    : failure.isConfig = false := by
  fun_induction readTagBytes steps cursor <;> grind

@[grind →] theorem isConfig_of_readTagText (failed : readTagText steps cursor = .error failure)
    : failure.isConfig = false := by
  fun_induction readTagText steps cursor <;> grind

@[grind →] theorem isConfig_of_readTagUri (failed : readTagUri cursor = .error failure)
    : failure.isConfig = false := by
  unfold readTagUri at failed
  grind

@[grind →] theorem isConfig_of_readHandle (failed : readHandle cursor = .error failure)
    : failure.isConfig = false := by
  unfold readHandle at failed
  grind

@[grind →] theorem isConfig_of_readTag (failed : readTag cursor = .error failure)
    : failure.isConfig = false := by
  unfold readTag at failed
  grind

@[grind →] theorem isConfig_of_readVersionPart (failed : readVersionPart cursor = .error failure)
    : failure.isConfig = false := by
  unfold readVersionPart at failed
  grind

/-- A directive fails as its name, its version or its tag does, by cases on which one it is. -/
theorem isConfig_of_readDirective (failed : readDirective cursor = .error failure)
    : failure.isConfig = false := by
  rw [readDirective, Except.bind_eq_error_iff] at failed
  rcases failed with unnamed | ⟨⟨name, after⟩, -, failed⟩
  · exact isConfig_of_readName unnamed
  · simp only [Except.throw_bind, pure_bind] at failed
    split at failed
    · grind
    · split at failed
      · grind
      · grind

-----------------------------------------------------------------------------------------
-- Tokens
-----------------------------------------------------------------------------------------

/-- The failure that a token stands for. -/
def Token.failure? : Token → Option Failure
  | .failed failure => some failure
  | _ => none

attribute [grind] Token.failure?

namespace Lexer

/-- None of the tokens so far stands for a failure. -/
def IsClean (lexer : Lexer) : Prop := ∀ token ∈ lexer.tokens, token.failure? = none

/-- A step leaves no token that stands for a failure, or fails for the text. -/
def IsSound : Except Failure Lexer → Prop
  | .ok next => next.IsClean
  | .error failure => failure.isConfig = false

variable {lexer next : Lexer} {token : Token}

theorem isClean_push : (lexer.push token).IsClean ↔ lexer.IsClean ∧ token.failure? = none := by
  simp only [IsClean, push, Array.mem_push]
  grind

theorem isClean_take {count : Nat} : (lexer.take count token).IsClean ↔ lexer.IsClean ∧ token.failure? = none :=
  isClean_push

theorem mem_of_mem_extract {tokens : Array Token} {first last : Nat} (member : token ∈ tokens.extract first last)
    : token ∈ tokens := by
  obtain ⟨i, within, rfl⟩ := Array.mem_extract_iff_getElem.mp member
  exact Array.getElem_mem _

/-- Two steps in a row are sound, by cases on the first. -/
theorem IsSound.bind {first : Except Failure Lexer} {step : Lexer → Except Failure Lexer} (sound : IsSound first)
    (later : ∀ next, next.IsClean → IsSound (step next))
    : IsSound (first >>= step) := by
  cases first with
  | error failure => exact sound
  | ok next => exact later next sound

/-- A step after reading from the text is sound, by cases on what is read. -/
theorem isSound_bind {first : Except Failure α} {step : α → Except Failure Lexer}
    (plain : ∀ failure, first = .error failure → failure.isConfig = false)
    (later : ∀ value, first = .ok value → IsSound (step value))
    : IsSound (first >>= step) := by
  cases first with
  | error failure => exact plain failure rfl
  | ok value => exact later value rfl

theorem isSound_ite {holds : Prop} [Decidable holds] {first second : Except Failure Lexer}
    (here : IsSound first) (otherwise : IsSound second)
    : IsSound (if holds then first else second) := by
  split
  · exact here
  · exact otherwise

namespace IsClean

theorem insert (clean : lexer.IsClean) (number : Nat) {more : Array Token}
    (given : ∀ token ∈ more, token.failure? = none)
    : (lexer.insert number more).IsClean := by
  intro token member
  simp only [Lexer.insert, Array.mem_append] at member
  rcases member with (before | new) | after
  · exact clean token (mem_of_mem_extract before)
  · exact given token new
  · exact clean token (mem_of_mem_extract after)

/-- Closing blocks leaves no failure, by induction on the blocks. -/
theorem unwindTo (clean : lexer.IsClean) (column : Int) : (lexer.unwindTo column).IsClean := by
  rw [Lexer.unwindTo]
  generalize lexer.outer.length + 1 = steps
  fun_induction Lexer.unwind column steps lexer with
  | case1 => exact clean
  | case2 => exact clean
  | case3 steps lexer inner ih => exact ih (isClean_push.mpr ⟨clean, rfl⟩)

theorem openBlock? {column : Int} (clean : lexer.IsClean) (opened : lexer.openBlock? column = some next)
    : next.IsClean := by
  unfold Lexer.openBlock? at opened
  split at opened
  · obtain rfl := Option.some.inj opened
    exact clean
  · cases opened

/-- Opening a block where none is open inside a collection leaves no failure. -/
theorem opened (clean : lexer.IsClean) (holds : token.failure? = none)
    : (if lexer.inFlow then lexer else lexer.openHere token).IsClean := by
  split
  · exact clean
  · unfold Lexer.openHere
    split
    · next opened given => exact isClean_push.mpr ⟨clean.openBlock? given, holds⟩
    · exact clean

/-- Passing a gap adds no token, by induction on its parts. -/
theorem skipGap (clean : lexer.IsClean) (steps : Nat) : (lexer.skipGap steps).IsClean := by
  fun_induction Lexer.skipGap steps lexer with
  | case1 => exact clean
  | case2 => exact clean
  | case3 steps lexer cursor marked char after broken lexer ih =>
      refine ih ?_
      split
      · exact clean
      · exact clean

theorem dropStale (clean : lexer.IsClean) : IsSound lexer.dropStale := by
  unfold Lexer.dropStale
  split
  · rfl
  · exact clean

theorem dropCandidate (clean : lexer.IsClean) : IsSound lexer.dropCandidate := by
  unfold Lexer.dropCandidate
  split
  · exact clean
  · split
    · rfl
    · exact clean

theorem noteCandidate (clean : lexer.IsClean) : IsSound lexer.noteCandidate := by
  unfold Lexer.noteCandidate
  split
  · exact clean
  · exact clean.dropCandidate.bind fun _ clean => clean

theorem atEnd (clean : lexer.IsClean) : IsSound lexer.atEnd :=
  (clean.unwindTo _).dropCandidate.bind fun _ clean => isClean_push.mpr ⟨clean, rfl⟩

theorem atDirective (clean : lexer.IsClean) : IsSound lexer.atDirective :=
  (clean.unwindTo _).dropCandidate.bind fun _ clean =>
    isSound_bind (fun _ => isConfig_of_readDirective) fun _ _ => isClean_push.mpr ⟨clean, rfl⟩

theorem atMarker (clean : lexer.IsClean) (holds : token.failure? = none) : IsSound (lexer.atMarker token) :=
  (clean.unwindTo _).dropCandidate.bind fun _ clean => isClean_take.mpr ⟨clean, holds⟩

theorem atFlowStart (clean : lexer.IsClean) (holds : token.failure? = none) : IsSound (lexer.atFlowStart token) :=
  clean.noteCandidate.bind fun _ clean => isClean_take.mpr ⟨clean, holds⟩

theorem atFlowEnd (clean : lexer.IsClean) (holds : token.failure? = none) : IsSound (lexer.atFlowEnd token) :=
  clean.dropCandidate.bind fun _ clean => isClean_take.mpr ⟨clean, holds⟩

/-- A mark is sound once the candidate before it is dropped. -/
theorem marked (clean : lexer.IsClean) (allowed : Bool) (holds : token.failure? = none)
    : IsSound (do
        let lexer ← (lexer.allowKey allowed).dropCandidate
        return lexer.take 1 token) :=
  IsSound.bind (dropCandidate clean) fun _ clean => isClean_take.mpr ⟨clean, holds⟩

theorem atBlockEntry (clean : lexer.IsClean) : IsSound lexer.atBlockEntry := by
  unfold Lexer.atBlockEntry
  by_cases barred : (!lexer.inFlow && !lexer.keyAllowed) = true
  · simp only [if_pos barred]
    rfl
  · simp only [if_neg barred]
    exact (clean.opened rfl).marked true rfl

theorem atKey (clean : lexer.IsClean) : IsSound lexer.atKey := by
  unfold Lexer.atKey
  by_cases barred : (!lexer.inFlow && !lexer.keyAllowed) = true
  · simp only [if_pos barred]
    rfl
  · simp only [if_neg barred]
    exact (clean.opened rfl).marked _ rfl

/-- A colon is sound, by cases on whether what stands before it may be a key. -/
theorem atValue (clean : lexer.IsClean) : IsSound lexer.atValue := by
  unfold Lexer.atValue
  split
  · refine isClean_take.mpr ⟨?_, rfl⟩
    dsimp only [IsClean, Lexer.allowKey]
    split
    · exact IsClean.insert clean _ (by simp [Token.failure?])
    · split
      · next opened given =>
          have clean : opened.IsClean := IsClean.openBlock? (by exact clean) given
          exact clean.insert _ (by simp [Token.failure?])
      · exact IsClean.insert clean _ (by simp [Token.failure?])
  · by_cases barred : (!lexer.inFlow && !lexer.keyAllowed) = true
    · simp only [if_pos barred]
      rfl
    · simp only [if_neg barred]
      exact (clean.opened rfl).marked _ rfl

theorem atContent {read : Cursor → Except Failure (Token × Cursor)} (clean : lexer.IsClean)
    (plain : ∀ cursor failure, read cursor = .error failure → failure.isConfig = false)
    (holds : ∀ cursor found, read cursor = .ok found → found.1.failure? = none)
    : IsSound (lexer.atContent read) :=
  clean.noteCandidate.bind fun _ clean =>
    isSound_bind (plain _) fun _ given => isClean_push.mpr ⟨clean, holds _ _ given⟩

theorem atQuoted (clean : lexer.IsClean) (mark : Char) : IsSound (lexer.atQuoted mark) := by
  refine clean.atContent (fun _ _ failed => ?_) fun _ _ given => ?_
  · rw [Except.bind_eq_error_iff] at failed
    rcases failed with failed | ⟨_, -, made⟩
    · exact Quoted.isConfig_of_read failed
    · cases made
  · obtain ⟨_, -, made⟩ := Except.bind_eq_ok_iff.mp given
    cases made
    rfl

theorem atPlain (clean : lexer.IsClean) : IsSound lexer.atPlain :=
  clean.noteCandidate.bind fun _ clean => isClean_push.mpr ⟨clean, rfl⟩

theorem atBlock (clean : lexer.IsClean) (folded : Bool) : IsSound (lexer.atBlock folded) :=
  IsSound.bind (dropCandidate clean) fun _ clean =>
    isSound_bind (fun _ => Block.isConfig_of_read) fun _ _ => isClean_push.mpr ⟨clean, rfl⟩

/-- What starts at the next character leaves no failure among the tokens, by cases on what it is. -/
theorem isSound_token (clean : lexer.IsClean) : IsSound lexer.token := by
  refine (clean.skipGap _).dropStale.bind fun next clean => ?_
  have clean := clean.unwindTo next.cursor.column
  dsimp only
  split
  · exact clean.atEnd
  · refine isSound_ite clean.atDirective ?_
    refine isSound_ite (clean.atMarker rfl) ?_
    refine isSound_ite (clean.atMarker rfl) ?_
    refine isSound_ite (clean.atFlowStart rfl) ?_
    refine isSound_ite (clean.atFlowStart rfl) ?_
    refine isSound_ite (clean.atFlowEnd rfl) ?_
    refine isSound_ite (clean.atFlowEnd rfl) ?_
    refine isSound_ite (clean.marked true rfl) ?_
    refine isSound_ite clean.atBlockEntry ?_
    refine isSound_ite clean.atKey ?_
    refine isSound_ite clean.atValue ?_
    refine isSound_ite (clean.atContent (by grind) (by grind)) ?_
    refine isSound_ite (clean.atContent (by grind) (by grind)) ?_
    refine isSound_ite (clean.atContent (by grind) (by grind)) ?_
    refine isSound_ite (clean.atBlock false) ?_
    refine isSound_ite (clean.atBlock true) ?_
    refine isSound_ite (clean.atQuoted _) ?_
    refine isSound_ite clean.atPlain ?_
    rfl

end IsClean

/-- Only the last token stands for a failure, which is one of the text, by induction on the steps. -/
theorem isConfig_of_mem_run (clean : lexer.IsClean) (member : token ∈ lexer.run steps)
    (stands : token.failure? = some failure)
    : failure.isConfig = false := by
  induction steps generalizing lexer with
  | zero =>
      rw [Lexer.run, Array.mem_push] at member
      rcases member with before | rfl
      · rw [clean token before] at stands
        cases stands
      · cases stands
        rfl
  | succ steps ih =>
      have sound := clean.isSound_token
      rw [Lexer.run] at member
      cases stepped : lexer.token with
      | error fault =>
          rw [stepped] at sound member
          rcases Array.mem_push.mp member with before | rfl
          · rw [clean token (mem_of_mem_extract before)] at stands
            cases stands
          · cases stands
            exact sound
      | ok next =>
          rw [stepped] at sound
          simp only [stepped] at member
          split at member
          · rw [sound token member] at stands
            cases stands
          · exact ih sound member

end Lexer

/-- A token of a text that stands for a failure stands for one of the text. -/
theorem Token.isConfig_of_mem_ofText {text : List Char} (member : .failed failure ∈ Token.ofText text)
    : failure.isConfig = false := by
  unfold Token.ofText at member
  split at member
  · rw [Array.mem_toList_iff] at member
    refine Lexer.isConfig_of_mem_run (fun token given => ?_) member rfl
    split at given
    · cases Array.mem_def.mp given
    · cases Array.mem_def.mp given
  · obtain rfl : failure = .yaml := by simpa using member
    rfl

end Yaml

end PatchReview
