import PatchReview.Proofs.Json.Reading

/-! Reading in a limited room. It gives what reading gives without a limit, or stops at a bracket for which there
is no room, as it does where a text begins with too many brackets.
-/

namespace PatchReview.Json

-----------------------------------------------------------------------------------------
-- Limited and unlimited reading
-----------------------------------------------------------------------------------------

/-- (Follows limited free) says that reading in a limited room ends as it does without a limit, or at a bracket.
-/
def Follows {α : Type} (limited free : Except Stop α) : Prop :=
  limited = free ∨ ∃ bracket, limited = .error (.tooDeep bracket)

section Results

variable {α β : Type} {limited free : Except Stop α}

theorem Follows.refl (result : Except Stop α) : Follows result result := Or.inl rfl

theorem Follows.bind {next other : α → Except Stop β} (first : Follows limited free)
    (later : ∀ value, Follows (next value) (other value))
    : Follows (limited >>= next) (free >>= other) := by
  rcases first with rfl | ⟨bracket, rfl⟩
  · cases limited with
    | error stop => exact .refl _
    | ok value => exact later value
  · exact Or.inr ⟨bracket, rfl⟩

/-- Behind a bracket there is some room, or none. -/
theorem Follows.within {next : Room → Except Stop α} (room : Room) (bracket : Bracket)
    (later : ∀ inner, Follows (next inner) free)
    : Follows (room.within bracket >>= next) free := by
  rcases room with _ | _ | room
  · exact later none
  · exact Or.inr ⟨bracket, rfl⟩
  · exact later (some room)

end Results

section Steps

variable {steps : Nat} (value : ∀ room cs, Follows (readValue room steps cs) (readValue none steps cs))
  (items : ∀ room cs, Follows (readItems room steps cs) (readItems none steps cs))
  (fields : ∀ room cs, Follows (readFields room steps cs) (readFields none steps cs))

include items fields in
/-- A value is read as without a limit when the parts within it are, by cases on its first character. -/
theorem follows_readValue (room : Room) (cs : List Char)
    : Follows (readValue room (steps + 1) cs) (readValue none (steps + 1) cs) := by
  cases cs with
  | nil => exact .refl _
  | cons c rest =>
      rw [readValue, readValue]
      by_cases quote : (c == '\x22') = true
      · rw [if_pos quote, if_pos quote]
        exact .refl _
      rw [if_neg quote, if_neg quote]
      by_cases brace : (c == '\x7b') = true
      · rw [if_pos brace, if_pos brace]
        refine .within room .object fun inner => ?_
        rw [within_none_bind]
        split
        · exact .refl _
        · exact (fields inner _).bind fun _ => .refl _
      rw [if_neg brace, if_neg brace]
      by_cases bracket : (c == '[') = true
      · rw [if_pos bracket, if_pos bracket]
        refine .within room .array fun inner => ?_
        rw [within_none_bind]
        split
        · exact .refl _
        · exact (items inner _).bind fun _ => .refl _
      rw [if_neg bracket, if_neg bracket]
      exact .refl _

include value items in
theorem follows_readItems (room : Room) (cs : List Char)
    : Follows (readItems room (steps + 1) cs) (readItems none (steps + 1) cs) := by
  rw [readItems, readItems]
  refine (value room cs).bind fun read => ?_
  obtain ⟨item, after⟩ := read
  dsimp only
  split
  · exact .refl _
  · exact (items room _).bind fun _ => .refl _
  · exact .refl _

include value fields in
theorem follows_readFields (room : Room) (cs : List Char)
    : Follows (readFields room (steps + 1) cs) (readFields none (steps + 1) cs) := by
  cases cs with
  | nil => exact .refl _
  | cons c rest =>
      rw [readFields, readFields]
      split
      · refine (Follows.refl _).bind fun key => ?_
        obtain ⟨key, after⟩ := key
        dsimp only
        split
        · refine (value room _).bind fun read => ?_
          obtain ⟨held, behind⟩ := read
          dsimp only
          split
          · exact .refl _
          · exact (fields room _).bind fun _ => .refl _
          · exact .refl _
        · exact .refl _
      · exact .refl _

end Steps

/-- Values, items and fields are read as without a limit, by induction on the steps. -/
theorem follows_read (steps : Nat)
    : (∀ room cs, Follows (readValue room steps cs) (readValue none steps cs))
      ∧ (∀ room cs, Follows (readItems room steps cs) (readItems none steps cs))
      ∧ (∀ room cs, Follows (readFields room steps cs) (readFields none steps cs)) := by
  induction steps with
  | zero => exact ⟨fun _ _ => .refl _, fun _ _ => .refl _, fun _ _ => .refl _⟩
  | succ steps ih =>
      obtain ⟨value, items, fields⟩ := ih
      exact ⟨follows_readValue items fields, follows_readItems value items, follows_readFields value fields⟩

/-- A text holds the same value in a limited room as without a limit, unless reading stops at a bracket. -/
theorem parseWithin_eq_or (room : Room) (text : String)
    : parseWithin room text = parse text
      ∨ ∃ bracket, parseWithin room text = .error (.tooDeep bracket) := by
  have follows : Follows (readText room text.toList) (readText none text.toList) := by
    unfold readText
    split
    · exact .refl _
    · exact ((follows_read _).1 room _).bind fun _ => .refl _
  rcases follows with same | ⟨bracket, stopped⟩
  · exact Or.inl (congrArg (Except.mapError (Stop.fault text.toList)) same)
  · exact Or.inr ⟨bracket, congrArg (Except.mapError (Stop.fault text.toList)) stopped⟩

theorem parse_eq_of_parseWithin {room : Room} {text : String} {result : Except Fault Json}
    (read : parseWithin room text = result) (other : ∀ bracket, result ≠ .error (.tooDeep bracket))
    : parse text = result := by
  rcases parseWithin_eq_or room text with same | ⟨bracket, stopped⟩
  · rw [← same, read]
  · exact absurd (read.symm.trans stopped) (other bracket)

/-- A text whose brackets that open are no more than there is room for holds the same value there. -/
theorem parseWithin_of_not_exceeds {room : Room} {text : String} (fits : ¬ Exceeds room text.toList)
    : parseWithin room text = parse text := by
  rcases parseWithin_eq_or room text with same | ⟨bracket, stopped⟩
  · exact same
  · rcases parseWithin_cases room text with
      ⟨_, read, -⟩ | ⟨_, _, failed⟩ | ⟨⟨_, failed⟩, -⟩ | ⟨-, exceeds⟩
    · cases stopped.symm.trans read
    · cases stopped.symm.trans failed
    · cases stopped.symm.trans failed
    · exact absurd exceeds fits

-----------------------------------------------------------------------------------------
-- Brackets in a row
-----------------------------------------------------------------------------------------

/-- Reading stops at the first bracket in a row for which there is no room, by induction on the room. -/
theorem readValue_replicate {room opened steps : Nat} (more : room < opened) (enough : 2 * opened ≤ steps)
    (rest : List Char)
    : readValue (some room) steps (List.replicate opened '[' ++ rest) = .error (.tooDeep .array) := by
  induction room generalizing opened steps with
  | zero =>
      obtain ⟨opened, rfl⟩ := Nat.exists_eq_succ_of_ne_zero (Nat.ne_of_gt more)
      obtain ⟨steps, rfl⟩ : ∃ fewer, steps = fewer + 1 := ⟨steps - 1, by omega⟩
      rw [List.replicate_succ, List.cons_append, readValue]
      rfl
  | succ room ih =>
      obtain ⟨opened, rfl⟩ : ∃ fewer, opened = fewer + 2 := ⟨opened - 2, by omega⟩
      obtain ⟨steps, rfl⟩ : ∃ fewer, steps = fewer + 2 := ⟨steps - 2, by omega⟩
      have inner := @ih (opened + 1) steps (by omega) (by omega)
      have items : readItems (some room) (steps + 1) (List.replicate (opened + 1) '[' ++ rest)
          = .error (.tooDeep .array) := by
        rw [readItems, inner]
        rfl
      rw [List.replicate_succ, List.cons_append, readValue, if_neg (by decide), if_neg (by decide),
        if_pos (by decide)]
      show (readItems (some room) (steps + 1) (List.replicate (opened + 1) '[' ++ rest) >>= _) = _
      rw [items]
      rfl

/-- A text that begins with more brackets than there is room for is not read. -/
theorem parseWithin_replicate {room opened : Nat} (more : room < opened) (rest : List Char)
    : parseWithin (some room) (String.ofList (List.replicate opened '[' ++ rest))
      = .error (.tooDeep .array) := by
  obtain ⟨opened, rfl⟩ := Nat.exists_eq_succ_of_ne_zero (Nat.ne_of_gt (Nat.zero_lt_of_lt more))
  have gap : skipGap (List.replicate (opened + 1) '[' ++ rest) = List.replicate (opened + 1) '[' ++ rest := by
    rw [List.replicate_succ, List.cons_append, skipGap, List.dropWhile_cons_of_neg (by decide)]
  have mark : (List.replicate (opened + 1) '[' ++ rest).head? ≠ some (Char.ofNat 0xFEFF) := by
    rw [List.replicate_succ, List.cons_append, List.head?_cons]
    decide
  have read := @readValue_replicate room (opened + 1)
    (2 * (List.replicate (opened + 1) '[' ++ rest).length + 2) more
    (by rw [List.length_append, List.length_replicate]; omega) rest
  rw [parseWithin, String.toList_ofList, readText, if_neg mark, gap, read]
  rfl

end PatchReview.Json
