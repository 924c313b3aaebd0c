import PatchReview.Proofs.Assoc
import PatchReview.Proofs.Attempt
import PatchReview.Review.FileReview

/-! What a review gathers from findings: one violation for each line that has a position, in the order
in which the lines were first found, with the messages of all findings on the line. The findings so far
determine the violations, which every further finding keeps up.
-/

namespace PatchReview

-----------------------------------------------------------------------------------------
-- Messages, each once
-----------------------------------------------------------------------------------------

namespace Violation

/-- Messages are put behind those that are there, except for what is there or came before, by
induction on the messages.
-/
theorem foldl_addMessage (before messages : List Json)
    : messages.foldl addMessage before
      = before ++ (messages.filter fun message => !before.any (Json.same message)).eraseDups := by
  induction messages generalizing before with
  | nil => simp
  | cons message rest ih =>
      rw [List.foldl_cons, ih, addMessage]
      by_cases known : before.any (Json.same message)
      · simp [known]
      · have fresh {other : Json}
            : (!(before ++ [message]).any (Json.same other))
              = (!other == message && !before.any (Json.same other)) := by
          simp [BEq.beq, Bool.and_comm]
        simp only [known, Bool.false_eq_true, if_false, fresh, Bool.not_false, List.filter_cons_of_pos,
          List.eraseDups_cons, List.filter_filter, List.append_assoc, List.singleton_append]

/-- Messages put behind nothing stay, each once. -/
theorem foldl_addMessage_nil (messages : List Json)
    : messages.foldl addMessage [] = messages.eraseDups := by
  have all : messages.filter (fun message => !([] : List Json).any (Json.same message)) = messages :=
    List.filter_eq_self.mpr fun _ _ => rfl
  rw [foldl_addMessage, all, List.nil_append]

/-- More messages put behind some that stand each once are all of them, each once. -/
theorem foldl_addMessage_eraseDups (earlier later : List Json)
    : later.foldl addMessage earlier.eraseDups = (earlier ++ later).eraseDups := by
  rw [← foldl_addMessage_nil, ← foldl_addMessage_nil, List.foldl_append]

end Violation

-----------------------------------------------------------------------------------------
-- The violations that findings make
-----------------------------------------------------------------------------------------

namespace FileReview

/-- The messages of the findings on a line, in order. -/
def messagesOn (line : Int) (found : List Finding) : List Json :=
  (found.filter (·.line.value == line)).flatMap Finding.messages

/-- The lines of findings that have a position, in the order in which they were first found. -/
def placedLines (positionFor : Int → Option Ordinal) (found : List Finding) : List Int :=
  (found.map (·.line.value)).eraseDups.filter fun line => (positionFor line).isSome

/-- (Agrees positionFor filename found violation) says of a violation that it is named as its file, stands
at the position of its line and has the messages that findings have for the line, each once.
-/
structure Agrees (positionFor : Int → Option Ordinal) (filename : Json) (found : List Finding)
    (violation : Violation)
    : Prop where
  named : violation.filename = filename
  placed : positionFor violation.line.value = some violation.position
  messages : violation.messages = (messagesOn violation.line.value found).eraseDups

/-- (Gathers positionFor filename found violations) says what violations are there after findings: one
for each line that has a position.
-/
structure Gathers (positionFor : Int → Option Ordinal) (filename : Json) (found : List Finding)
    (violations : List Violation)
    : Prop where
  lines : violations.map (·.line.value) = placedLines positionFor found
  agree : ∀ violation ∈ violations, Agrees positionFor filename found violation

variable {positionFor : Int → Option Ordinal}

/-- One more finding has messages for its own line only. -/
theorem messagesOn_concat (line : Int) (found : List Finding) (finding : Finding)
    : messagesOn line (found ++ [finding])
      = messagesOn line found ++ if finding.line.value = line then finding.messages else [] := by
  by_cases same : finding.line.value = line
  · simp [messagesOn, same]
  · simp [messagesOn, same]

/-- Lines are placed when something was found on them and they have a position. -/
theorem mem_placedLines_iff {line : Int} {found : List Finding}
    : line ∈ placedLines positionFor found
      ↔ (∃ finding ∈ found, finding.line.value = line) ∧ (positionFor line).isSome := by
  simp [placedLines]

/-- A finding without a position adds no line. -/
theorem placedLines_concat_none {found : List Finding} {finding : Finding}
    (absent : positionFor finding.line.value = none)
    : placedLines positionFor (found ++ [finding]) = placedLines positionFor found := by
  simp only [placedLines, List.map_append, List.map_cons, List.map_nil, eraseDups_concat,
    List.filter_append]
  split <;> simp [absent]

/-- A finding with a position adds its line at the end, unless the line is there. -/
theorem placedLines_concat_some {found : List Finding} {finding : Finding} {position : Ordinal}
    (present : positionFor finding.line.value = some position)
    : placedLines positionFor (found ++ [finding])
      = placedLines positionFor found
        ++ if finding.line.value ∈ placedLines positionFor found then [] else [finding.line.value] := by
  have known : finding.line.value ∈ placedLines positionFor found
      ↔ finding.line.value ∈ found.map (·.line.value) := by
    simp [placedLines, present]
  by_cases among : finding.line.value ∈ found.map (·.line.value)
  · rw [if_pos (known.mpr among)]
    simp only [placedLines, List.map_append, List.map_cons, List.map_nil, eraseDups_concat,
      if_pos among, List.append_nil]
  · rw [if_neg (among ∘ known.mp)]
    simp only [placedLines, List.map_append, List.map_cons, List.map_nil, eraseDups_concat,
      if_neg among, List.filter_append, List.filter_cons, present, Option.isSome_some, if_true,
      List.filter_nil]

/-- A line has no violation when none of the violations is on it. -/
theorem violationAt_eq_none_iff {review : FileReview} {line : Int}
    : review.violationAt line = none ↔ line ∉ review.violations.map (·.line.value) := by
  simp [violationAt]

/-- A line that has a violation keeps it. -/
theorem place_of_mem {review : FileReview} {line : Ordinal}
    (known : line.value ∈ review.violations.map (·.line.value)) (position : Ordinal)
    : review.place line position = .ok review := by
  cases found : review.violationAt line.value with
  | some violation => rw [place, found]
  | none => exact absurd known (violationAt_eq_none_iff.mp found)

/-- A line without a violation gets one at the end, if there can be one at the position. -/
theorem place_of_not_mem {review : FileReview} {line : Ordinal}
    (fresh : line.value ∉ review.violations.map (·.line.value)) (position : Ordinal)
    : review.place line position
      = (Violation.ofParts review.filename line position).map fun violation =>
          { review with violations := review.violations ++ [violation] } := by
  rw [place, violationAt_eq_none_iff.mpr fresh]
  rfl

/-- Messages for a line change no line. -/
theorem map_line_extend (line : Int) (messages : List Json) (violations : List Violation)
    : (extend line messages violations).map (·.line.value) = violations.map (·.line.value) := by
  induction violations with
  | nil => rfl
  | cons violation rest ih =>
      simp only [extend, List.map_cons, List.cons.injEq] at ih ⊢
      refine ⟨?_, ih⟩
      split <;> rfl

/-- What holds of violations once messages were added for a line holds of those on the line with the messages,
and of the others.
-/
theorem forall_mem_extend {line : Int} {messages : List Json} {violations : List Violation}
    {holds : Violation → Prop}
    (here : ∀ violation ∈ violations, violation.line.value = line → holds (violation.addMessages messages))
    (elsewhere : ∀ violation ∈ violations, violation.line.value ≠ line → holds violation)
    : ∀ violation ∈ extend line messages violations, holds violation := by
  intro violation member
  obtain ⟨earlier, before, rfl⟩ := List.mem_map.mp member
  split
  · next same => exact here earlier before (beq_iff_eq.mp same)
  · next other => exact elsewhere earlier before fun same => other (beq_iff_eq.mpr same)

/-- A finding on another line leaves a violation in agreement. -/
theorem Agrees.skip {filename : Json} {found : List Finding} {finding : Finding}
    {violation : Violation} (agrees : Agrees positionFor filename found violation)
    (elsewhere : finding.line.value ≠ violation.line.value)
    : Agrees positionFor filename (found ++ [finding]) violation := by
  refine ⟨agrees.named, agrees.placed, ?_⟩
  rw [agrees.messages, messagesOn_concat, if_neg elsewhere, List.append_nil]

/-- A finding on the line of a violation keeps it in agreement when its messages are added. -/
theorem Agrees.addMessages {filename : Json} {found : List Finding} {finding : Finding}
    {violation : Violation} (agrees : Agrees positionFor filename found violation)
    (here : finding.line.value = violation.line.value)
    : Agrees positionFor filename (found ++ [finding]) (violation.addMessages finding.messages) := by
  refine ⟨agrees.named, agrees.placed, ?_⟩
  simp only [Violation.addMessages, agrees.messages, messagesOn_concat, if_pos here,
    Violation.foldl_addMessage_eraseDups]

/-- Where the line of a finding is among the lines of violations in agreement with what was found before,
its messages make up what there is after it.
-/
theorem Gathers.extend {filename : Json} {found : List Finding} {finding : Finding}
    {violations : List Violation}
    (lines : violations.map (·.line.value) = placedLines positionFor (found ++ [finding]))
    (agree : ∀ violation ∈ violations, Agrees positionFor filename found violation)
    : Gathers positionFor filename (found ++ [finding])
        (extend finding.line.value finding.messages violations) := by
  refine ⟨by rw [map_line_extend, lines], forall_mem_extend ?_ ?_⟩
  · exact fun violation member here => (agree violation member).addMessages here.symm
  · exact fun violation member elsewhere => (agree violation member).skip elsewhere.symm

/-- A new violation agrees with findings of which none is on its line. -/
theorem agrees_ofParts {filename : Json} {line position : Ordinal} {violation : Violation}
    {found : List Finding} (made : Violation.ofParts filename line position = .ok violation)
    (present : positionFor line.value = some position)
    (fresh : ∀ finding ∈ found, finding.line.value ≠ line.value)
    : violation.line = line ∧ Agrees positionFor filename found violation := by
  have silent : messagesOn line.value found = [] := by
    simp only [messagesOn, List.flatMap_eq_nil_iff, List.mem_filter, beq_iff_eq]
    exact fun finding member => absurd member.2 (fresh finding member.1)
  unfold Violation.ofParts at made
  split at made
  · cases made
  · split at made
    · cases made
    · cases made
      exact ⟨rfl, rfl, present, by simp [silent]⟩

/-- Recording a finding keeps up what is gathered, by cases on its position and on whether its line
has a violation.
-/
theorem Gathers.addFinding {found : List Finding} {finding : Finding} {review next : FileReview}
    (gathered : Gathers positionFor review.filename found review.violations)
    (added : review.addFinding finding (positionFor finding.line.value) = .ok next)
    : next.filename = review.filename
      ∧ Gathers positionFor review.filename (found ++ [finding]) next.violations := by
  obtain ⟨lines, agree⟩ := gathered
  cases present : positionFor finding.line.value with
  | none =>
      rw [present] at added
      cases added
      refine ⟨rfl, by rw [lines, placedLines_concat_none present], ?_⟩
      intro violation member
      refine (agree violation member).skip fun same => ?_
      rw [same, (agree violation member).placed] at present
      cases present
  | some position =>
      simp only [present, FileReview.addFinding, Except.bind_eq_ok_iff] at added
      obtain ⟨reached, put, made⟩ := added
      cases made
      by_cases known : finding.line.value ∈ placedLines positionFor found
      · rw [place_of_mem (lines ▸ known)] at put
        cases put
        refine ⟨rfl, Gathers.extend ?_ agree⟩
        rw [lines, placedLines_concat_some present, if_pos known, List.append_nil]
      · rw [place_of_not_mem (lines ▸ known)] at put
        obtain ⟨violation, fresh, made⟩ := Except.map_eq_ok_iff.mp put
        cases made
        have unseen : ∀ earlier ∈ found, earlier.line.value ≠ finding.line.value :=
          fun earlier member same =>
            known (mem_placedLines_iff.mpr ⟨⟨earlier, member, same⟩, by simp [present]⟩)
        obtain ⟨line_eq, agrees⟩ := agrees_ofParts fresh present unseen
        refine ⟨rfl, Gathers.extend ?_ ?_⟩
        · simp [placedLines_concat_some present, known, lines, line_eq]
        · intro other member
          rcases List.mem_append.mp member with earlier | last
          · exact agree other earlier
          · exact List.mem_singleton.mp last ▸ agrees

/-- Recording findings one after the other keeps up what is gathered, by induction on the findings. -/
theorem Gathers.addFindings {before found : List Finding} {review result : FileReview}
    (gathered : Gathers positionFor review.filename before review.violations)
    (added : review.addFindings positionFor found = .ok result)
    : result.filename = review.filename
      ∧ Gathers positionFor review.filename (before ++ found) result.violations := by
  induction found generalizing before review with
  | nil =>
      cases added
      simpa using gathered
  | cons finding rest ih =>
      obtain ⟨next, first, later⟩ := Except.bind_eq_ok_iff.mp added
      obtain ⟨named, reached⟩ := gathered.addFinding first
      rw [← named] at reached ⊢
      simpa using ih reached later

/-- A review that starts with nothing has gathered all findings recorded in it. -/
theorem gathers_addFindings {filename linter : Json} {found : List Finding} {result : FileReview}
    (added : (start filename linter).addFindings positionFor found = .ok result)
    : result.filename = filename ∧ Gathers positionFor filename found result.violations := by
  have nothing : Gathers positionFor filename [] (start filename linter).violations :=
    ⟨rfl, by simp [start]⟩
  simpa only [List.nil_append, start] using nothing.addFindings added

end FileReview

-----------------------------------------------------------------------------------------
-- Where violations stand
-----------------------------------------------------------------------------------------

/-- (violation.StandsIn filename) says that a violation is named as its file, and that its line and its
position count from one.
-/
structure Violation.StandsIn (violation : Violation) (filename : Json) : Prop where
  named : violation.filename = filename
  line : 0 < violation.line.value
  position : 0 < violation.position.value

theorem Violation.standsIn_ofParts {filename : Json} {line position : Ordinal} {violation : Violation}
    (made : Violation.ofParts filename line position = .ok violation)
    : violation.StandsIn filename := by
  unfold Violation.ofParts at made
  split at made
  · cases made
  · next counted =>
      split at made
      · cases made
      · next placed =>
          cases made
          exact ⟨rfl, Int.not_le.mp counted, Int.not_le.mp placed⟩

namespace FileReview

/-- (review.Extends earlier) says that a review differs from an earlier one in nothing but its violations,
which stand in its file if those of the earlier one do.
-/
structure Extends (review earlier : FileReview) : Prop where
  frame : review = { earlier with violations := review.violations }
  stand : (∀ violation ∈ earlier.violations, violation.StandsIn earlier.filename) →
    ∀ violation ∈ review.violations, violation.StandsIn earlier.filename

/-- More messages leave violations where they stand. -/
theorem standsIn_extend {filename : Json} {line : Int} {messages : List Json}
    {violations : List Violation} (stand : ∀ violation ∈ violations, violation.StandsIn filename)
    : ∀ violation ∈ extend line messages violations, violation.StandsIn filename := by
  refine forall_mem_extend (fun violation member _ => ?_) fun violation member _ => stand violation member
  obtain ⟨named, line, position⟩ := stand violation member
  exact ⟨named, line, position⟩

/-- A line that gets its violation has it stand in the file. -/
theorem extends_place {review next : FileReview} {line position : Ordinal}
    (placed : review.place line position = .ok next)
    : next.Extends review := by
  unfold place at placed
  split at placed
  · cases placed
    exact ⟨rfl, id⟩
  · obtain ⟨violation, fresh, made⟩ := Except.bind_eq_ok_iff.mp placed
    cases made
    refine ⟨rfl, fun stand other member => ?_⟩
    rcases List.mem_append.mp member with earlier | last
    · exact stand other earlier
    · exact List.mem_singleton.mp last ▸ Violation.standsIn_ofParts fresh

theorem extends_addFinding {review next : FileReview} {finding : Finding} {position : Option Ordinal}
    (added : review.addFinding finding position = .ok next)
    : next.Extends review := by
  cases position with
  | none =>
      cases added
      exact ⟨rfl, id⟩
  | some position =>
      obtain ⟨placed, put, made⟩ := Except.bind_eq_ok_iff.mp added
      cases made
      obtain ⟨frame, stand⟩ := extends_place put
      refine ⟨by rw [frame], fun before => ?_⟩
      exact standsIn_extend (stand before)

/-- Findings recorded one after the other extend a review, by induction on the findings. -/
theorem extends_addFindings {positionFor : Int → Option Ordinal} {found : List Finding}
    {review result : FileReview} (added : review.addFindings positionFor found = .ok result)
    : result.Extends review := by
  induction found generalizing review with
  | nil =>
      cases added
      exact ⟨rfl, id⟩
  | cons finding rest ih =>
      obtain ⟨next, first, later⟩ := Except.bind_eq_ok_iff.mp added
      obtain ⟨frame, stand⟩ := extends_addFinding first
      obtain ⟨laterFrame, laterStand⟩ := ih later
      rw [frame] at laterFrame laterStand
      exact ⟨laterFrame, fun before => laterStand (stand before)⟩

end FileReview

end PatchReview
