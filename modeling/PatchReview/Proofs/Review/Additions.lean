import PatchReview.Proofs.Linter.EngineRuns
import PatchReview.Proofs.Review.Violations

/-! Reviews to which findings are added directly, in any order and at any positions. The first addition to a
line at a position from one on makes its violation, and later ones only put messages behind those that are
there. What is dropped or refused leaves no trace.
-/

namespace PatchReview

-----------------------------------------------------------------------------------------
-- Findings given as plain values
-----------------------------------------------------------------------------------------

/-- (finding.IsGivenBy given) says that plain values are admitted as this finding. -/
def Finding.IsGivenBy (finding : Finding) (given : Json.Fields) : Prop :=
  (Finding.fillIn given).map .obj = .ok finding.toJson

/-- The fields of a finding with their values. -/
def Finding.toFields (finding : Finding) : Json.Fields :=
  [("line_number", finding.line.toJson), ("messages", .arr finding.messages), ("rule", finding.rule),
    ("level", finding.level)]

/-- Numbers of lines and positions are compared by what they count as. -/
theorem Ordinal.isAtMost_toJson (ordinal : Ordinal) (bound : Int)
    : ordinal.toJson.isAtMost bound = .ok (decide (ordinal.value ≤ bound)) := by
  have order : ordinal.toJson.compareTo bound = .ok (some (compare ordinal.value bound)) := by
    cases ordinal <;> rfl
  rw [Json.isAtMost, order]
  refine congrArg Except.ok (Bool.eq_iff_iff.mpr ?_)
  simp only [Option.some.injEq, Bool.or_eq_true, decide_eq_true_eq, Int.compare_eq_lt, Int.compare_eq_eq]
  exact Int.le_iff_lt_or_eq.symm

theorem Finding.IsGivenBy.filled {finding : Finding} {given : Json.Fields}
    (admits : finding.IsGivenBy given)
    : Finding.fillIn given = .ok finding.toFields := by
  obtain ⟨fields, filled, same⟩ := Except.map_eq_ok_iff.mp admits
  rw [filled, Json.obj.inj same, toFields]

/-- Plain values are admitted as a finding that is admitted itself: they are checked for its line and its
messages before the finding is made.
-/
theorem Finding.IsGivenBy.isAdmitted {finding : Finding} {given : Json.Fields}
    (admits : finding.IsGivenBy given)
    : finding.IsAdmitted := by
  have filled := admits.filled
  unfold fillIn at filled
  simp only [Except.bind_eq_ok_iff] at filled
  obtain ⟨values, -, low, counted, made⟩ := filled
  split at made
  · cases made
  next high =>
    split at made
    · cases made
    next told =>
      -- Writing the messages is the last step, so both fields are what was checked.
      have written := Except.ok.inj made
      have line : Json.getD values "line_number" .null = finding.line.toJson := by
        have apart : "line_number" ≠ "messages" := by decide
        have kept := Assoc.get?_set_of_ne apart (messagesOf (Json.getD values "messages" .null)) values
        rw [written] at kept
        rw [Json.getD, ← kept]
        rfl
      have messages : messagesOf (Json.getD values "messages" .null) = .arr finding.messages := by
        have found := Assoc.get?_set_self "messages" (messagesOf (Json.getD values "messages" .null)) values
        rw [written] at found
        exact (Option.some.inj found).symm
      rw [line, Ordinal.isAtMost_toJson] at counted
      rw [messages] at told
      obtain rfl := Except.ok.inj counted
      refine isAdmitted_iff.mpr ⟨?_, ?_⟩
      · simpa using high
      · simpa [Json.isTruthy] using told

namespace FileReview

/-- A finding given as plain values is recorded as it is, and one that is refused leaves the review. -/
theorem addGiven_of_isGivenBy {finding : Finding} {given : Json.Fields} (admits : finding.IsGivenBy given)
    (review : FileReview) (position : Option Ordinal)
    : review.addGiven given (.ofOption Ordinal.toJson position)
      = match review.addFinding finding position with
        | .ok next => (.ok (), next)
        | .error refusal => (.error (.refused refusal), review) := by
  cases position with
  | none =>
      simp only [addGiven, admits.filled]
      rfl
  | some position =>
      have there : position.toJson.same .null = false := by cases position <;> rfl
      have read (ordinal : Ordinal) : Ordinal.ofJson? ordinal.toJson = some ordinal :=
        Ordinal.ofJson?_eq_some_iff.mpr rfl
      have line : Json.getD finding.toFields "line_number" .null = finding.line.toJson := rfl
      have messages : Json.getD finding.toFields "messages" .null = .arr finding.messages := rfl
      simp only [addGiven, admits.filled, Json.ofOption, there, Bool.false_eq_true, if_false, line, messages,
        read, Option.getD_some, Json.items]
      cases known : review.violationAt finding.line.value with
      | some violation =>
          simp only [addFinding, place, known]
          rfl
      | none =>
          rw [Ordinal.isAtMost_toJson]
          cases put : review.place finding.line position with
          | error refusal =>
              simp only [addFinding, put]
              rfl
          | ok placed =>
              simp only [addFinding, put]
              rfl

end FileReview

-----------------------------------------------------------------------------------------
-- What an addition does
-----------------------------------------------------------------------------------------

/-- A finding that is added to a review, with the plain values it is given by and its position. -/
structure Addition where
  given : Json.Fields
  finding : Finding
  position : Option Ordinal
  admits : finding.IsGivenBy given

namespace Addition

/-- What comes of an addition to a review, and the review after it. -/
def on (addition : Addition) (review : FileReview) : Except Failure Unit × FileReview :=
  review.addGiven addition.given (.ofOption Ordinal.toJson addition.position)

/-- (addition.Opens line) says that an addition is to a line and at a position from one on. -/
def Opens (addition : Addition) (line : Int) : Prop :=
  addition.finding.line.value = line ∧ ∃ position, addition.position = some position ∧ 0 < position.value

/-- (addition.Misses review) says that an addition is to a line without a violation and at a position that does
not count from one.
-/
def Misses (addition : Addition) (review : FileReview) : Prop :=
  addition.finding.line.value ∉ review.violations.map (·.line.value)
    ∧ ∃ position, addition.position = some position ∧ position.value ≤ 0

/-- (addition.Does review outcome next) says what an addition can do to a review. -/
inductive Does (addition : Addition) (review : FileReview) : Except Failure Unit → FileReview → Prop where
  | dropped (unplaced : addition.position = none) : Does addition review (.ok ()) review
  | refused (misses : addition.Misses review)
      : Does addition review (.error (.refused .violationPosition)) review
  | opened {position : Ordinal} (placed : addition.position = some position) (counts : 0 < position.value)
      (fresh : addition.finding.line.value ∉ review.violations.map (·.line.value))
      : Does addition review (.ok ())
          { review with
            violations := review.violations
              ++ [⟨review.filename, addition.finding.line, position, addition.finding.messages.eraseDups⟩] }
  | extended {position : Ordinal} (placed : addition.position = some position)
      (known : addition.finding.line.value ∈ review.violations.map (·.line.value))
      : Does addition review (.ok ())
          { review with
            violations := FileReview.extend addition.finding.line.value addition.finding.messages
              review.violations }

end Addition

namespace FileReview

/-- Messages go to the violations on the line one by one. -/
theorem extend_concat (line : Int) (messages : List Json) (violations : List Violation) (violation : Violation)
    : extend line messages (violations ++ [violation])
      = extend line messages violations
        ++ [if violation.line.value = line then violation.addMessages messages else violation] := by
  simp [extend]

/-- Messages for a line without a violation go nowhere. -/
theorem extend_of_not_mem {line : Int} {violations : List Violation}
    (fresh : line ∉ violations.map (·.line.value)) (messages : List Json)
    : extend line messages violations = violations := by
  have same : ∀ violation ∈ violations,
      (if violation.line.value == line then violation.addMessages messages else violation) = violation :=
    fun violation member => if_neg fun here =>
      fresh (List.mem_map.mpr ⟨violation, member, beq_iff_eq.mp here⟩)
  exact (List.map_congr_left same).trans (List.map_id violations)

end FileReview

/-- What comes of an addition is one of these, by cases on its position and on whether its line has a
violation.
-/
theorem Addition.does_on (addition : Addition) (review : FileReview)
    : addition.Does review (addition.on review).1 (addition.on review).2 := by
  have line := (Finding.isAdmitted_iff.mp addition.admits.isAdmitted).1
  rw [on, FileReview.addGiven_of_isGivenBy addition.admits]
  cases placed : addition.position with
  | none => exact .dropped placed
  | some position =>
      by_cases known : addition.finding.line.value ∈ review.violations.map (·.line.value)
      · rw [FileReview.addFinding, FileReview.place_of_mem known]
        exact .extended placed known
      · rw [FileReview.addFinding, FileReview.place_of_not_mem known, Violation.ofParts,
          if_neg (Int.not_le.mpr line)]
        by_cases low : position.value ≤ 0
        · rw [if_pos low]
          exact .refused ⟨known, position, placed, low⟩
        · rw [if_neg low]
          -- The new violation is the only one on the line, so that the messages go to it alone.
          have filled : FileReview.extend addition.finding.line.value addition.finding.messages
              (review.violations ++ [⟨review.filename, addition.finding.line, position, []⟩])
              = review.violations
                ++ [⟨review.filename, addition.finding.line, position,
                  addition.finding.messages.eraseDups⟩] := by
            rw [FileReview.extend_concat, FileReview.extend_of_not_mem known, if_pos rfl,
              Violation.addMessages, Violation.foldl_addMessage_nil]
          have opened := Does.opened placed (Int.not_le.mp low) known
          rw [← filled] at opened
          exact opened

namespace Addition.Does

variable {addition : Addition} {review next : FileReview} {outcome : Except Failure Unit}

/-- Only an addition without a position is dropped. -/
theorem dropped_of_unplaced (does : addition.Does review outcome next) (unplaced : addition.position = none)
    : outcome = .ok () ∧ next = review := by
  cases does with
  | dropped => exact ⟨rfl, rfl⟩
  | refused misses =>
      obtain ⟨-, position, placed, -⟩ := misses
      cases unplaced.symm.trans placed
  | opened placed => cases unplaced.symm.trans placed
  | extended placed => cases unplaced.symm.trans placed

/-- An addition fails just when it misses, and always for its position. -/
theorem fails_iff (does : addition.Does review outcome next) {failure : Failure}
    : outcome = .error failure ↔ failure = .refused .violationPosition ∧ addition.Misses review := by
  cases does with
  | dropped unplaced =>
      refine ⟨nofun, fun ⟨_, _, position, placed, _⟩ => ?_⟩
      cases unplaced.symm.trans placed
  | refused misses =>
      rw [Except.error.injEq, eq_comm, and_iff_left misses]
  | opened placed counts =>
      refine ⟨nofun, fun ⟨_, _, position, same, low⟩ => ?_⟩
      obtain rfl := Option.some.inj (placed.symm.trans same)
      exact absurd counts (Int.not_lt.mpr low)
  | extended placed known => exact ⟨nofun, fun ⟨_, fresh, _⟩ => absurd known fresh⟩

/-- An addition that fails leaves the review. -/
theorem unchanged {failure : Failure} (does : addition.Does review (.error failure) next)
    : next = review := by
  cases does
  rfl

end Addition.Does

-----------------------------------------------------------------------------------------
-- What stays
-----------------------------------------------------------------------------------------

/-- (later.Continues earlier) says that a violation stands where an earlier one does, and has its messages in
their order with others behind them.
-/
structure Violation.Continues (later earlier : Violation) : Prop where
  frame : later = { earlier with messages := later.messages }
  messages : earlier.messages <+: later.messages

theorem Violation.Continues.refl (violation : Violation) : violation.Continues violation :=
  ⟨rfl, List.prefix_rfl⟩

theorem Violation.Continues.trans {last later earlier : Violation} (first : later.Continues earlier)
    (second : last.Continues later)
    : last.Continues earlier :=
  ⟨by rw [second.frame, first.frame], first.messages.trans second.messages⟩

/-- More messages come behind those of a violation. -/
theorem Violation.continues_addMessages (violation : Violation) (messages : List Json)
    : (violation.addMessages messages).Continues violation := by
  refine ⟨rfl, ?_⟩
  rw [addMessages, foldl_addMessage]
  exact List.prefix_append _ _

namespace FileReview

/-- (later.Continues earlier) says that a review has the violations of an earlier one in their places, each
continued, and differs from it in nothing but its violations.
-/
structure Continues (later earlier : FileReview) : Prop where
  frame : later = { earlier with violations := later.violations }
  kept : ∀ (index : Nat) violation, earlier.violations[index]? = some violation →
    ∃ continued, later.violations[index]? = some continued ∧ continued.Continues violation

theorem Continues.refl (review : FileReview) : review.Continues review :=
  ⟨rfl, fun _ violation found => ⟨violation, found, .refl violation⟩⟩

theorem Continues.trans {last later earlier : FileReview} (first : later.Continues earlier)
    (second : last.Continues later)
    : last.Continues earlier := by
  refine ⟨by rw [second.frame, first.frame], fun index violation found => ?_⟩
  obtain ⟨continued, foundLater, grown⟩ := first.kept index violation found
  obtain ⟨ended, foundLast, grownMore⟩ := second.kept index continued foundLater
  exact ⟨ended, foundLast, grown.trans grownMore⟩

end FileReview

/-- An addition continues a review, whatever comes of it. -/
theorem Addition.Does.continues {addition : Addition} {review next : FileReview}
    {outcome : Except Failure Unit} (does : addition.Does review outcome next)
    : next.Continues review := by
  cases does with
  | dropped => exact .refl review
  | refused => exact .refl review
  | opened =>
      refine ⟨rfl, fun index violation found => ⟨violation, ?_, .refl violation⟩⟩
      obtain ⟨inside, -⟩ := List.getElem?_eq_some_iff.mp found
      rw [List.getElem?_append_left inside, found]
  | extended =>
      refine ⟨rfl, fun index violation found => ?_⟩
      simp only [FileReview.extend, List.getElem?_map, found, Option.map_some, Option.some.injEq,
        exists_eq_left']
      split
      · exact violation.continues_addMessages _
      · exact .refl violation

namespace FileReview

/-- A review after additions one after the other, whatever comes of each. -/
def after (review : FileReview) (additions : List Addition) : FileReview :=
  additions.foldl (fun reached addition => (addition.on reached).2) review

theorem after_append (review : FileReview) (earlier later : List Addition)
    : review.after (earlier ++ later) = (review.after earlier).after later :=
  List.foldl_append

/-- Additions continue a review, by induction on the additions. -/
theorem continues_after (review : FileReview) (additions : List Addition)
    : (review.after additions).Continues review := by
  induction additions generalizing review with
  | nil => exact .refl review
  | cons addition rest ih => exact (addition.does_on review).continues.trans (ih (addition.on review).2)

end FileReview

-----------------------------------------------------------------------------------------
-- Where violations come from
-----------------------------------------------------------------------------------------

/-- The findings of additions that have a position, in order. -/
def Addition.placed (additions : List Addition) : List Finding :=
  (additions.filter (·.position.isSome)).map (·.finding)

/-- (violation.Reflects before opening later) says of a violation that an addition made it, at whose position it
stands, after additions that could not, and that it has the messages for its line from there on, each once.
-/
structure Violation.Reflects (violation : Violation) (before : List Addition) (opening : Addition)
    (later : List Addition)
    : Prop where
  first : ∀ earlier ∈ before, ¬ earlier.Opens violation.line.value
  opens : opening.Opens violation.line.value
  line : opening.finding.line = violation.line
  position : opening.position = some violation.position
  messages : violation.messages
    = (FileReview.messagesOn violation.line.value (Addition.placed (opening :: later))).eraseDups

theorem Addition.placed_concat (additions : List Addition) (addition : Addition)
    : placed (additions ++ [addition])
      = placed additions ++ if addition.position.isSome then [addition.finding] else [] := by
  cases present : addition.position.isSome with
  | true => simp [placed, present]
  | false => simp [placed, present]

namespace Violation.Reflects

variable {violation : Violation} {before later : List Addition} {opening : Addition}

/-- An addition without a position, or to another line, is not reflected. -/
theorem skip (reflects : violation.Reflects before opening later) {addition : Addition}
    (silent : addition.position = none ∨ addition.finding.line.value ≠ violation.line.value)
    : violation.Reflects before opening (later ++ [addition]) := by
  refine ⟨reflects.first, reflects.opens, reflects.line, reflects.position, ?_⟩
  rw [reflects.messages, ← List.cons_append, Addition.placed_concat]
  rcases silent with unplaced | elsewhere
  · rw [unplaced, Option.isSome_none, if_neg Bool.false_ne_true, List.append_nil]
  · split
    · rw [FileReview.messagesOn_concat, if_neg elsewhere, List.append_nil]
    · rw [List.append_nil]

/-- An addition to the line, at whatever position, is reflected by its messages. -/
theorem addMessages (reflects : violation.Reflects before opening later) {addition : Addition}
    (placed : addition.position.isSome) (here : addition.finding.line.value = violation.line.value)
    : (violation.addMessages addition.finding.messages).Reflects before opening (later ++ [addition]) := by
  refine ⟨reflects.first, reflects.opens, reflects.line, reflects.position, ?_⟩
  rw [Violation.addMessages, reflects.messages, ← List.cons_append, Addition.placed_concat, if_pos placed,
    FileReview.messagesOn_concat, if_pos here, foldl_addMessage_eraseDups]

/-- A violation reflects the addition that makes it. -/
theorem of_opened {filename : Json} {addition : Addition} {position : Ordinal}
    (placed : addition.position = some position) (counts : 0 < position.value)
    (unopened : ∀ earlier ∈ before, ¬ earlier.Opens addition.finding.line.value)
    : Reflects ⟨filename, addition.finding.line, position, addition.finding.messages.eraseDups⟩
        before addition [] := by
  refine ⟨unopened, ⟨rfl, position, placed, counts⟩, rfl, placed, ?_⟩
  simp [Addition.placed, placed, FileReview.messagesOn]

/-- The line and the position of a violation count from one. -/
theorem standsIn (reflects : violation.Reflects before opening later)
    : violation.StandsIn violation.filename := by
  obtain ⟨onLine, position, placed, counts⟩ := reflects.opens
  have admitted := Finding.isAdmitted_iff.mp opening.admits.isAdmitted
  obtain rfl := Option.some.inj (placed.symm.trans reflects.position)
  exact ⟨rfl, onLine ▸ admitted.1, counts⟩

/-- A violation has messages, since the finding that made it has. -/
theorem messages_ne_nil (reflects : violation.Reflects before opening later)
    : violation.messages ≠ [] := by
  have admitted := Finding.isAdmitted_iff.mp opening.admits.isAdmitted
  obtain ⟨message, others, filled⟩ := List.exists_cons_of_ne_nil admitted.2
  have own : FileReview.messagesOn violation.line.value (Addition.placed (opening :: later))
      = opening.finding.messages
        ++ FileReview.messagesOn violation.line.value (Addition.placed later) := by
    simp [Addition.placed, FileReview.messagesOn, reflects.position, reflects.line]
  rw [reflects.messages, own, filled, List.cons_append, List.eraseDups_cons]
  exact List.cons_ne_nil _ _

end Violation.Reflects

/-- (violation.IsMadeBy additions) says that a violation reflects additions from one of them on. -/
def Violation.IsMadeBy (violation : Violation) (additions : List Addition) : Prop :=
  ∃ before opening later, additions = before ++ opening :: later ∧ violation.Reflects before opening later

theorem Violation.IsMadeBy.skip {violation : Violation} {additions : List Addition} {addition : Addition}
    (made : violation.IsMadeBy additions)
    (silent : addition.position = none ∨ addition.finding.line.value ≠ violation.line.value)
    : violation.IsMadeBy (additions ++ [addition]) := by
  obtain ⟨before, opening, later, rfl, reflects⟩ := made
  exact ⟨before, opening, later ++ [addition], by simp, reflects.skip silent⟩

theorem Violation.IsMadeBy.addMessages {violation : Violation} {additions : List Addition}
    {addition : Addition} (made : violation.IsMadeBy additions) (placed : addition.position.isSome)
    (here : addition.finding.line.value = violation.line.value)
    : (violation.addMessages addition.finding.messages).IsMadeBy (additions ++ [addition]) := by
  obtain ⟨before, opening, later, rfl, reflects⟩ := made
  exact ⟨before, opening, later ++ [addition], by simp, reflects.addMessages placed here⟩

/-- Messages that stand each once still do with one more, which is left out if there is one equal to it. -/
theorem Violation.pairwise_addMessage {messages : List Json}
    (distinct : messages.Pairwise fun earlier later => ¬ later.same earlier) (message : Json)
    : (addMessage messages message).Pairwise fun earlier later => ¬ later.same earlier := by
  unfold addMessage
  split
  · exact distinct
  · next new =>
      refine List.pairwise_append.mpr ⟨distinct, List.pairwise_singleton _ message, ?_⟩
      intro earlier member later last
      obtain rfl := List.mem_singleton.mp last
      exact fun same => new (List.any_eq_true.mpr ⟨earlier, member, same⟩)

/-- In messages, each once, none is equal to an earlier one, by induction on the messages from their end. -/
theorem Violation.pairwise_eraseDups (messages : List Json)
    : messages.eraseDups.Pairwise fun earlier later => ¬ later.same earlier := by
  rw [← foldl_addMessage_nil]
  induction messages using List.reverseRecOn with
  | nil => exact List.Pairwise.nil
  | append_singleton messages message ih =>
      rw [List.foldl_append]
      exact pairwise_addMessage ih message

-----------------------------------------------------------------------------------------
-- What additions amount to
-----------------------------------------------------------------------------------------

namespace FileReview

/-- (Records filename additions violations) says what violations additions make in a review that has none: one on
each line that an addition opens, in the name of the file.
-/
structure Records (filename : Json) (additions : List Addition) (violations : List Violation) : Prop where
  single : (violations.map (·.line.value)).Nodup
  opened : ∀ line, line ∈ violations.map (·.line.value) ↔ ∃ addition ∈ additions, addition.Opens line
  named : ∀ violation ∈ violations, violation.filename = filename
  made : ∀ violation ∈ violations, violation.IsMadeBy additions

variable {filename : Json} {additions : List Addition} {violations : List Violation}

/-- A line is opened by additions and one more when it has a violation, or the last one opens it. -/
theorem Records.opened_concat (records : Records filename additions violations) (addition : Addition)
    (line : Int)
    : (∃ other ∈ additions ++ [addition], other.Opens line)
      ↔ line ∈ violations.map (·.line.value) ∨ addition.Opens line := by
  rw [records.opened line]
  simp only [List.mem_append, List.mem_singleton, or_and_right, exists_or, exists_eq_left]

/-- An addition without a position, or to a line without a violation, that opens no line leaves what is
recorded.
-/
theorem Records.skip (records : Records filename additions violations) {addition : Addition}
    (silent : addition.position = none ∨ addition.finding.line.value ∉ violations.map (·.line.value))
    (shut : ∀ line, ¬ addition.Opens line)
    : Records filename (additions ++ [addition]) violations := by
  refine ⟨records.single, fun line => ?_, records.named, fun violation member => ?_⟩
  · rw [records.opened_concat, or_iff_left (shut line)]
  · refine (records.made violation member).skip (silent.imp_right fun absent same => ?_)
    exact absent (List.mem_map.mpr ⟨violation, member, same.symm⟩)

/-- An addition that opens a line without a violation makes one, which stands behind the others. -/
theorem Records.push (records : Records filename additions violations) {addition : Addition}
    {position : Ordinal} (placed : addition.position = some position) (counts : 0 < position.value)
    (fresh : addition.finding.line.value ∉ violations.map (·.line.value))
    : Records filename (additions ++ [addition])
        (violations
          ++ [⟨filename, addition.finding.line, position, addition.finding.messages.eraseDups⟩]) := by
  have unopened : ∀ earlier ∈ additions, ¬ earlier.Opens addition.finding.line.value :=
    fun earlier member opens => fresh ((records.opened _).mpr ⟨earlier, member, opens⟩)
  refine ⟨?_, fun line => ?_, ?_, ?_⟩
  · rw [List.map_append, List.map_singleton]
    exact List.nodup_append.mpr ⟨records.single, by simp, by simpa using fresh⟩
  · rw [records.opened_concat, List.map_append, List.mem_append, List.map_singleton, List.mem_singleton]
    refine or_congr_right ⟨?_, fun opens => opens.1.symm⟩
    rintro rfl
    exact ⟨rfl, position, placed, counts⟩
  · exact List.forall_mem_append.mpr ⟨records.named, by simp⟩
  · refine List.forall_mem_append.mpr ⟨fun violation member => ?_, List.forall_mem_singleton.mpr ?_⟩
    · refine (records.made violation member).skip (Or.inr fun same => ?_)
      exact fresh (List.mem_map.mpr ⟨violation, member, same.symm⟩)
    · exact ⟨additions, addition, [], rfl, .of_opened placed counts unopened⟩

/-- An addition at some position to a line with a violation puts its messages there. -/
theorem Records.extend (records : Records filename additions violations) {addition : Addition}
    (placed : addition.position.isSome)
    (known : addition.finding.line.value ∈ violations.map (·.line.value))
    : Records filename (additions ++ [addition])
        (FileReview.extend addition.finding.line.value addition.finding.messages violations) := by
  refine ⟨?_, fun line => ?_, forall_mem_extend ?_ ?_, forall_mem_extend ?_ ?_⟩
  · rw [map_line_extend]
    exact records.single
  · rw [records.opened_concat, map_line_extend]
    refine (or_iff_left_of_imp ?_).symm
    rintro ⟨rfl, -⟩
    exact known
  · exact fun violation member _ => records.named violation member
  · exact fun violation member _ => records.named violation member
  · exact fun violation member here => (records.made violation member).addMessages placed here.symm
  · exact fun violation member elsewhere => (records.made violation member).skip (Or.inr elsewhere.symm)

/-- One more addition keeps up what is recorded, by cases on what it does. -/
theorem Records.concat {review next : FileReview} {addition : Addition} {outcome : Except Failure Unit}
    (records : Records review.filename additions review.violations)
    (does : addition.Does review outcome next)
    : Records next.filename (additions ++ [addition]) next.violations := by
  cases does with
  | dropped unplaced =>
      refine records.skip (Or.inl unplaced) ?_
      rintro line ⟨-, position, placed, -⟩
      rw [unplaced] at placed
      cases placed
  | refused misses =>
      obtain ⟨fresh, position, placed, low⟩ := misses
      refine records.skip (Or.inr fresh) ?_
      rintro line ⟨-, other, same, counts⟩
      obtain rfl := Option.some.inj (placed.symm.trans same)
      exact absurd counts (Int.not_lt.mpr low)
  | opened placed counts fresh => exact records.push placed counts fresh
  | extended placed known => exact records.extend (by simp [placed]) known

/-- What additions make in a review without violations is recorded, by induction on the additions from their
end.
-/
theorem records_after {review : FileReview} (empty : review.violations = []) (additions : List Addition)
    : Records (review.after additions).filename additions (review.after additions).violations := by
  induction additions using List.reverseRecOn with
  | nil =>
      have nothing : (review.after []).violations = [] := empty
      rw [nothing]
      exact ⟨List.nodup_nil, by simp, by simp, by simp⟩
  | append_singleton additions addition ih =>
      rw [after_append]
      exact ih.concat (addition.does_on (review.after additions))

/-- (review.Accumulates additions) says what a review is that additions were made to when it had no violations,
and what further additions do to it.
-/
structure Accumulates (review : FileReview) (additions : List Addition) : Prop where
  /-- No line has two violations. -/
  single : (review.violations.map (·.line.value)).Nodup
  /-- There is a violation on the lines that were added to at a position from one on, and on no others. -/
  opened : ∀ line,
    line ∈ review.violations.map (·.line.value) ↔ ∃ addition ∈ additions, addition.Opens line
  /-- A violation is named as the file, and its line and its position count from one. -/
  standing : ∀ violation ∈ review.violations, violation.StandsIn review.filename
  /-- A violation stands at the position of the first addition that opened its line, and has the messages for
  the line from there on.
  -/
  made : ∀ violation ∈ review.violations, violation.IsMadeBy additions
  /-- A violation has messages, and none of them is equal to an earlier one. -/
  messages : ∀ violation ∈ review.violations,
    violation.messages ≠ [] ∧ violation.messages.Pairwise fun earlier later => ¬ later.same earlier
  /-- An addition without a position is dropped. -/
  dropped : ∀ addition : Addition, addition.position = none → addition.on review = (.ok (), review)
  /-- An addition fails just when the position for a new line does not count from one. -/
  refused : ∀ (addition : Addition) (failure : Failure),
    (addition.on review).1 = .error failure
      ↔ failure = .refused .violationPosition ∧ addition.Misses review
  /-- An addition that fails leaves the review as it was. -/
  restored : ∀ (addition : Addition) (failure : Failure),
    (addition.on review).1 = .error failure → (addition.on review).2 = review
  /-- Violations and messages stay in their order, whatever is added. -/
  kept : ∀ further, (review.after further).Continues review

/-- A review without violations accumulates what is added to it, in whatever order and at whatever positions.
Witness: each addition keeps up what is recorded, and does one of four things to what is there.
-/
theorem accumulates_after {review : FileReview} (empty : review.violations = []) (additions : List Addition)
    : (review.after additions).Accumulates additions := by
  have records := records_after empty additions
  generalize review.after additions = reached at records
  refine {
    single := records.single
    opened := records.opened
    standing := ?_
    made := records.made
    messages := ?_
    dropped := ?_
    refused := fun addition failure => (addition.does_on reached).fails_iff
    restored := ?_
    kept := fun further => reached.continues_after further }
  · intro violation member
    obtain ⟨before, opening, later, -, reflects⟩ := records.made violation member
    exact records.named violation member ▸ reflects.standsIn
  · intro violation member
    obtain ⟨before, opening, later, -, reflects⟩ := records.made violation member
    refine ⟨reflects.messages_ne_nil, ?_⟩
    rw [reflects.messages]
    exact Violation.pairwise_eraseDups _
  · intro addition unplaced
    obtain ⟨done, left⟩ := (addition.does_on reached).dropped_of_unplaced unplaced
    exact Prod.ext done left
  · intro addition failure failed
    have does := addition.does_on reached
    rw [failed] at does
    exact does.unchanged

/-- A review of a file without violations. -/
def untouchedReview : FileReview := .start (.str "a.coffee") (.str "coffeescript")

/-- Additions to the third line at no position, at zero and at the second position, to the first line, and to
the third again at a negative position; one that leaves out what may be left out.
-/
def mixedAdditions : List Addition := [
  ⟨[("line_number", .int 3), ("messages", .arr [.str "u"])], ⟨.number 3, [.str "u"], .null, .null⟩, none, rfl⟩,
  ⟨[("line_number", .int 3), ("messages", .str "z")], ⟨.number 3, [.str "z"], .null, .null⟩,
    some (.number 0), rfl⟩,
  ⟨[("line_number", .int 3), ("messages", .arr [.str "m", .str "m"])],
    ⟨.number 3, [.str "m", .str "m"], .null, .null⟩, some (.number 2), rfl⟩,
  ⟨[("line_number", .bool true), ("messages", .str "n"), ("rule", .str "r")],
    ⟨.truth true, [.str "n"], .str "r", .null⟩, some (.number 9), rfl⟩,
  ⟨[("line_number", .int 3), ("messages", .arr [.str "k", .str "m"])],
    ⟨.number 3, [.str "k", .str "m"], .null, .null⟩, some (.number (-1)), rfl⟩]

theorem accumulates_mixedAdditions
    : untouchedReview.violations = []
      ∧ (untouchedReview.after mixedAdditions).violations
        = [⟨.str "a.coffee", .number 3, .number 2, [.str "m", .str "k"]⟩,
          ⟨.str "a.coffee", .truth true, .number 9, [.str "n"]⟩]
      ∧ (untouchedReview.after mixedAdditions).Accumulates mixedAdditions :=
  ⟨rfl, rfl, accumulates_after rfl mixedAdditions⟩

end FileReview

end PatchReview
