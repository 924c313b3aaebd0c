import PatchReview.Linter.Engine
import PatchReview.Proofs.Attempt
import PatchReview.Proofs.Json.Access
import PatchReview.Proofs.Json.Nesting

/-! What a lint engine tells about lines, said of the entries of its report, and that the findings read
from a report are just that.
-/

namespace PatchReview

/-- The ordinal that a value gives means the whole number that the value counts as. -/
theorem Ordinal.whole?_of_ofJson? {value : Json} {ordinal : Ordinal}
    (given : Ordinal.ofJson? value = some ordinal)
    : value.whole? = some ordinal.value := by
  cases value <;> cases given <;> rfl

/-- A value that counts as a whole number gives an ordinal. -/
theorem Ordinal.ofJson?_of_whole? {value : Json} {number : Int} (counts : value.whole? = some number)
    : ∃ ordinal, Ordinal.ofJson? value = some ordinal ∧ ordinal.value = number := by
  cases value <;> cases counts <;> exact ⟨_, rfl, rfl⟩

namespace Report

-----------------------------------------------------------------------------------------
-- What entries tell
-----------------------------------------------------------------------------------------

/-- The line that fields give: what is under `lineNumber`, or under `line` where there is no such
field.
-/
def GivesLine (fields : Json.Fields) (value : Json) : Prop :=
  Assoc.get? "lineNumber" fields = some value
  ∨ Assoc.get? "lineNumber" fields = none ∧ Assoc.get? "line" fields = some value

/-- The text of fields: a message that says something, or else such a reason. -/
def Says (fields : Json.Fields) (text : Json) : Prop :=
  text.isTruthy = true
  ∧ (Assoc.get? "message" fields = some text
    ∨ (∀ message, Assoc.get? "message" fields = some message → message.isTruthy = false)
      ∧ Assoc.get? "reason" fields = some text)

/-- A context that says something follows the text where it is wanted, and otherwise the text stands
alone.
-/
def Words (withContexts : Bool) (fields : Json.Fields) (text message : Json) : Prop :=
  (∃ context,
    withContexts = true
    ∧ Assoc.get? "context" fields = some context
    ∧ context.isTruthy = true
    ∧ message = .str (text.display ++ ": " ++ context.display))
  ∨ (withContexts = true →
      ∀ context, Assoc.get? "context" fields = some context → context.isTruthy = false)
    ∧ message = text

/-- (Tells withContexts entry line message) says that an entry is usable, and what it reports: it is an
object that gives a line from one on and says something.
-/
def Tells (withContexts : Bool) (entry : Json) (line : Int) (message : Json) : Prop :=
  ∃ fields value text,
    entry = .obj fields
    ∧ GivesLine fields value
    ∧ value.whole? = some line
    ∧ 0 < line
    ∧ Says fields text
    ∧ Words withContexts fields text message

/-- (Reads withContexts entries reports) reads what the usable ones among entries report, in order. -/
inductive Reads (withContexts : Bool) : List Json → List (Int × Json) → Prop where
  | nil : Reads withContexts [] []
  | usable {entry entries line message reports} (tells : Tells withContexts entry line message)
    (later : Reads withContexts entries reports)
    : Reads withContexts (entry :: entries) ((line, message) :: reports)
  | passed {entry entries reports} (silent : ∀ line message, ¬ Tells withContexts entry line message)
    (later : Reads withContexts entries reports)
    : Reads withContexts (entry :: entries) reports

/-- (Delivers output report) says what report an output is: a blank text delivers an empty one, and
other texts have to spell an object.
-/
def Delivers (output : Json) (report : Json.Fields) : Prop :=
  ∃ text,
    output = .str text
    ∧ (Text.isBlankText text = true ∧ report = []
      ∨ Text.isBlankText text = false ∧ Json.parse text = .ok (.obj report))

-----------------------------------------------------------------------------------------
-- What findings are read
-----------------------------------------------------------------------------------------

/-- The line read from fields is one that they give. -/
theorem lineOf_eq_some_iff {fields : Json.Fields} {line : Ordinal}
    : lineOf fields = some line
      ↔ ∃ value, GivesLine fields value ∧ Ordinal.ofJson? value = some line ∧ 0 < line.value := by
  have nothing : Ordinal.ofJson? .null = none := rfl
  simp only [lineOf, Option.filter_eq_some_iff, decide_eq_true_eq, GivesLine, Json.getD]
  cases number : Assoc.get? "lineNumber" fields with
  | some value => simp
  | none =>
      cases Assoc.get? "line" fields with
      | some value => simp
      | none => simp [nothing]

/-- The message read from fields is what they say, by cases on the message and the reason they have.
-/
theorem messageOf_eq_some_iff {fields : Json.Fields} {text : Json}
    : messageOf fields = some text ↔ Says fields text := by
  have nothing : Json.isTruthy .null = false := rfl
  have chosen {value : Json}
      : (if value.isTruthy then some value else none) = some text
        ↔ text.isTruthy = true ∧ some value = some text := by
    cases speaks : value.isTruthy with
    | true => simpa using fun same : value = text => same ▸ speaks
    | false => simpa using fun truthy (same : value = text) => by simp [← same, speaks] at truthy
  rw [messageOf, chosen, Says]
  refine and_congr_right fun truthy => ?_
  have named {value : Json} (silent : value.isTruthy = false) : value ≠ text :=
    fun same => by simp [← same, silent] at truthy
  have reason : some (Json.getD fields "reason" .null) = some text
      ↔ Assoc.get? "reason" fields = some text := by
    cases found : Assoc.get? "reason" fields with
    | none => simpa [Json.getD_of_none found] using named nothing
    | some value => rw [Json.getD_of_some found]
  cases found : Assoc.get? "message" fields with
  | none => simpa [either, Json.getD_of_none found, nothing] using reason
  | some value =>
      rw [either, Json.getD_of_some found]
      cases speaks : value.isTruthy with
      | true => simp [speaks]
      | false => simpa [speaks, named speaks] using reason

/-- A message is worded with its context as it is wanted, by cases on the context there is. -/
theorem withContext_eq_iff {wanted : Bool} {fields : Json.Fields} {text message : Json}
    : withContext wanted fields text = message ↔ Words wanted fields text message := by
  have nothing : Json.isTruthy .null = false := rfl
  rw [withContext, Words]
  cases wanted with
  | false => simp [eq_comm (a := message)]
  | true =>
      cases found : Assoc.get? "context" fields with
      | none => simp [Json.getD_of_none found, nothing, eq_comm (a := message)]
      | some context =>
          cases speaks : context.isTruthy <;>
            simp [Json.getD_of_some found, speaks, eq_comm (a := message)]

/-- A finding is read from an entry exactly when the entry tells what it says. -/
theorem finding?_eq_some_iff {withContexts : Bool} {fields : Json.Fields} {finding : Finding}
    : finding? withContexts (.obj fields) = some finding
      ↔ ∃ line text,
          lineOf fields = some line
          ∧ messageOf fields = some text
          ∧ finding = {
              line
              messages := [withContext withContexts fields text]
              rule := either (Json.getD fields "rule" .null) (Json.getD fields "name" .null)
              level := Json.getD fields "level" .null } := by
  simp only [finding?, Option.bind_eq_bind, Option.bind_eq_some_iff, Option.pure_def,
    Option.some.injEq, eq_comm (a := finding)]
  constructor
  · rintro ⟨line, first, text, second, made⟩
    exact ⟨line, text, first, second, made⟩
  · rintro ⟨line, text, first, second, made⟩
    exact ⟨line, first, text, second, made⟩

/-- What an entry tells is what the finding read from it says. -/
theorem tells_iff {withContexts : Bool} {entry : Json} {line : Int} {message : Json}
    : Tells withContexts entry line message
      ↔ ∃ finding,
          finding? withContexts entry = some finding
          ∧ finding.line.value = line
          ∧ finding.messages = [message] := by
  constructor
  · rintro ⟨fields, value, text, rfl, gives, counts, positive, spoken, words⟩
    obtain ⟨ordinal, given, rfl⟩ := Ordinal.ofJson?_of_whole? counts
    have first := lineOf_eq_some_iff.mpr ⟨value, gives, given, positive⟩
    have second := messageOf_eq_some_iff.mpr spoken
    refine ⟨_, finding?_eq_some_iff.mpr ⟨ordinal, text, first, second, rfl⟩, rfl, ?_⟩
    rw [withContext_eq_iff.mpr words]
  · rintro ⟨finding, read, rfl, single⟩
    cases entry with
    | obj fields =>
        obtain ⟨line, text, first, second, rfl⟩ := finding?_eq_some_iff.mp read
        obtain ⟨value, gives, given, positive⟩ := lineOf_eq_some_iff.mp first
        exact ⟨fields, value, text, rfl, gives, Ordinal.whole?_of_ofJson? given, positive,
          messageOf_eq_some_iff.mp second, withContext_eq_iff.mp (List.singleton_inj.mp single)⟩
    | null | bool | int | float | str | arr => cases read

/-- A finding read from an entry has one message. -/
theorem exists_message_of_finding? {withContexts : Bool} {entry : Json} {finding : Finding}
    (read : finding? withContexts entry = some finding)
    : ∃ message, finding.messages = [message] := by
  cases entry with
  | obj fields =>
      obtain ⟨_, _, -, -, rfl⟩ := finding?_eq_some_iff.mp read
      exact ⟨_, rfl⟩
  | null | bool | int | float | str | arr => cases read

/-- The findings of entries are what their usable ones report, by induction on the entries. -/
theorem reads_findings (withContexts : Bool) (entries : List Json)
    : ∃ reports,
        Reads withContexts entries reports
        ∧ (findings withContexts entries).map (fun finding => (finding.line.value, finding.messages))
          = reports.map fun report => (report.1, [report.2]) := by
  induction entries with
  | nil => exact ⟨[], .nil, rfl⟩
  | cons entry rest ih =>
      obtain ⟨reports, reads, same⟩ := ih
      cases read : finding? withContexts entry with
      | none =>
          refine ⟨reports, .passed ?_ reads, by simpa [findings, read] using same⟩
          intro line message tells
          obtain ⟨finding, found, -⟩ := tells_iff.mp tells
          rw [read] at found
          cases found
      | some finding =>
          obtain ⟨message, single⟩ := exists_message_of_finding? read
          refine ⟨(finding.line.value, message) :: reports, .usable ?_ reads, ?_⟩
          · exact tells_iff.mpr ⟨finding, read, rfl, single⟩
          · simpa [findings, read, single] using same

end Report

-----------------------------------------------------------------------------------------
-- The report that a run gives
-----------------------------------------------------------------------------------------

/-- An object is a configuration as it is, also where it is empty. -/
theorem Engine.configOf_obj (config : Json.Fields) : Engine.configOf (.obj config) = .obj config := by
  cases config with
  | nil => rfl
  | cons field rest => rfl

section Runs

variable {σ : Type} (engine : Engine) (run : Invocation Datum → StateM σ Outcome) {config : Json}

/-- Linting is one run of the program and what the engine makes of its end, if the configuration can be written.
-/
theorem Engine.on_lint (writable : (Engine.configOf config).isWritable = true) (source : Json) (state : σ)
    : (engine.lint run source config).on state
      = (engine.findings ((run (engine.invocation source config)).run state).1,
          ((run (engine.invocation source config)).run state).2) := by
  have written : Engine.writeConfig config = .ok (Engine.configOf config).print := by
    rw [Engine.writeConfig, Json.write, if_pos writable]
    rfl
  rw [Engine.lint, written, Attempt.on_bind, Attempt.on_ofExcept]
  dsimp only
  rw [Attempt.on_ofState_bind, Attempt.on_ofExcept]

/-- The program is not run where the configuration cannot be written. -/
theorem Engine.on_lint_of_not_isWritable (unwritable : (Engine.configOf config).isWritable = false)
    (source : Json) (state : σ)
    : (engine.lint run source config).on state = (.error (.number .unwritable), state) := by
  have unwritten : Engine.writeConfig config = .error (.number .unwritable) := by
    rw [Engine.writeConfig, Json.write, unwritable]
    rfl
  rw [Engine.lint, unwritten, Attempt.on_bind, Attempt.on_ofExcept]

end Runs

/-- A report is what the output of a run delivers, by cases on what the output spells. -/
theorem Engine.delivers_of_report {engine : Engine} {output code complaint : Json} {report : Json.Fields}
    (given : engine.report output code complaint = .ok report)
    : Report.Delivers output report := by
  obtain ⟨text, spelled, read⟩ := Except.bind_eq_ok_iff.mp given
  obtain rfl := Json.textFor_eq_ok_iff.mp spelled
  refine ⟨text, rfl, ?_⟩
  dsimp only at read
  by_cases blank : Text.isBlankText text = true
  · rw [if_pos blank] at read
    simp only [pure_bind] at read
    split at read <;> cases read
    exact Or.inl ⟨blank, rfl⟩
  · rw [if_neg blank] at read
    refine Or.inr ⟨by simpa using blank, ?_⟩
    cases parsed : Json.parseWithin (some engine.nesting) text with
    | error fault => cases fault <;> rw [parsed] at read <;> cases read
    | ok value =>
        rw [Json.parse_eq_of_parseWithin parsed nofun]
        rw [parsed] at read
        simp only [pure_bind] at read
        split at read
        · split at read <;> cases read
          rfl
        · cases read
          rfl
        · cases read

/-- What a run of the engine finds is what the usable entries of the report that it delivers report. -/
theorem Engine.findings_eq_ok {engine : Engine} {outcome : Outcome} {found : List Finding}
    (given : engine.findings outcome = .ok found)
    : ∃ output code complaint report reports,
        outcome = .finished output code complaint
        ∧ Report.Delivers output report
        ∧ Report.Reads engine.withContexts (Report.entries report) reports
        ∧ found.map (fun finding => (finding.line.value, finding.messages))
          = reports.map fun report => (report.1, [report.2]) := by
  cases outcome with
  | absent | timedOut | forbidden => cases given
  | finished output code complaint =>
      obtain ⟨report, delivered, made⟩ := Except.bind_eq_ok_iff.mp given
      cases made
      obtain ⟨reports, reads, same⟩ :=
        Report.reads_findings engine.withContexts (Report.entries report)
      exact ⟨output, code, complaint, report, reports, rfl,
        Engine.delivers_of_report delivered, reads, same⟩

end PatchReview
