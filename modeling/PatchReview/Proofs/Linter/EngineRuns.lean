import PatchReview.Proofs.Json.Documents
import PatchReview.Proofs.Json.Stops
import PatchReview.Proofs.Linter.Reports

/-! What the end of a run of the lint engine amounts to: findings, a failure of the engine, or a failure of
another kind, where the output cannot be read for its numbers or for the depth of its brackets. The findings are
what the usable entries of the report yield, one each and in order.
-/

namespace PatchReview

open PatchReview.Text

variable {σ : Type}

-----------------------------------------------------------------------------------------
-- What entries yield
-----------------------------------------------------------------------------------------

/-- A finding is admitted when it can be made of its own parts. -/
def Finding.IsAdmitted (finding : Finding) : Prop :=
  Finding.ofParts finding.line finding.messages finding.rule finding.level = .ok finding

theorem Finding.isAdmitted_iff {finding : Finding}
    : finding.IsAdmitted ↔ 0 < finding.line.value ∧ finding.messages ≠ [] := by
  unfold IsAdmitted ofParts
  split
  · next low => exact ⟨nofun, fun counts => absurd counts.1 (Int.not_lt.mpr low)⟩
  split
  · next empty => exact ⟨nofun, fun counts => absurd (List.isEmpty_iff.mp empty) counts.2⟩
  · next high filled => exact ⟨fun _ => ⟨Int.not_le.mp high, by simpa using filled⟩, fun _ => rfl⟩

theorem Ordinal.ofJson?_eq_some_iff {value : Json} {ordinal : Ordinal}
    : Ordinal.ofJson? value = some ordinal ↔ value = ordinal.toJson := by
  constructor
  · intro given
    cases value <;> cases given <;> rfl
  · rintro rfl
    cases ordinal <;> rfl

namespace Report

/-- The rule that fields name: a rule that says something, or else the name, which is null where there is none.
-/
def Names (fields : Json.Fields) (rule : Json) : Prop :=
  rule.isTruthy = true ∧ Assoc.get? "rule" fields = some rule
  ∨ (∀ given, Assoc.get? "rule" fields = some given → given.isTruthy = false)
    ∧ rule = Json.getD fields "name" .null

/-- (Yields withContexts fields finding) says that fields make a usable entry, and which finding it yields:
on the line that they give as it stands there, with the one message that they say, their rule and their level.
-/
structure Yields (withContexts : Bool) (fields : Json.Fields) (finding : Finding) : Prop where
  line : GivesLine fields finding.line.toJson
  positive : 0 < finding.line.value
  message : ∃ text message,
    Says fields text ∧ Words withContexts fields text message ∧ finding.messages = [message]
  rule : Names fields finding.rule
  level : finding.level = Json.getD fields "level" .null

/-- (Collects withContexts entries found) collects what the usable ones among entries yield, in order. -/
inductive Collects (withContexts : Bool) : List Json → List Finding → Prop where
  | nil : Collects withContexts [] []
  | usable {fields entries finding found} (yields : Yields withContexts fields finding)
    (later : Collects withContexts entries found)
    : Collects withContexts (.obj fields :: entries) (finding :: found)
  | passed {entry entries found}
    (silent : ∀ fields, entry = .obj fields → ∀ finding, ¬ Yields withContexts fields finding)
    (later : Collects withContexts entries found)
    : Collects withContexts (entry :: entries) found

variable {withContexts : Bool} {fields : Json.Fields} {finding : Finding} {entries : List Json}
  {found : List Finding}

/-- The rule of a finding is the one that its fields name, by cases on the rule there is. -/
theorem names_iff {rule : Json}
    : either (Json.getD fields "rule" .null) (Json.getD fields "name" .null) = rule
      ↔ Names fields rule := by
  have nothing : Json.isTruthy .null = false := rfl
  rw [either, Names]
  cases given : Assoc.get? "rule" fields with
  | none => simp [Json.getD_of_none given, nothing, eq_comm (a := rule)]
  | some value =>
      rw [Json.getD_of_some given]
      cases speaks : value.isTruthy with
      | true => simpa [speaks] using fun same => same ▸ speaks
      | false =>
          have other : rule.isTruthy = true → value ≠ rule := fun truthy same => by
            simp [← same, speaks] at truthy
          simp only [Bool.false_eq_true, if_false, Option.some.injEq, forall_eq', speaks, true_and]
          constructor
          · exact fun same => Or.inr same.symm
          · rintro (⟨truthy, same⟩ | same)
            · exact absurd same (other truthy)
            · exact same.symm

/-- The finding that is read from an object is the one that it yields. -/
theorem yields_iff
    : finding? withContexts (.obj fields) = some finding ↔ Yields withContexts fields finding := by
  rw [finding?_eq_some_iff]
  constructor
  · rintro ⟨line, text, first, second, rfl⟩
    obtain ⟨value, gives, given, positive⟩ := lineOf_eq_some_iff.mp first
    obtain rfl := Ordinal.ofJson?_eq_some_iff.mp given
    exact ⟨gives, positive, ⟨text, _, messageOf_eq_some_iff.mp second, withContext_eq_iff.mp rfl, rfl⟩,
      names_iff.mp rfl, rfl⟩
  · rintro ⟨gives, positive, ⟨text, message, spoken, words, single⟩, names, level⟩
    refine ⟨finding.line, text, lineOf_eq_some_iff.mpr ⟨_, gives, ?_, positive⟩,
      messageOf_eq_some_iff.mpr spoken, ?_⟩
    · exact Ordinal.ofJson?_eq_some_iff.mpr rfl
    · rw [withContext_eq_iff.mpr words, names_iff.mpr names, ← single]
      cases finding
      cases level
      rfl

/-- What entries yield is what is read from them, by induction on the entries. -/
theorem collects_iff : Collects withContexts entries found ↔ found = findings withContexts entries := by
  constructor
  · intro collects
    induction collects with
    | nil => rfl
    | usable yields _ ih => rw [ih, findings, findings, List.filterMap_cons_some (yields_iff.mpr yields)]
    | @passed entry rest _ silent _ ih =>
        have none : finding? withContexts entry = none := by
          cases entry with
          | obj fields =>
              refine Option.eq_none_iff_forall_not_mem.mpr fun finding read => ?_
              exact silent fields rfl finding (yields_iff.mp read)
          | null | bool | int | float | str | arr => rfl
        rw [ih, findings, findings, List.filterMap_cons_none none]
  · rintro rfl
    induction entries with
    | nil => exact .nil
    | cons entry rest ih =>
        cases read : finding? withContexts entry with
        | none =>
            rw [findings, List.filterMap_cons_none read]
            refine .passed ?_ ih
            rintro fields rfl finding yields
            rw [yields_iff.mpr yields] at read
            cases read
        | some finding =>
            rw [findings, List.filterMap_cons_some read]
            cases entry with
            | obj fields => exact .usable (yields_iff.mp read) ih
            | null | bool | int | float | str | arr => cases read

/-- A finding that an entry yields is admitted. -/
theorem Yields.isAdmitted (yields : Yields withContexts fields finding) : finding.IsAdmitted := by
  obtain ⟨-, message, -, -, single⟩ := yields.message
  exact Finding.isAdmitted_iff.mpr ⟨yields.positive, by simp [single]⟩

/-- All findings that are collected are admitted, by induction on the entries. -/
theorem Collects.isAdmitted (collects : Collects withContexts entries found)
    : ∀ finding ∈ found, finding.IsAdmitted := by
  induction collects with
  | nil => exact List.forall_mem_nil _
  | usable yields _ ih => exact List.forall_mem_cons.mpr ⟨yields.isAdmitted, ih⟩
  | passed _ _ ih => exact ih

end Report

-----------------------------------------------------------------------------------------
-- How runs end
-----------------------------------------------------------------------------------------

namespace Engine

/-- (Gives text succeeded report) says that a run which ends with an output gives a report: a blank output gives
an empty one, others have to spell an object, and an empty report needs a run that succeeded.
-/
def Gives (text : String) (succeeded : Prop) (report : Json.Fields) : Prop :=
  isBlankText text = true ∧ report = [] ∧ succeeded
  ∨ Json.parse text = .ok (.obj report) ∧ (report ≠ [] ∨ succeeded)

/-- (engine.Stops text failure) says that an output is not read to its end, for a number that is too long or for
brackets that nest too deep, and with which failure.
-/
inductive Stops (engine : Engine) (text : String) : Failure → Prop where
  | number {fault} (read : Json.parseWithin (some engine.nesting) text = .error (.number fault))
    : Stops engine text (.number fault)
  | nesting {bracket} (read : Json.parseWithin (some engine.nesting) text = .error (.tooDeep bracket))
    : Stops engine text (.nesting bracket)

variable {engine : Engine} {text : String} {succeeded : Prop}

theorem same_zero_iff {code : Int} : (Json.int code).same (.int 0) = true ↔ code = 0 := by
  simp [Json.same, Json.sameQuantity, Json.quantity?, Json.Quantity.same]

/-- A blank text spells nothing. -/
theorem parse_ne_of_isBlankText {value : Json} (blank : isBlankText text = true)
    : Json.parse text ≠ .ok value := by
  obtain ⟨problem, place, failed⟩ := Json.parse_of_isBlankText none blank
  intro same
  cases same.symm.trans failed

/-- A run gives one report at most. -/
theorem Gives.unique {first second : Json.Fields} (gives : Gives text succeeded first)
    (givesToo : Gives text succeeded second)
    : first = second := by
  rcases gives with ⟨blank, rfl, -⟩ | ⟨parsed, -⟩
  · rcases givesToo with ⟨-, rfl, -⟩ | ⟨parsed, -⟩
    · rfl
    · exact absurd parsed (parse_ne_of_isBlankText blank)
  · rcases givesToo with ⟨blank, -⟩ | ⟨parsedToo, -⟩
    · exact absurd parsed (parse_ne_of_isBlankText blank)
    · rw [parsed] at parsedToo
      exact Json.obj.inj (Except.ok.inj parsedToo)

/-- An output that is read as a value, or is no document, is read to its end. -/
theorem not_stops {result : Except Json.Fault Json}
    (read : Json.parseWithin (some engine.nesting) text = result)
    (other : ∀ fault, result = .error fault → ∃ problem place, fault = .malformed problem place)
    (failure : Failure)
    : ¬ engine.Stops text failure := by
  rintro (stopped | stopped)
  · obtain ⟨_, _, same⟩ := other _ (read.symm.trans stopped)
    cases same
  · obtain ⟨_, _, same⟩ := other _ (read.symm.trans stopped)
    cases same

/-- A blank output gives an empty report, or the exit code is at fault. -/
theorem report_of_blank (blank : isBlankText text = true) (code complaint : Json)
    : engine.report (.str text) code complaint
      = if code.same (.int 0) then .ok [] else .error (.engine (.exitCode code) code complaint) := by
  simp only [report, Json.textFor, bind, Except.bind, blank, if_true, pure, Except.pure]
  rfl

/-- Other outputs give what they spell. -/
theorem report_of_filled (filled : isBlankText text = false) (code complaint : Json)
    : engine.report (.str text) code complaint
      = match Json.parseWithin (some engine.nesting) text with
        | .error (.malformed problem place) =>
            .error (.engine (.unparseable problem place) code complaint)
        | .error (.number fault) => .error (.number fault)
        | .error (.tooDeep bracket) => .error (.nesting bracket)
        | .ok (.obj []) =>
            if code.same (.int 0) then .ok [] else .error (.engine (.exitCode code) code complaint)
        | .ok (.obj fields) => .ok fields
        | .ok _ => .error (.engine .unexpected code complaint) := by
  simp only [report, Json.textFor, bind, Except.bind, filled, Bool.false_eq_true, if_false, pure, Except.pure]
  cases Json.parseWithin (some engine.nesting) text with
  | error fault => cases fault <;> rfl
  | ok value =>
      cases value with
      | obj fields => cases fields <;> rfl
      | null | bool | int | float | str | arr => rfl

/-- (engine.Reported text code complaint result) says what becomes of the output of a run: a report that it
gives, the failure of an output that is not read to its end, or a failure of the engine, which holds the code
and the error stream.
-/
inductive Reported (engine : Engine) (text : String) (code complaint : Json)
    : Except Failure Json.Fields → Prop where
  | given {fields} (gives : Gives text (code.same (.int 0) = true) fields)
    (ended : ∀ failure, ¬ engine.Stops text failure)
    : Reported engine text code complaint (.ok fields)
  | stopped {failure} (stops : engine.Stops text failure)
    : Reported engine text code complaint (.error failure)
  | failed {fault} (none : ∀ fields, ¬ Gives text (code.same (.int 0) = true) fields)
    (ended : ∀ failure, ¬ engine.Stops text failure)
    : Reported engine text code complaint (.error (.engine fault code complaint))

/-- A blank output is no JSON either, so that only the exit code decides. -/
theorem reported_of_blank (blank : isBlankText text = true) (code complaint : Json)
    : engine.Reported text code complaint (engine.report (.str text) code complaint) := by
  obtain ⟨problem, place, read⟩ := Json.parse_of_isBlankText (some engine.nesting) blank
  have ended : ∀ failure, ¬ engine.Stops text failure :=
    not_stops read fun fault same => ⟨problem, place, (Except.error.inj same).symm⟩
  rw [report_of_blank blank]
  by_cases zero : code.same (.int 0) = true
  · rw [if_pos zero]
    exact .given (Or.inl ⟨blank, rfl, zero⟩) ended
  · rw [if_neg zero]
    refine .failed ?_ ended
    rintro fields (⟨-, -, same⟩ | ⟨parsed, -⟩)
    · exact zero same
    · exact parse_ne_of_isBlankText blank parsed

/-- Another output decides by the value that it spells, if it spells one. -/
theorem reported_of_filled (filled : isBlankText text = false) (code complaint : Json)
    : engine.Reported text code complaint (engine.report (.str text) code complaint) := by
  have gives_iff {fields : Json.Fields}
      : Gives text (code.same (.int 0) = true) fields
        ↔ Json.parse text = .ok (.obj fields) ∧ (fields ≠ [] ∨ code.same (.int 0) = true) := by
    simp [Gives, filled]
  rw [report_of_filled filled]
  cases read : Json.parseWithin (some engine.nesting) text with
  | error fault =>
      cases fault with
      | malformed problem place =>
          have parsed := Json.parse_eq_of_parseWithin read nofun
          have ended : ∀ failure, ¬ engine.Stops text failure :=
            not_stops read fun fault same => ⟨problem, place, (Except.error.inj same).symm⟩
          exact .failed (by simp [gives_iff, parsed]) ended
      | number fault => exact .stopped (.number read)
      | tooDeep bracket => exact .stopped (.nesting read)
  | ok value =>
      have parsed := Json.parse_eq_of_parseWithin read nofun
      have ended : ∀ failure, ¬ engine.Stops text failure := not_stops read nofun
      cases value with
      | obj fields =>
          cases fields with
          | cons field rest => exact .given (gives_iff.mpr ⟨parsed, Or.inl nofun⟩) ended
          | nil =>
              dsimp only
              by_cases zero : code.same (.int 0) = true
              · rw [if_pos zero]
                exact .given (gives_iff.mpr ⟨parsed, Or.inr zero⟩) ended
              · rw [if_neg zero]
                refine .failed (fun fields gives => ?_) ended
                obtain ⟨spelled, nonempty | success⟩ := gives_iff.mp gives
                · obtain rfl := Json.obj.inj (Except.ok.inj (parsed.symm.trans spelled))
                  exact nonempty rfl
                · exact zero success
      | null | bool | int | float | str | arr => exact .failed (by simp [gives_iff, parsed]) ended

/-- A run gives a report, has an output that is not read to its end, or is a failure of the engine. -/
theorem reported (engine : Engine) (text : String) (code complaint : Json)
    : engine.Reported text code complaint (engine.report (.str text) code complaint) := by
  cases blank : isBlankText text with
  | true => exact reported_of_blank blank code complaint
  | false => exact reported_of_filled blank code complaint

theorem findings_of_report_eq_ok (engine : Engine) {output code complaint : Json} {fields : Json.Fields}
    (given : engine.report output code complaint = .ok fields)
    : engine.findings (.finished output code complaint)
      = .ok (Report.findings engine.withContexts (Report.entries fields)) := by
  rw [findings, given]
  rfl

theorem findings_of_report_eq_error (engine : Engine) {output code complaint : Json} {failure : Failure}
    (failed : engine.report output code complaint = .error failure)
    : engine.findings (.finished output code complaint) = .error failure := by
  rw [findings, failed]
  rfl

/-- (Classifies engine text code complaint result) says what becomes of a run with an output, an exit code and
an error stream. There are findings exactly when it gives a report, and they are what the entries of the
report yield; otherwise there is a failure of the engine, which holds the code and the error stream.
-/
structure Classifies (engine : Engine) (text : String) (code : Int) (complaint : String)
    (result : Except Failure (List Finding))
    : Prop where
  answers : (∃ found, result = .ok found) ↔ ∃ fields, Gives text (code = 0) fields
  collects : ∀ fields found, Gives text (code = 0) fields → result = .ok found →
    Report.Collects engine.withContexts (Report.entries fields) found
  fails : (¬ ∃ fields, Gives text (code = 0) fields) →
    ∃ fault, result = .error (.engine fault (.int code) (.str complaint))

/-- (engine.Overflows text) says that the brackets of an output nest deeper than it can be read. -/
def Overflows (engine : Engine) (text : String) : Prop :=
  ∃ bracket, Json.parseWithin (some engine.nesting) text = .error (.tooDeep bracket)

/-- An output in which no more brackets open than may be open together does not overflow. -/
theorem not_overflows_of_countP (fits : text.toList.countP Json.isOpening ≤ engine.nesting)
    : ¬ engine.Overflows text := by
  rintro ⟨bracket, read⟩
  have within : ¬ Json.Exceeds (some engine.nesting) text.toList := by
    rintro ⟨limit, same, more⟩
    obtain rfl := Option.some.inj same
    omega
  rw [Json.parseWithin_of_not_exceeds within] at read
  exact Json.parse_ne_tooDeep text bracket read

/-- An output is plain when no whole number in it is too long and every half of a character that it escapes has
its other half beside it, so that its strings are texts.
-/
structure IsPlain (text : String) : Prop where
  short : ¬ Json.HasLongNumber text.toList
  paired : ¬ Json.HasLoneHalf text.toList

/-- A plain output is read to its end unless it overflows. -/
theorem exists_tooDeep_of_stops {failure : Failure} (plain : IsPlain text) (stops : engine.Stops text failure)
    : ∃ bracket,
        Json.parseWithin (some engine.nesting) text = .error (.tooDeep bracket) ∧ failure = .nesting bracket := by
  cases stops with
  | nesting read => exact ⟨_, read, rfl⟩
  | number read => exact absurd (.of_parse (Json.parse_eq_of_parseWithin read nofun)) plain.short

/-- A run whose plain output does not overflow is classified, by cases on what becomes of its output. -/
theorem classifies_of_not_overflows {code : Int} {complaint : String} (plain : IsPlain text)
    (fits : ¬ engine.Overflows text)
    : Classifies engine text code complaint
        (engine.findings (.finished (.str text) (.int code) (.str complaint))) := by
  have known := reported engine text (.int code) (.str complaint)
  generalize reports : engine.report (.str text) (.int code) (.str complaint) = result at known
  cases known with
  | given gives _ =>
      have made := findings_of_report_eq_ok engine reports
      rw [same_zero_iff] at gives
      refine ⟨⟨fun _ => ⟨_, gives⟩, fun _ => ⟨_, made⟩⟩, ?_, fun none => absurd ⟨_, gives⟩ none⟩
      intro other found givesToo same
      obtain rfl := gives.unique givesToo
      rw [made] at same
      exact Report.collects_iff.mpr (Except.ok.inj same).symm
  | stopped stops =>
      obtain ⟨bracket, read, -⟩ := exists_tooDeep_of_stops plain stops
      exact absurd ⟨bracket, read⟩ fits
  | failed none _ =>
      have made := findings_of_report_eq_error engine reports
      rw [same_zero_iff] at none
      have nothing : ¬ ∃ fields, Gives text (code = 0) fields := fun ⟨fields, gives⟩ => none fields gives
      refine ⟨⟨?_, fun given => absurd given nothing⟩, ?_, fun _ => ⟨_, made⟩⟩
      · rintro ⟨found, same⟩
        rw [made] at same
        cases same
      · exact fun fields _ gives => absurd gives (none fields)

/-- An output that overflows leaves a failure of another kind. -/
theorem findings_of_tooDeep {bracket : Json.Bracket}
    (read : Json.parseWithin (some engine.nesting) text = .error (.tooDeep bracket)) (code complaint : Json)
    : engine.findings (.finished (.str text) code complaint) = .error (.nesting bracket) := by
  have known := reported engine text code complaint
  generalize reports : engine.report (.str text) code complaint = result at known
  cases known with
  | given _ ended => exact absurd (.nesting read) (ended _)
  | stopped stops =>
      rw [findings_of_report_eq_error engine reports]
      cases stops with
      | number other => cases read.symm.trans other
      | nesting other => rw [Json.Fault.tooDeep.inj (Except.error.inj (read.symm.trans other))]
  | failed _ ended => exact absurd (.nesting read) (ended _)

/-- A failure of another kind is no classification: there are no findings, and none of the engine's failures. -/
theorem not_classifies_nesting {code : Int} {complaint : String} {bracket : Json.Bracket}
    : ¬ Classifies engine text code complaint (.error (.nesting bracket)) := by
  intro classified
  by_cases gives : ∃ fields, Gives text (code = 0) fields
  · obtain ⟨found, same⟩ := classified.answers.mpr gives
    cases same
  · obtain ⟨fault, same⟩ := classified.fails gives
    cases same

/-- A run whose output is plain is classified exactly when the output does not overflow; otherwise it leaves the
failure of the bracket at which reading stops. Whatever entries there are in a report, findings are collected
from them, all of which are admitted.
-/
theorem lint_classifies {engine : Engine} {run : Invocation Datum → StateM σ Outcome} {source config : Json}
    {state : σ} {code : Int} {complaint : String} (writable : (configOf config).isWritable = true)
    (ended : ((run (engine.invocation source config)).run state).1
      = .finished (.str text) (.int code) (.str complaint))
    (plain : IsPlain text)
    : (Classifies engine text code complaint ((engine.lint run source config).on state).1
        ↔ ¬ engine.Overflows text)
      ∧ (∀ bracket,
          Json.parseWithin (some engine.nesting) text = .error (.tooDeep bracket)
            → ((engine.lint run source config).on state).1 = .error (.nesting bracket))
      ∧ ∀ withContexts entries,
          Report.Collects withContexts entries (Report.findings withContexts entries)
          ∧ ∀ finding ∈ Report.findings withContexts entries, finding.IsAdmitted := by
  rw [on_lint engine run writable, ended]
  refine ⟨⟨?_, classifies_of_not_overflows plain⟩, fun bracket read => findings_of_tooDeep read _ _, ?_⟩
  · rintro classified ⟨bracket, read⟩
    rw [findings_of_tooDeep read] at classified
    exact not_classifies_nesting classified
  · intro withContexts entries
    have collects := Report.collects_iff.mpr (Eq.refl (Report.findings withContexts entries))
    exact ⟨collects, collects.isAdmitted⟩

/-- An engine that wants contexts, and a report with two usable entries and one that is passed over. -/
def contextual : Engine := { standard with withContexts := true }

def twoUsable : Json.Fields :=
  [("a.coffee", .arr
    [.obj [("lineNumber", .int 2), ("message", .str "m"), ("context", .str "c"), ("rule", .str "r")], .null,
      .obj [("line", .bool true), ("reason", .str "why"), ("name", .str "n")]])]

theorem lint_classifies_twoUsable
    : IsPlain (Json.obj twoUsable).print
      ∧ ¬ contextual.Overflows (Json.obj twoUsable).print
      ∧ Gives (Json.obj twoUsable).print ((1 : Int) = 0) twoUsable
      ∧ Classifies contextual (Json.obj twoUsable).print 1 "warned"
          ((contextual.lint (σ := Unit)
            (fun _ => pure (.finished (.str (Json.obj twoUsable).print) (.int 1) (.str "warned")))
            (.str "x") (.obj [])).on ()).1
      ∧ ∀ withContexts entries,
          Report.Collects withContexts entries (Report.findings withContexts entries)
          ∧ ∀ finding ∈ Report.findings withContexts entries, finding.IsAdmitted := by
  have exact : (Json.obj twoUsable).IsExact := by
    have two : (Json.int 2).IsExact := .int (Integer.isShort_of_lt_ten (by decide))
    simp [twoUsable, Json.isExact_obj_iff, Json.isExact_arr_iff, Json.IsExact.null, Json.IsExact.str,
      Json.IsExact.bool, two, Assoc.keys]
  have letters : (Json.obj twoUsable).print.toList = (Json.obj twoUsable).printChars := by
    rw [Json.print, String.toList_ofList]
  have plain : IsPlain (Json.obj twoUsable).print := by
    constructor
    · intro long
      have longer := long.lt_length
      rw [letters] at longer
      revert longer
      decide +kernel
    · intro lone
      have escaped := lone.mem
      rw [letters] at escaped
      revert escaped
      decide +kernel
  have fits : ¬ contextual.Overflows (Json.obj twoUsable).print := by
    apply not_overflows_of_countP
    rw [letters]
    decide +kernel
  obtain ⟨classified, -, collected⟩ :=
    @lint_classifies Unit _ contextual
      (fun _ => pure (.finished (.str (Json.obj twoUsable).print) (.int 1) (.str "warned"))) (.str "x")
      (.obj []) () 1 "warned" rfl rfl plain
  exact ⟨plain, fits, Or.inr ⟨Json.parse_print exact, Or.inl (by simp [twoUsable])⟩, classified.mpr fits,
    collected⟩

/-- (openBrackets opened) is an output of so many brackets that open. -/
def openBrackets (opened : Nat) : String := String.ofList (List.replicate opened '[')

theorem isPlain_openBrackets (opened : Nat) : IsPlain (openBrackets opened) := by
  have only : ∀ c ∈ (openBrackets opened).toList, c = '[' := by
    intro c member
    rw [openBrackets, String.toList_ofList] at member
    exact List.eq_of_mem_replicate member
  constructor
  · intro long
    obtain ⟨c, member, digit⟩ := long.exists_digit
    rw [only c member] at digit
    revert digit
    decide
  · intro lone
    exact absurd (only _ lone.mem) (by decide)

/-- More brackets than may be open together are no classified output. -/
theorem not_classifies_of_brackets {opened : Nat} (more : engine.nesting < opened) (code : Int)
    (complaint : String)
    : ¬ Classifies engine (openBrackets opened) code complaint
        (engine.findings (.finished (.str (openBrackets opened)) (.int code) (.str complaint))) := by
  have read
      : Json.parseWithin (some engine.nesting) (openBrackets opened) = .error (.tooDeep .array) := by
    have stopped := Json.parseWithin_replicate more []
    rwa [List.append_nil] at stopped
  rw [findings_of_tooDeep read]
  exact not_classifies_nesting

/-- A run that fails with a hundred thousand such brackets leaves neither findings nor a failure of the engine. -/
theorem not_classifies_openBrackets
    : IsPlain (openBrackets 100000)
      ∧ ¬ Classifies standard (openBrackets 100000) 1 ""
          ((standard.lint (σ := Unit)
            (fun _ => pure (.finished (.str (openBrackets 100000)) (.int 1) (.str ""))) (.str "x")
            (.obj [])).on ()).1 := by
  refine ⟨isPlain_openBrackets 100000, ?_⟩
  rw [on_lint standard _ rfl]
  exact not_classifies_of_brackets (by decide) 1 ""

-----------------------------------------------------------------------------------------
-- Failures of the engine
-----------------------------------------------------------------------------------------

/-- A result is contained when it is findings or a failure of the engine. -/
def IsContained (result : Except Failure (List Finding)) : Prop :=
  (∃ found, result = .ok found) ∨ ∃ fault code complaint, result = .error (.engine fault code complaint)

/-- (engine.Escapes outcome) says that the end of a run escapes: the program must not be run, or its output is
not read to its end or is no text. Sources are texts of whole characters here, so that none is left out for
want of bytes.
-/
def Escapes (engine : Engine) : Outcome → Prop
  | .absent | .timedOut => False
  | .forbidden => True
  | .finished (.str text) _ _ => ∃ failure, engine.Stops text failure
  | .finished _ _ _ => True

theorem not_isContained_error {failure : Failure}
    (other : ∀ fault code complaint, failure ≠ .engine fault code complaint)
    : ¬ IsContained (.error failure) := by
  rintro (⟨found, same⟩ | ⟨fault, code, complaint, same⟩)
  · cases same
  · exact other fault code complaint (Except.error.inj same)

/-- A run that ended with a text is contained unless the text is not read to its end. -/
theorem isContained_finished_iff (engine : Engine) (text : String) (code complaint : Json)
    : IsContained (engine.findings (.finished (.str text) code complaint))
      ↔ ∀ failure, ¬ engine.Stops text failure := by
  have known := reported engine text code complaint
  generalize reports : engine.report (.str text) code complaint = result at known
  cases known with
  | given _ ended =>
      rw [findings_of_report_eq_ok engine reports]
      exact iff_of_true (Or.inl ⟨_, rfl⟩) ended
  | stopped stops =>
      rw [findings_of_report_eq_error engine reports]
      refine iff_of_false (not_isContained_error ?_) (fun ended => ended _ stops)
      cases stops <;> simp
  | failed _ ended =>
      rw [findings_of_report_eq_error engine reports]
      exact iff_of_true (Or.inr ⟨_, _, _, rfl⟩) ended

/-- Linting ends with findings or a failure of the engine exactly when the configuration can be written and the
end of the run does not escape.
-/
theorem lint_isContained_iff (engine : Engine) (run : Invocation Datum → StateM σ Outcome)
    (source config : Json) (state : σ)
    : IsContained ((engine.lint run source config).on state).1
      ↔ (configOf config).isWritable = true
        ∧ ¬ engine.Escapes ((run (engine.invocation source config)).run state).1 := by
  cases writable : (configOf config).isWritable with
  | false =>
      rw [on_lint_of_not_isWritable engine run writable]
      exact iff_of_false (not_isContained_error (by simp)) (by simp)
  | true =>
      rw [on_lint engine run writable, eq_self, true_and]
      cases ((run (engine.invocation source config)).run state).1 with
      | absent => exact iff_of_true (Or.inr ⟨_, _, _, rfl⟩) id
      | timedOut => exact iff_of_true (Or.inr ⟨_, _, _, rfl⟩) id
      | forbidden => exact iff_of_false (not_isContained_error (by simp)) (fun none => none trivial)
      | finished output code complaint =>
          cases output with
          | str text => rw [isContained_finished_iff, Escapes, not_exists]
          | null | bool | int | float | arr | obj =>
              exact iff_of_false (not_isContained_error (by simp)) (fun none => none trivial)

/-- A program that must not be run leaves a failure of another kind. -/
theorem not_isContained_forbidden
    : ¬ IsContained ((standard.lint (σ := Unit) (fun _ => pure .forbidden) (.str "x") (.obj [])).on ()).1 :=
  not_isContained_error (by simp)

end Engine

end PatchReview
