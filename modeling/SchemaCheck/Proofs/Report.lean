import Mathlib.Tactic.Common
import SchemaCheck.Report

/-!
# What reports say

A report about a text says what checking the text against the schema says, however little it shows.

* `Schema.checkText_eq`: a text is read, and then what it spells is checked.
* `violationsOf`: the violations that checking a text ends with.
* `Report.Tells`: lines that tell of violations, some of them shown and the others counted.
* `Report.findingsOf`: what is to be said after a check.  `Report.findings_of`: it is what a report
  says.
* `Report.of_agrees_checkText`: a report and a check agree on every text.
* `Input.PrintedAs`: what is printed of a document, said without the functions that print.
  `Report.printedAs_linesAs`: it is what the lines of its report are.
-/

namespace SchemaCheck

/-- Checking a text is reading it, and then checking what it spells. -/
lemma Schema.checkText_eq (schema : Schema) (text : String) :
    schema.checkText text =
      match Json.readText text with
      | .error message => .error (.json message)
      | .ok document => schema.check document := by
  rw [checkText, checkBytes, Json.readText]
  cases Json.read (Json.bytesOf text) <;> rfl

lemma Schema.check_eq_ok_iff {schema : Schema} {document : Json} :
    schema.check document = .ok () ↔ schema.validate document = [] := by
  rw [check]
  cases schema.validate document <;> simp

/-- The violations that a document is refused for. -/
def violationsOf : Except Failure Unit → List Violation
  | .error (.invalid violations) => violations
  | _ => []

lemma violationsOf_check (schema : Schema) (document : Json) :
    violationsOf (schema.check document) = schema.validate document := by
  rw [Schema.check]
  cases schema.validate document <;> rfl

/-- A document that is checked is not at fault for its text. -/
lemma Schema.check_ne_json (schema : Schema) (document : Json) (message : String) :
    schema.check document ≠ .error (.json message) := by
  rw [check]
  cases schema.validate document <;> simp

namespace Report

/-- As many violations as are asked for. -/
def upTo (limit : Nat) (violations : List Violation) : List Violation :=
  if limit = 0 then violations else violations.take limit

/-- How many violations are shown. -/
lemma length_upTo (limit : Nat) (violations : List Violation) :
    (upTo limit violations).length =
      if limit = 0 then violations.length else min violations.length limit := by
  rw [upTo]
  split
  · rfl
  · rw [List.length_take, Nat.min_comm]

/-- No more violations are shown than there are. -/
lemma length_upTo_le (limit : Nat) (violations : List Violation) :
    (upTo limit violations).length ≤ violations.length := by
  rw [length_upTo]
  split
  · exact Nat.le_refl _
  · exact Nat.min_le_left _ _

lemma mem_of_mem_upTo {limit : Nat} {violations : List Violation} {violation : Violation}
    (h : violation ∈ upTo limit violations) : violation ∈ violations := by
  rw [upTo] at h
  split at h
  · exact h
  · exact List.mem_of_mem_take h

/-- **Lines that tell of violations**: first how many there are, then those that are shown, and how
many are hidden if any are. -/
def Tells (lines : List String) (source : String) (total : Nat) (shown : List Violation)
    (hidden : Nat) : Prop :=
  lines = (source ++ ": " ++ total.repr ++ " violation(s)") ::
    (shown.map (fun violation => "  " ++ violation.message) ++
      if hidden = 0 then [] else ["  ... and " ++ hidden.repr ++ " more"])

section

variable {schema : Schema} {limit : Nat} {input : Input} {message : String} {document : Json}

lemma of_readText_error (h : Json.readText input.text = .error message) :
    Report.of schema limit input = ⟨input.source, some ("invalid JSON: " ++ message), 0, []⟩ := by
  rw [Report.of, h]

lemma of_readText_ok (h : Json.readText input.text = .ok document) :
    Report.of schema limit input =
      ⟨input.source, none, (schema.validate document).length,
        upTo limit (schema.validate document)⟩ := by
  rw [Report.of, h]
  rfl

end

/-- All that a report says but where its document is from. -/
def findings (report : Report) : Option String × Nat × List Violation :=
  (report.fault, report.count, report.shown)

/-- **What is to be said after a check**: the message about a text that is not JSON, or how many
violations the check ended with, and the first ones of them up to a limit. -/
def findingsOf (limit : Nat) : Except Failure Unit → Option String × Nat × List Violation
  | .error (.json message) => (some (Failure.json message).message, 0, [])
  | outcome => (none, (violationsOf outcome).length, upTo limit (violationsOf outcome))

lemma findingsOf_check (schema : Schema) (limit : Nat) (document : Json) :
    findingsOf limit (schema.check document) =
      (none, (schema.validate document).length, upTo limit (schema.validate document)) := by
  rw [Schema.check]
  cases schema.validate document <;> rfl

/-- **A report says of a text what is to be said after checking it.** -/
lemma findings_of (schema : Schema) (limit : Nat) (input : Input) :
    (Report.of schema limit input).findings =
      findingsOf limit (schema.checkText input.text) := by
  rw [Schema.checkText_eq]
  cases hread : Json.readText input.text with
  | error message =>
      rw [of_readText_error hread]
      rfl
  | ok document =>
      rw [of_readText_ok hread]
      exact (findingsOf_check ..).symm

/-- A report without a fault that is not valid tells of its violations. -/
lemma tells_lines {report : Report} (hfault : report.fault = none)
    (hvalid : report.valid = false) :
    Tells report.lines report.source report.count report.shown report.hidden := by
  rw [Tells, lines, hfault]
  simp only [hvalid, Bool.false_eq_true, if_false, List.cons_append]

/-- **A report says what checking says.**  It is valid exactly if the text passes the check.  It has
a fault exactly if the text is not JSON, namely the message about that, and then it counts no
violations.  Otherwise it counts the violations that the check ends with, and shows them in their
order, the first ones up to a limit or all of them.  No more are shown than counted, and where the
report tells of violations, those shown and those called hidden are as many as it announces. -/
theorem of_agrees_checkText (schema : Schema) (limit : Nat) (input : Input) :
    let outcome := schema.checkText input.text
    let report := Report.of schema limit input
    report.source = input.source ∧
    (report.valid = true ↔ outcome = .ok ()) ∧
    (∀ fault, report.fault = some fault ↔ ∃ message, outcome = .error (.json message) ∧
      fault = (Failure.json message).message) ∧
    (report.fault ≠ none → report.count = 0 ∧ report.shown = []) ∧
    (report.fault = none → report.count = (violationsOf outcome).length ∧
      report.shown = (if limit = 0 then violationsOf outcome
        else (violationsOf outcome).take (min report.count limit))) ∧
    report.shown.length ≤ report.count ∧
    (report.fault = none → report.valid = false → ∃ hidden,
      Tells report.lines report.source report.count report.shown hidden ∧
        report.shown.length + hidden = report.count) := by
  rw [Schema.checkText_eq]
  cases hread : Json.readText input.text with
  | error message =>
      rw [of_readText_error hread]
      have hfaulty {fault : String} : some fault ≠ none := Option.some_ne_none fault
      refine ⟨rfl, by simp [valid], fun fault => ⟨fun hfault => ?_, ?_⟩, fun _ => ⟨rfl, rfl⟩,
        fun h => absurd h hfaulty, Nat.le_refl 0, fun h => absurd h hfaulty⟩
      · exact ⟨message, rfl, (Option.some.inj hfault).symm⟩
      · rintro ⟨message', hmessage, rfl⟩
        obtain rfl := Failure.json.inj (Except.error.inj hmessage)
        rfl
  | ok document =>
      rw [of_readText_ok hread]
      have hle := length_upTo_le limit (schema.validate document)
      refine ⟨rfl, ?_, ?_, fun h => absurd rfl h, fun _ => ⟨?_, ?_⟩, hle, fun hfault hvalid => ?_⟩
      · rw [Schema.check_eq_ok_iff]
        simp [valid]
      · simp [Schema.check_ne_json]
      · rw [violationsOf_check]
      · rw [violationsOf_check, upTo]
        split
        · rfl
        · rw [List.take_eq_take_min, Nat.min_comm]
      · exact ⟨_, tells_lines hfault hvalid, Nat.add_sub_cancel' hle⟩

end Report

/-! ### What is printed of a document -/

/-- **What is printed of a document.**  In text form, that is what is wrong with its text, or that
all is well, or lines that tell of its violations, of which the first ones are shown up to a limit.
In JSON form it is one object on a line. -/
inductive Input.PrintedAs (document : Input) (schema : Schema) (limit : Nat) :
    ReportFormat → List String → Prop
  | fault {message} (unread : Json.readText document.text = .error message) :
      document.PrintedAs schema limit .text [document.source ++ ": invalid JSON: " ++ message]
  | ok {value} (read : Json.readText document.text = .ok value)
      (valid : schema.validate value = []) :
      document.PrintedAs schema limit .text [document.source ++ ": ok"]
  | violations {value hidden lines} (read : Json.readText document.text = .ok value)
      (invalid : schema.validate value ≠ [])
      (adds_up : (Report.upTo limit (schema.validate value)).length + hidden =
        (schema.validate value).length)
      (tells : Report.Tells lines document.source (schema.validate value).length
        (Report.upTo limit (schema.validate value)) hidden) :
      document.PrintedAs schema limit .text lines
  | faultObject {message} (unread : Json.readText document.text = .error message) :
      document.PrintedAs schema limit .json [(Json.object [("source", .string document.source),
        ("valid", .bool false), ("error", .string ("invalid JSON: " ++ message)),
        ("violation_count", .number (.whole 0)), ("violations", .array [])]).compact]
  | object {value} (read : Json.readText document.text = .ok value) :
      document.PrintedAs schema limit .json [(Json.object [("source", .string document.source),
        ("valid", .bool (schema.validate value).isEmpty),
        ("violation_count", .number (.whole (schema.validate value).length)),
        ("violations", .array ((Report.upTo limit (schema.validate value)).map
          Violation.toJson))]).compact]

/-- The lines of the report about a document are what is to be printed of it. -/
lemma Report.printedAs_linesAs (schema : Schema) (limit : Nat) (document : Input)
    (format : ReportFormat) :
    document.PrintedAs schema limit format ((Report.of schema limit document).linesAs format) := by
  cases hread : Json.readText document.text with
  | error message =>
      rw [of_readText_error hread]
      cases format with
      | text =>
          have hline : document.source ++ ": " ++ ("invalid JSON: " ++ message) =
              document.source ++ ": invalid JSON: " ++ message := by
            simp only [String.append_assoc]
            rfl
          change document.PrintedAs schema limit .text
            [document.source ++ ": " ++ ("invalid JSON: " ++ message)]
          rw [hline]
          exact .fault hread
      | json => exact .faultObject hread
  | ok value =>
      rw [of_readText_ok hread]
      cases format with
      | text =>
          by_cases hvalid : schema.validate value = []
          · rw [hvalid]
            exact .ok hread hvalid
          · have hhidden := Nat.add_sub_cancel' (length_upTo_le limit (schema.validate value))
            refine .violations hread hvalid hhidden (@tells_lines ⟨document.source, none,
              (schema.validate value).length, upTo limit (schema.validate value)⟩ rfl ?_)
            simpa [valid] using hvalid
      | json =>
          have hvalid : valid ⟨document.source, none, (schema.validate value).length,
              upTo limit (schema.validate value)⟩ = (schema.validate value).isEmpty := by
            rw [valid]
            cases schema.validate value <;> rfl
          rw [linesAs, toJson, hvalid]
          exact .object hread

/-- Only one thing is to be printed of a document. -/
lemma Input.PrintedAs.unique {document : Input} {schema : Schema} {limit : Nat}
    {format : ReportFormat} {lines lines' : List String}
    (h : document.PrintedAs schema limit format lines)
    (h' : document.PrintedAs schema limit format lines') : lines = lines' := by
  cases h with
  | fault unread =>
      cases h' with
      | fault unread' => rw [Except.error.inj (unread.symm.trans unread')]
      | ok read' _ => cases unread.symm.trans read'
      | violations read' _ _ _ => cases unread.symm.trans read'
  | ok read valid =>
      cases h' with
      | fault unread' => cases read.symm.trans unread'
      | ok _ _ => rfl
      | violations read' invalid _ _ =>
          exact absurd valid (Except.ok.inj (read'.symm.trans read) ▸ invalid)
  | violations read invalid adds_up tells =>
      cases h' with
      | fault unread' => cases read.symm.trans unread'
      | ok read' valid =>
          exact absurd valid (Except.ok.inj (read.symm.trans read') ▸ invalid)
      | violations read' _ adds_up' tells' =>
          obtain rfl := Except.ok.inj (read.symm.trans read')
          obtain rfl := Nat.add_left_cancel (adds_up.trans adds_up'.symm)
          exact tells.trans tells'.symm
  | faultObject unread =>
      cases h' with
      | faultObject unread' => rw [Except.error.inj (unread.symm.trans unread')]
      | object read' => cases unread.symm.trans read'
  | object read =>
      cases h' with
      | faultObject unread' => cases read.symm.trans unread'
      | object read' => rw [Except.ok.inj (read.symm.trans read')]

end SchemaCheck
