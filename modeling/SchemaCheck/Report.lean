import SchemaCheck.Document
import SchemaCheck.Settings
import SchemaCheck.Text.Blank
import SchemaCheck.Text.Lines

/-!
# Reports

A `Report` says of one document whether it passed, and shows its violations, as many of them as are
asked for.  `Report.lines` and `Report.toJson` are its two forms.
-/

namespace SchemaCheck

/-- A text that should be a document, and a name for where it is from. -/
structure Input where
  source : String
  text : String

namespace Input

def isBlank (text : String) : Bool := text.toList.all Text.isBlank

/-- The lines of an input as inputs of their own, named by their numbers.  Blank lines count as
lines, but are no inputs. -/
def byLine (input : Input) : List Input :=
  let numbered := (Text.lines input.text).zipIdx 1
  (numbered.filter fun (line, _) => !isBlank line).map fun (line, number) =>
    ⟨input.source ++ ":" ++ number.repr, line⟩

end Input

/-- What is said about one input. -/
structure Report where
  source : String
  fault : Option String
  count : Nat
  shown : List Violation

namespace Report

/-- The report about an input.  A limit of zero shows all violations. -/
def of (schema : Schema) (limit : Nat) (input : Input) : Report :=
  match Json.readText input.text with
  | .error message => ⟨input.source, some ("invalid JSON: " ++ message), 0, []⟩
  | .ok document =>
    let violations := schema.validate document
    ⟨input.source, none, violations.length,
      if limit = 0 then violations else violations.take limit⟩

def valid (report : Report) : Bool := report.fault.isNone && report.count == 0

def hidden (report : Report) : Nat := report.count - report.shown.length

def lines (report : Report) : List String :=
  match report.fault with
  | some fault => [report.source ++ ": " ++ fault]
  | none =>
    if report.valid then [report.source ++ ": ok"]
    else
      (report.source ++ ": " ++ report.count.repr ++ " violation(s)") ::
        report.shown.map (fun violation => "  " ++ violation.message) ++
        if report.hidden = 0 then [] else ["  ... and " ++ report.hidden.repr ++ " more"]

def toJson (report : Report) : Json :=
  let fault := match report.fault with
    | some fault => [("error", .string fault)]
    | none => []
  .object ([("source", .string report.source), ("valid", .bool report.valid)] ++ fault ++
    [("violation_count", .number (.whole report.count)),
      ("violations", .array (report.shown.map Violation.toJson))])

/-- The lines that are printed of a report. -/
def linesAs (format : ReportFormat) (report : Report) : List String :=
  match format with
  | .text => report.lines
  | .json => [report.toJson.compact]

end Report

end SchemaCheck
