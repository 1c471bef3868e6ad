import SchemaCheck.Json.Writer
import SchemaCheck.Path

/-!
# Violations

A `Violation` says where a document breaks a rule, which field the rule belongs to, and what the
rule is.  A `Reason` is the broken rule alone; it carries all that its message and its JSON form
show.
-/

namespace SchemaCheck

/-- A limit on numbers, as it is shown. -/
inductive Bound
  | integer (n : Int)
  | float (x : Binary64)

/-- The text of a number that may not be finite, without exponent. -/
def Binary64.spellPlain : Binary64 → String
  | .finite x => x.spell .plain .up
  | .infinite negative => if negative then "-inf" else "inf"
  | .nan => "NaN"

/-- The JSON form of a number; one that is not finite has none and becomes null. -/
def Binary64.toJson : Binary64 → Json
  | .finite x => .number (.float x)
  | _ => .null

namespace Bound

def spell : Bound → String
  | .integer n => n.repr
  | .float x => x.spellPlain

def toJson : Bound → Json
  | .integer n => .number (.whole n)
  | .float x => x.toJson

/-- Whether two limits are of one sort and equal as numbers. -/
instance : BEq Bound where
  beq
    | .integer m, .integer n => m == n
    | .float x, .float y => x == y
    | _, _ => false

end Bound

/-- What is wrong with a value. -/
inductive Reason
  | required
  | wrongKind (expected found : Kind)
  | notPositive
  | notNegative
  | belowMinimum (min : Bound)
  | aboveMaximum (max : Bound)
  | outOfRanges (ranges : List (Bound × Bound))
  | tooFewCharacters (min : Nat)
  | tooManyCharacters (max : Nat)
  | formatMismatch (pattern : String)
  | notAChoice (choices : List String)
  | unexpectedBoolean (expected : Bool)
  | notNull
  | tooFewItems (min : Nat)
  | tooManyItems (max : Nat)
  | fixedLengthMismatch (expected found : Nat)
  | invalidJson (fault : String)
  | unknownField
  deriving BEq

namespace Reason

def boolName (b : Bool) : String := if b then "true" else "false"

def message : Reason → String
  | .required => "value is required"
  | .wrongKind expected found => "expected " ++ expected.name ++ ", found " ++ found.name
  | .notPositive => "value should be positive"
  | .notNegative => "value should be negative"
  | .belowMinimum min => "value should be at least " ++ min.spell
  | .aboveMaximum max => "value should be at most " ++ max.spell
  | .outOfRanges ranges =>
    "value should be in one of these ranges: " ++ " ".intercalate (ranges.map fun (start, stop) =>
      "[" ++ start.spell ++ ", " ++ stop.spell ++ "]")
  | .tooFewCharacters min => "value should have at least " ++ min.repr ++ " characters"
  | .tooManyCharacters max => "value should have at most " ++ max.repr ++ " characters"
  | .formatMismatch pattern => "value does not match format " ++ pattern
  | .notAChoice choices => "value should be one of: [" ++ ", ".intercalate choices ++ "]"
  | .unexpectedBoolean expected => "value should be " ++ boolName expected
  | .notNull => "value should be null"
  | .tooFewItems min => "array should have at least " ++ min.repr ++ " items"
  | .tooManyItems max => "array should have at most " ++ max.repr ++ " items"
  | .fixedLengthMismatch expected found =>
    "array should have exactly " ++ expected.repr ++ " items, found " ++ found.repr
  | .invalidJson fault => "value is not valid JSON: " ++ fault
  | .unknownField => "unknown field"

def tag : Reason → String
  | .required => "required"
  | .wrongKind .. => "type_mismatch"
  | .notPositive => "not_positive"
  | .notNegative => "not_negative"
  | .belowMinimum _ => "below_minimum"
  | .aboveMaximum _ => "above_maximum"
  | .outOfRanges _ => "out_of_ranges"
  | .tooFewCharacters _ => "too_few_characters"
  | .tooManyCharacters _ => "too_many_characters"
  | .formatMismatch _ => "format_mismatch"
  | .notAChoice _ => "not_a_choice"
  | .unexpectedBoolean _ => "unexpected_boolean"
  | .notNull => "not_null"
  | .tooFewItems _ => "too_few_items"
  | .tooManyItems _ => "too_many_items"
  | .fixedLengthMismatch .. => "fixed_length_mismatch"
  | .invalidJson _ => "invalid_json"
  | .unknownField => "unknown_field"

/-- The JSON form of a count. -/
def count (n : Nat) : Json := .number (.whole n)

/-- The JSON form of what a broken rule says beyond its sort. -/
def detail? : Reason → Option Json
  | .required | .notPositive | .notNegative | .notNull | .unknownField => none
  | .wrongKind expected found =>
    some (.object [("expected", .string expected.name), ("found", .string found.name)])
  | .belowMinimum min => some min.toJson
  | .aboveMaximum max => some max.toJson
  | .outOfRanges ranges =>
    some (.array (ranges.map fun (start, stop) => .array [start.toJson, stop.toJson]))
  | .tooFewCharacters min | .tooFewItems min => some (.object [("min", count min)])
  | .tooManyCharacters max | .tooManyItems max => some (.object [("max", count max)])
  | .formatMismatch pattern => some (.object [("pattern", .string pattern)])
  | .notAChoice choices => some (.object [("choices", .array (choices.map .string))])
  | .unexpectedBoolean expected => some (.object [("expected", .bool expected)])
  | .fixedLengthMismatch expected found =>
    some (.object [("expected", count expected), ("found", count found)])
  | .invalidJson fault => some (.object [("reason", .string fault)])

end Reason

/-- A broken rule, with the place of the value and the name of the field. -/
structure Violation where
  path : Path
  field : String
  reason : Reason
  deriving BEq

namespace Violation

def here (field : String) (reason : Reason) : Violation := ⟨[], field, reason⟩

/-- The same violation, seen from one step further out. -/
def under (segment : Segment) (violation : Violation) : Violation :=
  { violation with path := segment :: violation.path }

/-- The text of the place; at the root, where there is none, the name of the field. -/
def location (violation : Violation) : String :=
  if violation.path.isEmpty then violation.field else violation.path.spell

def message (violation : Violation) : String :=
  violation.location ++ ": " ++ violation.reason.message

def toJson (violation : Violation) : Json :=
  let detail := match violation.reason.detail? with
    | some detail => [("detail", detail)]
    | none => []
  .object ([("path", violation.path.toJson), ("field", .string violation.field),
    ("kind", .string violation.reason.tag)] ++ detail)

/-- Violations one a line. -/
def messages (violations : List Violation) : String :=
  "\n".intercalate (violations.map message)

end Violation

/-- Violations found below a step, seen from above it. -/
def below (segment : Segment) (violations : List Violation) : List Violation :=
  violations.map (Violation.under segment)

@[simp] theorem below_eq_nil_iff {segment : Segment} {violations : List Violation} :
    below segment violations = [] ↔ violations = [] :=
  List.map_eq_nil_iff

end SchemaCheck
