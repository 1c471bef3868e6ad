import SchemaCheck.Spec.Reading
import SchemaCheck.Spec.Writing
import SchemaCheck.Validation

/-!
# Schemas and documents as texts

Reading a schema from a text, checking a document that is a text, and the failures of either.
-/

namespace SchemaCheck

/-- Why a schema could not be read, or a document did not pass. -/
inductive Failure
  | json (message : String)
  | unreadable (path reason : String)
  | spec (errors : List SpecError)
  | invalid (violations : List Violation)

def Failure.message : Failure → String
  | .json message => "invalid JSON: " ++ message
  | .unreadable path reason => "could not read " ++ path ++ ": " ++ reason
  | .spec errors => "schema compilation failed:\n" ++ SpecError.messages errors
  | .invalid violations =>
    violations.length.repr ++ " violation(s):\n" ++ Violation.messages violations

namespace Json

/-- The index at which a pattern begins for the last time. -/
def lastIndexOf? (pattern text : List Char) : Option Nat :=
  (List.range (text.length + 1)).reverse.find? fun i => pattern.isPrefixOf (text.drop i)

/-- The number below `2 ^ 64` that digits spell, if there are digits. -/
def smallNumber? (digits : List Char) : Option Nat :=
  let value := digits.foldl (fun n c => 10 * n + (c.toNat - '0'.toNat)) 0
  if digits.isEmpty || Nat.pow 2 64 ≤ value then none else some value

/-- A message split from the place that it ends in, if it ends in one. -/
def splitPlace? (message : String) : Option (String × Nat × Nat) := do
  let text := message.toList
  let start ← lastIndexOf? " at line ".toList text
  let behind := text.drop (start + 9)
  let afterLine := behind.dropWhile Char.isDigit
  guard (" column ".toList.isPrefixOf afterLine)
  let afterColumn := afterLine.drop 8
  guard (afterColumn.all Char.isDigit)
  let line ← smallNumber? (behind.takeWhile Char.isDigit)
  let column ← smallNumber? afterColumn
  some (String.ofList (text.take start), line, column)

/-- A message that is passed on with its place: the numbers of the place are written anew, and there
is no place in line zero. -/
def relocated (message : String) : String :=
  match splitPlace? message with
  | none => message
  | some (message, 0, _) => message
  | some (message, line, column) => located message line column

end Json

namespace Schema

def ofJson (document : Json) : Except Failure Schema :=
  (ofSpec document).mapError .spec

/-- The schema that the bytes of a document describe. -/
def ofBytes (bytes : Json.Bytes) : Except Failure Schema :=
  match Json.read bytes with
  | .ok document => ofJson document
  | .error fault => .error (.json (fault.message bytes))

/-- The schema that the text of a document describes. -/
def ofText (text : String) : Except Failure Schema := ofBytes (Json.bytesOf text)

/-- The schema at the front of a text, with nothing behind it; otherwise the message about what is
wrong.  The document is checked before what is behind it is looked at. -/
def decode (text : String) : Except String Schema :=
  let bytes := Json.bytesOf text
  match Json.readValue Json.depthLimit bytes with
  | .error fault => .error (fault.message bytes)
  | .ok taken =>
    match ofSpec taken.value with
    | .error errors => .error (Json.relocated (SpecError.messages errors))
    | .ok schema =>
      match Json.expectEnd taken.rest with
      | .error fault => .error (fault.message bytes)
      | .ok () => .ok schema

/-- Passes a document without violations. -/
def check (schema : Schema) (document : Json) : Except Failure Unit :=
  match schema.validate document with
  | [] => .ok ()
  | violations => .error (.invalid violations)

/-- Passes the bytes of a document without violations. -/
def checkBytes (schema : Schema) (bytes : Json.Bytes) : Except Failure Unit :=
  match Json.read bytes with
  | .ok document => schema.check document
  | .error fault => .error (.json (fault.message bytes))

/-- Passes the text of a document without violations. -/
def checkText (schema : Schema) (text : String) : Except Failure Unit :=
  schema.checkBytes (Json.bytesOf text)

end Schema

end SchemaCheck
