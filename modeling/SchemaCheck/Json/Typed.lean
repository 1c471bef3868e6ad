import SchemaCheck.Json.Reader

/-!
# Reading JSON of an expected shape

A reader that wants an array or an object reports any other value by its name.  It reports it from
behind the value where that is a scalar, and from before the bracket where it is not.
-/

namespace SchemaCheck.Json

/-- A scalar as a value in the place of something else. -/
def Unexpected.ofScalar : Json → Unexpected
  | .null => .null
  | .bool b => .bool b
  | .number n => .number n
  | .string s => .string s
  | .array _ => .array
  | .object _ => .object

/-- The fault of a value that begins here but is not what was expected. -/
def wrongType (expected : String) (first : UInt8) (text : Bytes) : Fault :=
  match readScalar? first text with
  | some (.error fault) => fault
  | some (.ok (.number n, ⟨rest, _⟩)) => .afterLooking (.wrongType (.number n) expected) rest
  | some (.ok (value, ⟨rest, _⟩)) => .after (.wrongType (.ofScalar value) expected) rest
  | none =>
    if first = '['.toUInt8 then .afterLooking (.wrongType .array expected) (first :: text)
    else if first = '\x7b'.toUInt8 then .afterLooking (.wrongType .object expected) (first :: text)
    else .upon .expectedValue (first :: text)

/-- A fault in the items of an array, once the reader has looked for the end of the array. -/
def faultInArray (cause : Cause) (text : Bytes) : Fault :=
  match skipBlanks text with
  | [] => .after cause []
  | b :: rest =>
    if b = ']'.toUInt8 then .after cause rest
    else if b = ','.toUInt8 then .afterLooking cause (skipBlanks rest)
    else .afterLooking cause (b :: rest)

/-- A fault in the members of an object, once the reader has looked for the end of the object. -/
def faultInObject (cause : Cause) (text : Bytes) : Fault :=
  match skipBlanks text with
  | [] => .after cause []
  | b :: rest =>
    if b = '\x7d'.toUInt8 then .after cause rest else .afterLooking cause (b :: rest)

/-- The text behind an array that ends here. -/
def expectArrayEnd (text : Bytes) : Except Fault { rest : Bytes // rest.length < text.length } :=
  match h : skipBlanks text with
  | [] => .error (.upon .endInList [])
  | b :: rest =>
    if b = ']'.toUInt8 then .ok ⟨rest, length_lt_of_skipBlanks h⟩
    else if b = ','.toUInt8 then
      match skipBlanks rest with
      | c :: behind =>
        if c = ']'.toUInt8 then .error (.upon .trailingComma (c :: behind))
        else .error (.upon .trailingCharacters (c :: behind))
      | [] => .error (.upon .trailingCharacters [])
    else .error (.upon .trailingCharacters (b :: rest))

/-- A reader of what stands at the next byte that is not a blank. -/
def behindBlanks {α : Type}
    (reader : (first : UInt8) → (text : Bytes) → Except Fault (Taken α (first :: text))) :
    Reader α := fun text =>
  match h : skipBlanks text with
  | [] => .error (.upon .endInValue [])
  | b :: rest =>
    match reader b rest with
    | .error fault => .error fault
    | .ok taken => .ok (taken.within (by
        have := length_lt_of_skipBlanks h
        simp
        omega))

/-- An object whose values are nested at most `depth` deep. -/
def readMap (depth : Nat) : Reader (List (String × Json)) :=
  behindBlanks fun b rest =>
    if b = '\x7b'.toUInt8 then
      match readObject (readValue depth) rest with
      | .ok taken => .ok ((taken.map ofPairs).within (length_le_cons b rest))
      | .error fault => .error fault
    else .error (wrongType "a map" b rest)

def readSequence {α : Type} (item : Reader α) : Reader (List α) :=
  behindBlanks fun b rest =>
    if b = '['.toUInt8 then
      match readArray item rest with
      | .ok taken => .ok (taken.within (length_le_cons b rest))
      | .error fault => .error fault
    else .error (wrongType "a sequence" b rest)

end SchemaCheck.Json
