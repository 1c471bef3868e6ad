import SchemaCheck.Json.Basic
import SchemaCheck.Text.Quoted

/-!
# What is wrong with a JSON text, and where

A `Json.Fault` is a cause and a place.  The place is kept as a number of bytes that come after it,
which a reader knows without counting lines; `Json.Fault.message` turns it into a line and a column
once the whole text is at hand.
-/

namespace SchemaCheck.Json

/-- The text under the reader. -/
abbrev Bytes := List UInt8

/-- What was found in the place of something else. -/
inductive Unexpected
  | null
  | bool (b : Bool)
  | number (n : Number)
  | string (s : String)
  | array
  | object

/-- Why a text was refused. -/
inductive Cause
  | endInValue
  | endInList
  | endInObject
  | endInString
  | expectedColon
  | expectedCommaOrBracket
  | expectedCommaOrBrace
  | expectedIdent
  | expectedValue
  | invalidEscape
  | invalidNumber
  | numberOutOfRange
  | invalidUnicode
  | controlCharacter
  | keyMustBeString
  | loneSurrogate
  | trailingComma
  | trailingCharacters
  | endOfHexEscape
  | depthLimit
  | wrongType (found : Unexpected) (expected : String)
  | wrongLength (found : Nat) (expected : String)
  | missingKey (key : String)
  | repeatedKey (key : String)
  | noVariant (type : String)

/-- A cause, and its place as a count of the bytes behind it.  `left` counts for a text in memory.
A reader of a stream may already have drawn the next byte to look at it, and then reports a place
one byte further on, which `leftInStream` says. -/
structure Fault where
  cause : Cause
  left : Nat
  leftInStream : Nat

namespace Fault

/-- Right behind the last byte that was consumed. -/
def after (cause : Cause) (rest : Bytes) : Fault := ⟨cause, rest.length, rest.length⟩

/-- Behind the byte that is looked at, or at the end of the text. -/
def upon (cause : Cause) (rest : Bytes) : Fault := ⟨cause, rest.length - 1, rest.length - 1⟩

/-- Right behind the last byte that was consumed, when the next one has been looked at. -/
def afterLooking (cause : Cause) (rest : Bytes) : Fault := ⟨cause, rest.length, rest.length - 1⟩

end Fault

/-- How a number is named among other values. -/
def Number.describe : Number → String
  | .whole n => "integer `" ++ n.repr ++ "`"
  | .float x => "floating point `" ++ x.spell Number.style .toEven ++ "`"

def Unexpected.describe : Unexpected → String
  | .null => "null"
  | .bool b => "boolean `" ++ (if b then "true" else "false") ++ "`"
  | .number n => n.describe
  | .string s => "string " ++ Text.quoted s
  | .array => "sequence"
  | .object => "map"

def Cause.message : Cause → String
  | .endInValue => "EOF while parsing a value"
  | .endInList => "EOF while parsing a list"
  | .endInObject => "EOF while parsing an object"
  | .endInString => "EOF while parsing a string"
  | .expectedColon => "expected `:`"
  | .expectedCommaOrBracket => "expected `,` or `]`"
  | .expectedCommaOrBrace => "expected `,` or `\x7d`"
  | .expectedIdent => "expected ident"
  | .expectedValue => "expected value"
  | .invalidEscape => "invalid escape"
  | .invalidNumber => "invalid number"
  | .numberOutOfRange => "number out of range"
  | .invalidUnicode => "invalid unicode code point"
  | .controlCharacter => "control character (\\u0000-\\u001F) found while parsing a string"
  | .keyMustBeString => "key must be a string"
  | .loneSurrogate => "lone leading surrogate in hex escape"
  | .trailingComma => "trailing comma"
  | .trailingCharacters => "trailing characters"
  | .endOfHexEscape => "unexpected end of hex escape"
  | .depthLimit => "recursion limit exceeded"
  | .wrongType found expected => "invalid type: " ++ found.describe ++ ", expected " ++ expected
  | .wrongLength found expected => "invalid length " ++ found.repr ++ ", expected " ++ expected
  | .missingKey key => "missing field `" ++ key ++ "`"
  | .repeatedKey key => "duplicate field `" ++ key ++ "`"
  | .noVariant type => "data did not match any variant of untagged enum " ++ type

/-- The line, counted from one, and the column of the place that `left` bytes of the text follow:
the column counts the bytes since the last line feed. -/
def place (text : Bytes) (left : Nat) : Nat × Nat :=
  let before := text.take (text.length - left)
  (before.count 0x0A + 1, (before.reverse.takeWhile (· != 0x0A)).length)

/-- A message that ends in its place. -/
def located (message : String) (line column : Nat) : String :=
  message ++ " at line " ++ line.repr ++ " column " ++ column.repr

namespace Fault

/-- The message about a text in memory. -/
def message (text : Bytes) (fault : Fault) : String :=
  let (line, column) := place text fault.left
  located fault.cause.message line column

/-- The message about a text that was read from a stream. -/
def streamMessage (text : Bytes) (fault : Fault) : String :=
  let (line, column) := place text fault.leftInStream
  located fault.cause.message line column

end Fault

end SchemaCheck.Json
