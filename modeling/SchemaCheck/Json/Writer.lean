import SchemaCheck.Json.Basic

/-!
# Writing JSON values

`Json.compact` writes a value without any blank, and `Json.pretty` one item or member a line, two
spaces deeper than the line of its container.
-/

namespace SchemaCheck.Json

/-- The text of a character inside a string.  Only what would end the string or break a line is
escaped. -/
def escaped (c : Char) : String :=
  match c with
  | '"' => "\\\""
  | '\\' => "\\\\"
  | '\x08' => "\\b"
  | '\x0c' => "\\f"
  | '\n' => "\\n"
  | '\r' => "\\r"
  | '\t' => "\\t"
  | c =>
    if c.toNat < 0x20 then
      "\\u00" ++ String.ofList [Nat.digitChar (c.toNat / 16), Nat.digitChar (c.toNat % 16)]
    else c.toString

def literal (text : String) : String :=
  "\"" ++ String.join (text.toList.map escaped) ++ "\""

mutual

/-- The text of a value, without blanks. -/
def compact : Json → String
  | .null => "null"
  | .bool true => "true"
  | .bool false => "false"
  | .number n => n.spell
  | .string s => literal s
  | .array items => "[" ++ ",".intercalate (compactItems items) ++ "]"
  | .object members => "\x7b" ++ ",".intercalate (compactMembers members) ++ "\x7d"

def compactItems : List Json → List String
  | [] => []
  | item :: items => compact item :: compactItems items

def compactMembers : List (String × Json) → List String
  | [] => []
  | (key, value) :: members => (literal key ++ ":" ++ compact value) :: compactMembers members

end

/-- A line break and the indentation of a depth. -/
def lineBreak (depth : Nat) : String :=
  "\n" ++ String.ofList (List.replicate (2 * depth) ' ')

/-- Texts on lines of their own between brackets, or the brackets alone. -/
def bracketed (opening closing : String) (depth : Nat) (texts : List String) : String :=
  if texts.isEmpty then opening ++ closing
  else
    opening ++ lineBreak (depth + 1) ++ ("," ++ lineBreak (depth + 1)).intercalate texts ++
      lineBreak depth ++ closing

mutual

/-- The text of a value whose first line has the indentation of `depth`. -/
def prettyAt (depth : Nat) : Json → String
  | .null => "null"
  | .bool true => "true"
  | .bool false => "false"
  | .number n => n.spell
  | .string s => literal s
  | .array items => bracketed "[" "]" depth (prettyItems depth items)
  | .object members => bracketed "\x7b" "\x7d" depth (prettyMembers depth members)

def prettyItems (depth : Nat) : List Json → List String
  | [] => []
  | item :: items => prettyAt (depth + 1) item :: prettyItems depth items

def prettyMembers (depth : Nat) : List (String × Json) → List String
  | [] => []
  | (key, value) :: members =>
    (literal key ++ ": " ++ prettyAt (depth + 1) value) :: prettyMembers depth members

end

/-- The text of a value, on indented lines. -/
def pretty (value : Json) : String := prettyAt 0 value

end SchemaCheck.Json
