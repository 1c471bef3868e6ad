import SchemaCheck.Number.Reading

/-!
# YAML nodes

A `Yaml.Node` is a value of a YAML text before anybody has said what is expected of it.  A plain
scalar, one without quotes, may still be a number or a truth value: `Yaml.unsigned?` and
`Yaml.isText` say what a reader makes of it that has no expectation.
-/

namespace SchemaCheck.Yaml

/-- A value of a YAML text. -/
inductive Node
  | scalar (plain : Bool) (text : String)
  | sequence (items : List Node)
  | mapping (entries : List (Node × Node))

namespace Node

/-- The value of a key behind whose colon nothing stands. -/
def absent : Node := .scalar true ""

def text? : Node → Option String
  | .scalar _ text => some text
  | _ => none

/-- The items of a sequence, of which there are none where the value is absent. -/
def items? : Node → Option (List Node)
  | .sequence items => some items
  | .scalar true "" => some []
  | _ => none

/-- The entries of a mapping whose keys are scalars, of which there are none where the value is
absent. -/
def entries? : Node → Option (List (String × Node))
  | .mapping entries => entries.mapM fun (key, value) => key.text?.map (·, value)
  | .scalar true "" => some []
  | _ => none

end Node

/-! ### Plain scalars -/

/-- The digit that a character is in some base up to sixteen. -/
def digitValue (c : Char) : Nat :=
  if c.isDigit then c.toNat - '0'.toNat
  else if 'a' ≤ c ∧ c ≤ 'f' then c.toNat - 'a'.toNat + 10
  else if 'A' ≤ c ∧ c ≤ 'F' then c.toNat - 'A'.toNat + 10
  else 16

def number? (base : Nat) (digits : List Char) : Option Nat :=
  if digits.isEmpty || !digits.all fun c => digitValue c < base then none
  else some (digits.foldl (fun n c => base * n + digitValue c) 0)

/-- Digits with a zero too many at the front, which spell no number. -/
def isPadded : List Char → Bool
  | '0' :: digits => !digits.isEmpty && digits.all Char.isDigit
  | _ => false

/-- The number that a text without sign spells, with the mark of its base if that is not ten. -/
def magnitude? (text : List Char) : Option Nat :=
  match text with
  | '0' :: 'x' :: digits => number? 16 digits
  | '0' :: 'o' :: digits => number? 8 digits
  | '0' :: 'b' :: digits => number? 2 digits
  | digits => if isPadded digits then none else number? 10 digits

/-- The text behind its sign, if it has one of these. -/
def withoutSign (signs : List Char) : List Char → List Char
  | c :: rest => if signs.contains c then rest else c :: rest
  | [] => []

/-- The number that a plain scalar spells to a reader who expects one below `2 ^ 64`. -/
def unsigned? (text : String) : Option Nat :=
  (magnitude? (withoutSign ['+'] text.toList)).filter (· < Nat.pow 2 64)

/-- Whether a plain scalar spells an integer of at most 128 bits. -/
def isInteger (text : List Char) : Bool :=
  match text with
  | '-' :: digits => (magnitude? digits).any (· ≤ Nat.pow 2 127)
  | digits => (magnitude? (withoutSign ['+'] digits)).any (· < Nat.pow 2 128)

/-- Whether a plain scalar spells a number with a fraction or an exponent, or one that is not
finite. -/
def isFloat (text : List Char) : Bool :=
  let unsigned := withoutSign ['+'] text
  let doubleSign := unsigned.length < text.length && ['+', '-'].any (unsigned.head? == some ·)
  let finite := match Binary64.ofText? (String.ofList unsigned) with
    | some (.finite _) => true
    | _ => false
  !doubleSign && ([".inf", ".Inf", ".INF"].contains (String.ofList unsigned) || finite) ||
    ["-.inf", "-.Inf", "-.INF", ".nan", ".NaN", ".NAN"].contains (String.ofList text)

/-- The plain scalars that spell nothing, or a truth value. -/
def wordsOfValues : List String :=
  ["", "null", "Null", "NULL", "~", "true", "True", "TRUE", "false", "False", "FALSE"]

/-- Whether a plain scalar is a text to a reader without expectations. -/
def isText (text : String) : Bool :=
  let digits := text.toList
  !wordsOfValues.contains text && !isInteger digits && !isFloat digits &&
    !isPadded (withoutSign ['+', '-'] digits)

end SchemaCheck.Yaml
