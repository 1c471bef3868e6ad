import SchemaCheck.Yaml.Cursor
import SchemaCheck.Yaml.Node

/-!
# Writing YAML scalars

`Yaml.spell` writes a text as a scalar that reads back as that text.  It is written plain if it can
be; between single quotes if a reader would take the plain form for something else; as a block of
lines if it has several; and between double quotes if it has characters that do not print.
-/

namespace SchemaCheck.Yaml

/-- The characters that a scalar may hold as they are. -/
def isPrintable (c : Char) : Bool :=
  c == '\n' || (' ' ≤ c && c ≤ '~') ||
    ('\u00a0' ≤ c && c != '\ufeff' && c != '\ufffe' && c != '\uffff')

def isBreak (c : Char) : Bool := ['\n', '\r', '\u0085', '\u2028', '\u2029'].contains c

/-- Whether a text ends here or goes on with a space or a break. -/
def endsSpelledWord : List Char → Bool
  | [] => true
  | c :: _ => isBlank c || isBreak c || c == '\x00'

/-- Whether a colon or a number sign that is not the first character ends a plain scalar, given the
character before. -/
def hasInnerIndicator (before : Char) : List Char → Bool
  | [] => false
  | c :: rest =>
    (c == ':' && endsSpelledWord rest) || (c == '#' && endsSpelledWord [before]) ||
      hasInnerIndicator c rest

/-- Whether a plain scalar of this text would be read as something else than a scalar. -/
def hasIndicator (text : List Char) : Bool :=
  match text with
  | [] => false
  | c :: rest =>
    "---".toList.isPrefixOf text || "...".toList.isPrefixOf text ||
      "#,[]\x7b\x7d&*!|>'\"%@`".toList.contains c ||
      (['?', ':', '-'].contains c && endsSpelledWord rest) || hasInnerIndicator c rest

/-- Whether some two neighbours pass a test. -/
def anyNeighbours (test : Char → Char → Bool) : List Char → Bool
  | c :: d :: rest => test c d || anyNeighbours test (d :: rest)
  | _ => false

def fitsPlain (text : List Char) : Bool :=
  !hasIndicator text && text.all (fun c => isPrintable c && !isBreak c) &&
    text.head? != some ' ' && text.getLast? != some ' '

def fitsSingle (text : List Char) : Bool :=
  text.all isPrintable &&
    !anyNeighbours (fun c d => (c == ' ' && isBreak d) || (isBreak c && d == ' ')) text

/-- Whether the text can stand as a block of lines. -/
def fitsBlock (text : List Char) : Bool :=
  text.all isPrintable && !anyNeighbours (fun c d => c == ' ' && isBreak d) text &&
    text.getLast? != some ' '

def single (text : List Char) : String :=
  "'" ++ String.join (text.map fun c => if c = '\'' then "''" else c.toString) ++ "'"

/-- The hexadecimal digits of a number, in capitals, at least `width` of them. -/
def capitalHex (width n : Nat) : String :=
  let digits := (Nat.toDigits 16 n).map Char.toUpper
  String.ofList (List.replicate (width - digits.length) '0' ++ digits)

def doubleChar (c : Char) : String :=
  match c with
  | '\x00' => "\\0"
  | '\x07' => "\\a"
  | '\x08' => "\\b"
  | '\t' => "\\t"
  | '\n' => "\\n"
  | '\x0b' => "\\v"
  | '\x0c' => "\\f"
  | '\r' => "\\r"
  | '\x1b' => "\\e"
  | '"' => "\\\""
  | '\\' => "\\\\"
  | '\u0085' => "\\N"
  | '\u2028' => "\\L"
  | '\u2029' => "\\P"
  | c =>
    if isPrintable c then c.toString
    else if c.toNat ≤ 0xff then "\\x" ++ capitalHex 2 c.toNat
    else if c.toNat ≤ 0xffff then "\\u" ++ capitalHex 4 c.toNat
    else "\\U" ++ capitalHex 8 c.toNat

def double (text : List Char) : String := "\"" ++ String.join (text.map doubleChar) ++ "\""

/-- The text as a block of lines with an indentation. -/
def block (indent : Nat) (text : List Char) : String :=
  let told := if text.head?.any fun c => c == ' ' || isBreak c then "2" else ""
  let trailing := (text.reverse.takeWhile (· == '\n')).length
  let chomping :=
    if trailing = 0 then "-"
    else if trailing = 1 ∧ text.length ≠ 1 then ""
    else "+"
  let lines := (String.ofList (text.take (text.length - trailing))).splitOn "\n"
  let indented := lines.map fun line =>
    if line.isEmpty then "" else String.ofList (List.replicate indent ' ') ++ line
  "|" ++ told ++ chomping ++ "\n" ++ "\n".intercalate indented ++
    String.ofList (List.replicate (trailing - 1) '\n')

/-- The text as a scalar, of which the lines after the first are indented. -/
def spell (indent : Nat) (text : String) : String :=
  let chars := text.toList
  if chars.contains '\n' then
    if fitsBlock chars then block indent chars else double chars
  else if isText text ∧ fitsPlain chars then text
  else if fitsSingle chars then single chars
  else double chars

end SchemaCheck.Yaml
