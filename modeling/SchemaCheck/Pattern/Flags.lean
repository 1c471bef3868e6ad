import SchemaCheck.Text.Blank
import SchemaCheck.Text.CharSet

/-!
# Flags of patterns

`Pattern.Flags` are the switches in force at a place of a pattern.  The extended notation is one of
them: where it is on, blanks and comments do not count, and so the functions that take characters
and numbers off a text belong to the flags.
-/

namespace SchemaCheck.Pattern

open Text (CharSet)

/-- The flags in force at a place of a pattern. -/
structure Flags where
  caseless : Bool := false
  multiline : Bool := false
  dotAll : Bool := false
  crlf : Bool := false
  extended : Bool := false
  unicode : Bool := true

/-- Sets the flag of a letter, if it has one. -/
def Flags.set? (flags : Flags) (letter : Char) (on : Bool) : Option Flags :=
  match letter with
  | 'i' => some { flags with caseless := on }
  | 'm' => some { flags with multiline := on }
  | 's' => some { flags with dotAll := on }
  | 'R' => some { flags with crlf := on }
  | 'x' => some { flags with extended := on }
  | 'u' => some { flags with unicode := on }
  | 'U' => some flags
  | _ => none

/-- Reads flags up to a colon or a closing parenthesis, which is handed back with the text behind
it.  No flag and no hyphen may come twice, and a hyphen is followed by a flag. -/
def readFlags (flags : Flags) (seen : List Char) : List Char → Option (Flags × Char × List Char)
  | [] => none
  | c :: rest =>
    if c = ':' ∨ c = ')' then
      if seen.head? = some '-' then none else some (flags, c, rest)
    else if seen.contains c then none
    else if c = '-' then readFlags flags (c :: seen) rest
    else match flags.set? c (!seen.contains '-') with
      | some flags => readFlags flags (c :: seen) rest
      | none => none

/-! ### Blanks and digits -/

def skipComment (text : List Char) : List Char := (text.dropWhile (· != '\n')).drop 1

def skipExtended : (fuel : Nat) → List Char → List Char
  | 0, text => text
  | fuel + 1, text =>
    match text with
    | [] => []
    | c :: rest =>
      if Text.isBlank c then skipExtended fuel rest
      else if c = '#' then skipExtended fuel (skipComment rest)
      else c :: rest

/-- The text behind blanks and comments, where they do not count. -/
def Flags.skip (flags : Flags) (text : List Char) : List Char :=
  if flags.extended then skipExtended text.length text else text

/-- The characters up to a closing brace, without those that do not count, and the text behind
it. -/
def Flags.untilBrace (flags : Flags) (inComment : Bool) :
    List Char → Option (List Char × List Char)
  | [] => none
  | c :: rest =>
    if inComment then flags.untilBrace (c != '\n') rest
    else if flags.extended && Text.isBlank c then flags.untilBrace false rest
    else if flags.extended && c == '#' then flags.untilBrace true rest
    else if c = '\x7d' then some ([], rest)
    else (flags.untilBrace false rest).map fun (chars, behind) => (c :: chars, behind)

/-- The leading decimal digits, and the text behind them. -/
def Flags.decimalDigits (flags : Flags) (inComment : Bool) : List Char → List Char × List Char
  | [] => ([], [])
  | c :: rest =>
    if inComment then flags.decimalDigits (c != '\n') rest
    else if c.isDigit then
      let (digits, behind) := flags.decimalDigits false rest
      (c :: digits, behind)
    else if flags.extended && Text.isBlank c then flags.decimalDigits false rest
    else if flags.extended && c == '#' then flags.decimalDigits true rest
    else ([], c :: rest)

/-- A number of at most 32 bits, and the text behind it and any blanks.  The number is missing when
there are no digits or too many. -/
def Flags.decimal (flags : Flags) (text : List Char) : Option Nat × List Char :=
  let text := text.dropWhile Text.isBlank
  let (digits, behind) :=
    if text.head?.any Char.isDigit then flags.decimalDigits false text else ([], text)
  let value := digits.foldl (fun n c => 10 * n + (c.toNat - '0'.toNat)) 0
  let number := if digits = [] ∨ Nat.pow 2 32 ≤ value then none else some value
  (number, if behind.head?.any Text.isBlank then flags.skip (behind.dropWhile Text.isBlank)
    else behind)

/-- The character with the code point that hexadecimal digits spell. -/
def charOfHex? (digits : List Char) : Option Char := do
  let values ← digits.mapM CharSet.hexDigit?
  let point := values.foldl (fun n digit => 16 * n + digit) 0
  if digits.isEmpty || !point.isValidChar then none else some (Char.ofNat point)

/-- A fixed number of hexadecimal digits, and the text behind them. -/
def Flags.hexDigits (flags : Flags) : (count : Nat) → List Char → Option (List Char × List Char)
  | 0, text => some ([], text)
  | count + 1, text =>
    match flags.skip text with
    | [] => none
    | c :: rest => do
      let (digits, behind) ← flags.hexDigits count rest
      some (c :: digits, behind)

end SchemaCheck.Pattern
