import SchemaCheck.Yaml.Cursor
import SchemaCheck.Yaml.Node

/-!
# Scalars of YAML texts

A scalar is plain, in single or double quotes, or a block of lines.  It may go on over several
lines, which are then joined: one line break counts as a space, and each further one as itself.
-/

namespace SchemaCheck.Yaml

/-- The spaces and line breaks between two words of a scalar, as its text has them. -/
def joint (spaces : List Char) : List Char :=
  match spaces.count '\n' with
  | 0 => spaces
  | 1 => [' ']
  | n + 1 => List.replicate n '\n'

/-! ### Plain scalars -/

/-- Whether a plain scalar may begin with this text. -/
def beginsPlain (flow : Bool) : List Char → Bool
  | [] => false
  | '-' :: rest => !endsWord rest
  | c :: rest =>
    if c = '?' ∨ c = ':' then !flow && !endsWord rest
    else !isSpace c && !",[]\x7b\x7d#&*!|>'\"%@`".toList.contains c

/-- A plain scalar, given the spaces since its last word.  It ends before a comment, before the
colon of a key, inside brackets before a bracket or a comma, and before a line that is not indented
to the least column.  A tab may not stand left of that column. -/
def plainFrom (flow : Bool) (least : Nat) (spaces : List Char) (line column : Nat) :
    List Char → Option (List Char × Cursor)
  | [] => some ([], ⟨[], line, column, spaces.contains '\n'⟩)
  | c :: rest =>
    let broken := spaces.contains '\n'
    let here : Cursor := ⟨c :: rest, line, column, broken⟩
    if c = '\n' then plainFrom flow least (spaces ++ [c]) (line + 1) 0 rest
    else if c = '\t' ∧ broken ∧ column < least then none
    else if isBlank c then plainFrom flow least (spaces ++ [c]) line (column + 1) rest
    else if here.atEnd then some ([], here)
    else if broken ∧ !flow ∧ column < least then some ([], here)
    else if c = '#' ∧ !spaces.isEmpty then some ([], here)
    else if flow ∧ c = ':' ∧ rest.head?.any ",?[]\x7b\x7d".toList.contains then none
    else if c = ':' ∧ endsWord rest then some ([], here)
    else if flow ∧ ",[]\x7b\x7d".toList.contains c then some ([], here)
    else (plainFrom flow least [] line (column + 1) rest).map fun (text, cursor) =>
      (joint spaces ++ c :: text, cursor)

def readPlain (flow : Bool) (least : Nat) (cursor : Cursor) : Option (List Char × Cursor) :=
  plainFrom flow least [] cursor.line cursor.column cursor.rest

/-! ### Quoted scalars -/

/-- The rest of a scalar in single quotes, given the spaces since its last word.  Two quotes stand
for one. -/
def singleFrom (spaces : List Char) (line column : Nat) :
    List Char → Option (List Char × Cursor)
  | [] => none
  | '\'' :: '\'' :: rest => (singleFrom [] line (column + 2) rest).map fun (text, cursor) =>
      (joint spaces ++ '\'' :: text, cursor)
  | c :: rest =>
    if c = '\'' then some (joint spaces, ⟨rest, line, column + 1, false⟩)
    else if c = '\n' then singleFrom (spaces ++ [c]) (line + 1) 0 rest
    else if isBlank c then singleFrom (spaces ++ [c]) line (column + 1) rest
    else if Cursor.atEnd ⟨c :: rest, line, column, false⟩ then none
    else (singleFrom [] line (column + 1) rest).map fun (text, cursor) =>
      (joint spaces ++ c :: text, cursor)

/-- The character that a letter behind a backslash stands for. -/
def escape? : Char → Option Char
  | '0' => some '\x00'
  | 'a' => some '\x07'
  | 'b' => some '\x08'
  | 't' => some '\t'
  | '\t' => some '\t'
  | 'n' => some '\n'
  | 'v' => some '\x0b'
  | 'f' => some '\x0c'
  | 'r' => some '\r'
  | 'e' => some '\x1b'
  | ' ' => some ' '
  | '"' => some '"'
  | '/' => some '/'
  | '\\' => some '\\'
  | 'N' => some '\u0085'
  | '_' => some '\u00a0'
  | 'L' => some '\u2028'
  | 'P' => some '\u2029'
  | _ => none

/-- The number of hexadecimal digits that follow a letter behind a backslash. -/
def escapeDigits : Char → Nat
  | 'x' => 2
  | 'u' => 4
  | 'U' => 8
  | _ => 0

def hexChar? (digits : List Char) : Option Char :=
  let value := digits.foldl (fun n c => 16 * n + digitValue c) 0
  if digits.all (digitValue · < 16) ∧ value.isValidChar then some (Char.ofNat value) else none

/-- The spaces between words in double quotes.  Behind a line break that is escaped, only further
line breaks count. -/
def doubleJoint (escapedBreak : Bool) (spaces : List Char) : List Char :=
  if escapedBreak then spaces.filter (· == '\n') else joint spaces

/-- The rest of a scalar in double quotes, given the spaces since its last word, the hexadecimal
digits that an escape still needs, and those that it has. -/
def doubleFrom (escapedBreak : Bool) (spaces : List Char) (missing : Nat) (digits : List Char)
    (line column : Nat) : List Char → Option (List Char × Cursor)
  | [] => none
  | c :: rest =>
    let before := doubleJoint escapedBreak spaces
    if missing = 1 then
      match hexChar? (digits ++ [c]) with
      | none => none
      | some char => (doubleFrom false [] 0 [] line (column + 1) rest).map fun (text, cursor) =>
          (char :: text, cursor)
    else if missing > 1 then
      doubleFrom false [] (missing - 1) (digits ++ [c]) line (column + 1) rest
    else if c = '"' then some (before, ⟨rest, line, column + 1, false⟩)
    else if c = '\n' then doubleFrom escapedBreak (spaces ++ [c]) 0 [] (line + 1) 0 rest
    else if isBlank c then doubleFrom escapedBreak (spaces ++ [c]) 0 [] line (column + 1) rest
    else if Cursor.atEnd ⟨c :: rest, line, column, false⟩ then none
    else if c = '\\' then
      match rest with
      | [] => none
      | letter :: rest =>
        let behind :=
          if letter = '\n' then doubleFrom true [] 0 [] (line + 1) 0 rest
          else if escapeDigits letter > 0 then
            doubleFrom false [] (escapeDigits letter) [] line (column + 2) rest
          else (escape? letter).bind fun char =>
            (doubleFrom false [] 0 [] line (column + 2) rest).map fun (text, cursor) =>
              (char :: text, cursor)
        behind.map fun (text, cursor) => (before ++ text, cursor)
    else (doubleFrom false [] 0 [] line (column + 1) rest).map fun (text, cursor) =>
      (before ++ c :: text, cursor)

/-! ### Blocks of lines -/

/-- What becomes of the line breaks at the end of a block: they are dropped, one is kept, or all
are. -/
inductive Chomping
  | strip
  | clip
  | keep
  deriving DecidableEq

/-- The marks of a block: how its end is treated, and its indentation if that is told. -/
def blockMarks : List Char → Option (Chomping × Option Nat)
  | [] => some (.clip, none)
  | ['-'] => some (.strip, none)
  | ['+'] => some (.keep, none)
  | [d] => if '1' ≤ d ∧ d ≤ '9' then some (.clip, some (d.toNat - '0'.toNat)) else none
  | [d, e] =>
    if '1' ≤ d ∧ d ≤ '9' ∧ e = '-' ∨ '1' ≤ e ∧ e ≤ '9' ∧ d = '-' then
      some (.strip, some ((if d = '-' then e else d).toNat - '0'.toNat))
    else if '1' ≤ d ∧ d ≤ '9' ∧ e = '+' ∨ '1' ≤ e ∧ e ≤ '9' ∧ d = '+' then
      some (.keep, some ((if d = '+' then e else d).toNat - '0'.toNat))
    else none
  | _ => none

/-- The number of spaces at the front of a line. -/
def indentation (line : List Char) : Nat := (line.takeWhile (· == ' ')).length

/-- The indentation of a block, which its first line with a text gives, or an empty line before that
one, but no less than the least column. -/
def blockIndent (least : Nat) (lines : List (List Char)) : Nat :=
  let blank := lines.takeWhile (·.all (· == ' '))
  let first := lines.drop blank.length |>.take 1
  (blank ++ first).foldl (fun indent line => max indent (indentation line)) (max least 1)

/-- The text of a block up to its last line, given the number of line breaks since the last one; the
number of line breaks behind it; and the lines behind the block, which are not indented enough. -/
def blockFrom (indent breaks : Nat) :
    List (List Char) → List Char × Nat × List (List Char)
  | [] => ([], breaks, [])
  | line :: lines =>
    let ended := if lines.isEmpty then 0 else 1
    if line.all (· == ' ') ∧ line.length ≤ indent then blockFrom indent (breaks + ended) lines
    else if indentation line < indent then ([], breaks, line :: lines)
    else
      let (text, behind) := blockFrom indent ended lines
      (List.replicate breaks '\n' ++ line.drop indent ++ text, behind)

/-- A block of lines that are kept as they are, from behind its bar. -/
def readBlock (least : Nat) (cursor : Cursor) : Option (List Char × Cursor) :=
  match cursor.rest.splitOn '\n' with
  | [] => none
  | header :: lines =>
    let marks := header.takeWhile fun c => !isBlank c
    let behind := (header.drop marks.length).dropWhile isBlank
    if behind.head?.any (· ≠ '#') then none
    else (blockMarks marks).map fun (chomping, told) =>
      let indent := match told with
        | some n => least - 1 + n
        | none => blockIndent least lines
      let (text, breaks, others) := blockFrom indent 0 lines
      let kept := match chomping with
        | .strip => 0
        | .clip => if text.isEmpty then 0 else min breaks 1
        | .keep => breaks
      (text ++ List.replicate kept '\n',
        ⟨['\n'].intercalate others, cursor.line + 1 + (lines.length - others.length), 0, true⟩)

end SchemaCheck.Yaml
