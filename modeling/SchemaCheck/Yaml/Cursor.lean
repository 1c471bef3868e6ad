/-!
# Places in a YAML text

The structure of a YAML text is in its columns.  A `Yaml.Cursor` is what is left of a text together
with the line and the column at which it begins, and whether a key or an entry may begin there.
-/

namespace SchemaCheck.Yaml

/-- What is left of a text, and where it begins.  The place is fresh if a key or an entry of a
sequence may begin at it: nothing else stands before it on its line. -/
structure Cursor where
  rest : List Char
  line : Nat
  column : Nat
  fresh : Bool

def isBlank (c : Char) : Bool := c == ' ' || c == '\t'

def isSpace (c : Char) : Bool := isBlank c || c == '\n'

/-- Whether a text is at its end or goes on with a space. -/
def endsWord : List Char → Bool
  | [] => true
  | c :: _ => isSpace c

/-- Skips spaces, comments and line breaks.  A tab may not stand where the columns count. -/
def skipFrom (flow comment : Bool) (line column : Nat) (fresh : Bool) : List Char → Cursor
  | [] => ⟨[], line, column, fresh⟩
  | c :: rest =>
    if c = '\n' then skipFrom flow false (line + 1) 0 (fresh || !flow) rest
    else if comment ∨ c = ' ' ∨ (c = '\t' ∧ (flow ∨ !fresh)) then
      skipFrom flow comment line (column + 1) fresh rest
    else if c = '#' then skipFrom flow true line (column + 1) fresh rest
    else ⟨c :: rest, line, column, fresh⟩

namespace Cursor

/-- The place of the next token.  Inside brackets a line break does not make a place fresh. -/
def skip (flow : Bool) (cursor : Cursor) : Cursor :=
  skipFrom flow false cursor.line cursor.column cursor.fresh cursor.rest

/-- The place behind some characters that are on one line. -/
def behind (cursor : Cursor) (count : Nat) (fresh : Bool) : Cursor :=
  ⟨cursor.rest.drop count, cursor.line, cursor.column + count, fresh⟩

/-- Whether a marker between documents stands here. -/
def atMarker (cursor : Cursor) (marker : String) : Bool :=
  cursor.column == 0 && marker.toList.isPrefixOf cursor.rest && endsWord (cursor.rest.drop 3)

def atEnd (cursor : Cursor) : Bool :=
  cursor.rest.isEmpty || cursor.atMarker "---" || cursor.atMarker "..."

def atEntry (cursor : Cursor) : Bool :=
  match cursor.rest with
  | '-' :: rest => endsWord rest
  | _ => false

/-- The place behind the colon of a key, if one stands next on this line.  Inside brackets it need
not be followed by a space. -/
def behindColon? (flow : Bool) (cursor : Cursor) : Option Cursor :=
  let blanks := cursor.rest.takeWhile isBlank
  match cursor.rest.drop blanks.length with
  | ':' :: rest =>
    if flow || endsWord rest then some (cursor.behind (blanks.length + 1) false) else none
  | _ => none

end Cursor

end SchemaCheck.Yaml
