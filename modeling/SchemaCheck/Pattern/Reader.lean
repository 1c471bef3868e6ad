import SchemaCheck.Pattern.Bracket

/-!
# Reading patterns

`Pattern.read?` reads the text of a pattern.  Its characters are taken one construct at a time:
open groups wait on a stack for the text behind them.  While it reads, the reader already turns
names, ranges and flags into sets of characters, so that what it builds is a `Pattern.Node`; a text
that breaks a rule of the notation has none.  A text may also nest too deep (`Pattern.nestLimit`) or
be too large (`Pattern.sizeLimit`), where the depth is exact and the size is an estimate.

The reader says only that a text cannot be read, and not why.  Nothing is proved from what it reads.
-/

namespace SchemaCheck.Pattern

open Text (CharSet)

/-- A part of a pattern, with the depth to which its notation nests.  Nothing may be repeated that
is empty or sets flags. -/
structure Piece where
  node : Node
  depth : Nat
  repeatable : Bool

def Piece.empty : Piece := ⟨.empty, 0, false⟩

/-- The part that parts make up one after another. -/
def Piece.sequence : List Piece → Piece
  | [] => .empty
  | [piece] => piece
  | pieces =>
    ⟨pieces.foldr (fun piece node => .seq piece.node node) .empty,
      pieces.foldl (fun depth piece => max depth piece.depth) 0 + 1, true⟩

/-- The part that is one of several. -/
def Piece.alternatives : List Piece → Piece
  | [] => .empty
  | [piece] => piece
  | piece :: pieces =>
    ⟨pieces.foldl (fun node other => .alt node other.node) piece.node,
      pieces.foldl (fun depth other => max depth other.depth) piece.depth + 1, true⟩

/-- A group that is still open: what comes before it, and the flags outside. -/
structure OpenGroup where
  branches : List Piece
  pieces : List Piece
  flags : Flags

/-- A pattern being read: the text to come, the names of groups so far, the branches and pieces of
the innermost group, the last one first, and the groups around it. -/
structure State where
  text : List Char
  flags : Flags
  names : List String
  branches : List Piece
  pieces : List Piece
  stack : List OpenGroup

namespace State

/-- The innermost group as one part. -/
def content (state : State) : Piece :=
  let last := Piece.sequence state.pieces.reverse
  Piece.alternatives (last :: state.branches).reverse

def push (state : State) (text : List Char) (piece : Piece) : State :=
  { state with text, pieces := piece :: state.pieces }

/-- Repeats the last part.  A question mark behind only says which of several matches is
preferred. -/
def repeatLast (state : State) (least : Nat) (most : Option Nat) (text : List Char) :
    Option State :=
  match state.pieces with
  | [] => none
  | piece :: pieces =>
    if !piece.repeatable then none
    else
      let text := match text with
        | '?' :: rest => rest
        | text => text
      some { state with
        text, pieces := ⟨.repeated least most piece.node, piece.depth + 1, true⟩ :: pieces }

/-- A repetition with counts, from behind the opening brace. -/
def repeatCounted (state : State) (text : List Char) : Option State := do
  let close (least : Nat) (most : Option Nat) : List Char → Option State
    | '\x7d' :: rest => state.repeatLast least most (state.flags.skip rest)
    | _ => none
  let (first, text) := state.flags.decimal (state.flags.skip text)
  let least ← first
  match text with
  | ',' :: rest =>
    match state.flags.skip rest with
    | '\x7d' :: rest => close least none ('\x7d' :: rest)
    | text =>
      let (second, text) := state.flags.decimal text
      let most ← second
      if least ≤ most then close least (some most) text else none
  | text => close least (some least) text

/-- Opens a group whose content has the given flags. -/
def openGroup (state : State) (flags : Flags) (text : List Char) : State :=
  { state with
    text, flags, branches := [], pieces := []
    stack := ⟨state.branches, state.pieces, state.flags⟩ :: state.stack }

def closeGroup (state : State) (text : List Char) : Option State :=
  match state.stack with
  | [] => none
  | outer :: stack =>
    let content := state.content
    some { state with
      text, flags := outer.flags, branches := outer.branches
      pieces := ⟨content.node, content.depth + 1, true⟩ :: outer.pieces
      stack }

/-- Whether a character may stand in the name of a group. -/
def isNameChar (first : Bool) (c : Char) : Bool :=
  let letter := (Text.propertyTable.get "alphabetic").contains c
  let number := ["nd", "nl", "no"].any fun name => (Text.categoryTable.get name).contains c
  c == '_' || letter || (!first && (c == '.' || c == '[' || c == ']' || number))

/-- Opens a group with a name, from behind the opening angle. -/
def openNamed (state : State) (text : List Char) : Option State :=
  let name := text.takeWhile (· != '>')
  let valid := match name with
    | [] => false
    | c :: rest => isNameChar true c && rest.all (isNameChar false)
  match text.dropWhile (· != '>') with
  | _ :: rest =>
    let name := String.ofList name
    if valid && !state.names.contains name then
      some ({ state with names := name :: state.names }.openGroup state.flags rest)
    else none
  | [] => none

/-- What an opening parenthesis begins: a group, or flags for the rest of the group around it. -/
def parenthesis (state : State) (text : List Char) : Option State :=
  match state.flags.skip text with
  | '?' :: '=' :: _ | '?' :: '!' :: _ | '?' :: '<' :: '=' :: _ | '?' :: '<' :: '!' :: _ => none
  | '?' :: 'P' :: '<' :: rest | '?' :: '<' :: rest => state.openNamed rest
  | '?' :: rest => do
    let (flags, closing, behind) ← readFlags state.flags [] rest
    if closing = ':' then some (state.openGroup flags behind)
    else if rest.head? = some ')' then none
    else some ({ state with flags }.push behind .empty)
  | text => some (state.openGroup state.flags text)

/-- The part that a primitive stands for. -/
def pushPrimitive (state : State) (primitive : Primitive) (text : List Char) : Option State := do
  let node ← match primitive with
    | .char c isByte => (state.flags.charSet? c isByte).map .one
    | .set set => some (.one set)
    | .look condition => some (.look condition)
  some (state.push text ⟨node, 0, true⟩)

def dot? (flags : Flags) : Option CharSet :=
  if !flags.unicode then none
  else if flags.dotAll then some anyChar
  else if flags.crlf then some (anyChar.diff (CharSet.ofText "A D"))
  else some (anyChar.diff (CharSet.single 0x0A))

def step (state : State) : List Char → Option State
  | [] => none
  | c :: rest =>
    let flags := state.flags
    match c with
    | '(' => state.parenthesis rest
    | ')' => state.closeGroup rest
    | '|' =>
      let branch := Piece.sequence state.pieces.reverse
      some { state with text := rest, branches := branch :: state.branches, pieces := [] }
    | '[' => do
      let (part, behind) ← flags.bracket? rest
      some (state.push behind ⟨.one part.set, part.depth, true⟩)
    | '?' => state.repeatLast 0 (some 1) rest
    | '*' => state.repeatLast 0 none rest
    | '+' => state.repeatLast 1 none rest
    | '\x7b' => state.repeatCounted rest
    | '.' => do state.pushPrimitive (.set (← dot? flags)) rest
    | '^' =>
      let look :=
        if !flags.multiline then .textStart else if flags.crlf then .lineStartCrlf else .lineStart
      state.pushPrimitive (.look look) rest
    | '$' =>
      let look :=
        if !flags.multiline then .textEnd else if flags.crlf then .lineEndCrlf else .lineEnd
      state.pushPrimitive (.look look) rest
    | '\\' => do
      let (primitive, behind) ← flags.escape? rest
      state.pushPrimitive primitive behind
    | c => state.pushPrimitive (.char c false) rest

def run : (fuel : Nat) → State → Option State
  | 0, _ => none
  | fuel + 1, state =>
    match state.flags.skip state.text with
    | [] => some state
    | text =>
      match state.step text with
      | some next => run fuel next
      | none => none

end State

/-- The number of levels that a pattern may nest. -/
def nestLimit : Nat := 250

/-- The pattern that a text spells.  It is refused when it breaks a rule, nests too deep or grows
too large. -/
def read? (source : String) : Option Node := do
  let text := source.toList
  let state ← State.run (text.length + 1) ⟨text, {}, [], [], [], []⟩
  let content := state.content
  if state.stack.isEmpty && content.depth ≤ nestLimit && content.node.bytes ≤ sizeLimit then
    some content.node
  else none

end SchemaCheck.Pattern
