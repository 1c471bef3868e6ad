import SchemaCheck.Pattern.Escape

/-!
# Sets in brackets

A set in brackets is a list of characters, ranges and other sets; it may be negated, and two lists
may be combined by an operator.  `Pattern.Flags.bracket?` reads one, and the brackets within it.
-/

namespace SchemaCheck.Pattern

open Text (CharSet)

/-- A part of a set in brackets, with the depth to which its notation nests. -/
structure SetPart where
  set : CharSet
  depth : Nat

/-- The part that several parts make up together. -/
def SetPart.ofParts : List SetPart → SetPart
  | [part] => part
  | parts =>
    ⟨CharSet.unions (parts.map set), if parts.isEmpty then 0 else
      parts.foldl (fun depth part => max depth part.depth) 0 + 1⟩

/-- How two sets are combined. -/
inductive SetOperator
  | intersection
  | difference
  | symmetricDifference

def SetOperator.apply : SetOperator → CharSet → CharSet → CharSet
  | .intersection => CharSet.inter
  | .difference => CharSet.diff
  | .symmetricDifference => CharSet.symmDiff

/-- A bracket that is still open: the parts before it in the bracket around it, whether it is
negated, and the left side of an operator in it. -/
structure OpenBracket where
  before : List SetPart
  negated : Bool
  left : Option (SetOperator × SetPart)

/-- Brackets being read, the innermost first, and the parts since the last bracket or operator, the
last one first. -/
structure BracketState where
  text : List Char
  parts : List SetPart
  stack : List OpenBracket

namespace Flags

/-- Reads an opening bracket.  Hyphens in front, and a closing bracket in front, stand for
themselves. -/
def openBracket? (flags : Flags) (text : List Char) (before : List SetPart)
    (stack : List OpenBracket) : Option BracketState :=
  let hyphen : SetPart := ⟨CharSet.single '-'.toNat, 0⟩
  let rec hyphens : (fuel : Nat) → List SetPart → List Char → List SetPart × List Char
    | fuel + 1, parts, '-' :: rest => hyphens fuel (hyphen :: parts) (flags.skip rest)
    | _, parts, text => (parts, text)
  let text := flags.skip text
  let (negated, text) := match text with
    | '^' :: rest => (true, flags.skip rest)
    | _ => (false, text)
  let (parts, text) := hyphens text.length [] text
  let closing : SetPart := ⟨CharSet.single ']'.toNat, 0⟩
  let (parts, text) := match parts, text with
    | [], ']' :: rest => ([closing], flags.skip rest)
    | parts, text => (parts, text)
  if text.isEmpty then none else some ⟨text, parts, ⟨before, negated, none⟩ :: stack⟩

/-- The innermost bracket's content so far as one part: its parts, or an operator over them. -/
def combined (flags : Flags) (left : Option (SetOperator × SetPart)) (parts : List SetPart) :
    SetPart :=
  let right := SetPart.ofParts parts
  match left with
  | none => right
  | some (operator, left) =>
    ⟨operator.apply (flags.fold left.set) (flags.fold right.set), max left.depth right.depth + 1⟩

/-- A set such as `[:alpha:]`, from behind its opening bracket, and whether it is negated. -/
def bracketName? : List Char → Option (CharSet × Bool × List Char)
  | ':' :: rest =>
    let (negated, rest) := match rest with
      | '^' :: rest => (true, rest)
      | rest => (false, rest)
    match rest.dropWhile (· != ':') with
    | ':' :: ']' :: behind =>
      (bracketSet? (String.ofList (rest.takeWhile (· != ':')))).map (·, negated, behind)
    | _ => none
  | _ => none

/-- The next character that counts behind the first one.  A comment ends here before its second
word. -/
def peek? (flags : Flags) (text : List Char) : Option Char :=
  let rest := text.drop 1
  if !flags.extended then rest.head?
  else
    let found := match rest.dropWhile Text.isBlank with
      | '#' :: comment => comment.dropWhile Text.isBlank
      | found => found
    if found.isEmpty then rest.head? else found.head?

/-- One end of a range, or a set in the place of it. -/
def bracketItem? (flags : Flags) : List Char → Option (Primitive × List Char)
  | [] => none
  | '\\' :: rest => flags.escape? rest
  | c :: rest => some (.char c false, rest)

/-- The code point of a character in brackets.  Where characters are bytes it is one. -/
def bracketChar? (flags : Flags) : Primitive → Option Nat
  | .char c _ => if flags.unicode || c.toNat < 0x80 then some c.toNat else none
  | _ => none

/-- A character, a set or a range in brackets. -/
def bracketRange? (flags : Flags) (text : List Char) : Option (SetPart × List Char) := do
  let (first, text) ← flags.bracketItem? text
  let text := flags.skip text
  let isRange := text.head? = some '-' ∧ flags.peek? text ≠ some ']' ∧ flags.peek? text ≠ some '-'
  if isRange then
    let (last, text) ← flags.bracketItem? (flags.skip (text.drop 1))
    let low ← flags.bracketChar? first
    let high ← flags.bracketChar? last
    if low ≤ high then some (⟨CharSet.range low high, 0⟩, text) else none
  else
    match first with
    | .set set => some (⟨set, 0⟩, text)
    | first => do some (⟨CharSet.single (← flags.bracketChar? first), 0⟩, text)

/-- Reads the next construct in brackets.  The result is a state to go on from, or the whole set and
the text behind it. -/
def bracketStep (flags : Flags) (state : BracketState) :
    Option (BracketState ⊕ SetPart × List Char) := do
  let text := flags.skip state.text
  let operate (operator : SetOperator) (rest : List Char) :
      Option (BracketState ⊕ SetPart × List Char) :=
    match state.stack with
    | [] => none
    | bracket :: stack =>
      let left := flags.combined bracket.left state.parts
      some (.inl ⟨rest, [], { bracket with left := some (operator, left) } :: stack⟩)
  match text with
  | '[' :: rest =>
    match bracketName? rest with
    | some (set, negated, behind) =>
      let set ← flags.close? negated set
      some (.inl { state with text := behind, parts := ⟨set, 0⟩ :: state.parts })
    | none => (flags.openBracket? rest state.parts state.stack).map .inl
  | ']' :: rest =>
    match state.stack with
    | [] => none
    | bracket :: stack =>
      let content := flags.combined bracket.left state.parts
      let set ← flags.close? bracket.negated content.set
      let part : SetPart := ⟨set, content.depth + 1⟩
      match stack with
      | [] => some (.inr (part, rest))
      | _ => some (.inl ⟨rest, part :: bracket.before, stack⟩)
  | '&' :: '&' :: rest => operate .intersection rest
  | '-' :: '-' :: rest => operate .difference rest
  | '~' :: '~' :: rest => operate .symmetricDifference rest
  | text =>
    let (part, rest) ← flags.bracketRange? text
    some (.inl { state with text := rest, parts := part :: state.parts })

def readBracket (flags : Flags) : (fuel : Nat) → BracketState → Option (SetPart × List Char)
  | 0, _ => none
  | fuel + 1, state =>
    match flags.bracketStep state with
    | none => none
    | some (.inr result) => some result
    | some (.inl next) => flags.readBracket fuel next

/-- A set in brackets, from behind the opening one. -/
def bracket? (flags : Flags) (text : List Char) : Option (SetPart × List Char) := do
  let start ← flags.openBracket? text [] []
  flags.readBracket (text.length + 1) start

end Flags

end SchemaCheck.Pattern
