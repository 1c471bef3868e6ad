import SchemaCheck.Text.CharSet

/-!
# Patterns as trees, and their search

A `Pattern.Node` describes texts.  To search a text, the tree is first laid over it
(`Pattern.Node.over`): every set of characters becomes the set of the places at which one of them
stands, and every assertion the set of the places at which it holds.  A set of places is a number
whose bits are the places, so that one step of the search handles all of them at once:
`Pattern.Matcher.ends` takes the places where a match may begin to the places where it may end, and
never looks at a place twice in the same step.

A pattern may be too large to be used.  What counts is the size that it is compiled to.  Here
nothing is compiled, and `Pattern.Node.bytes` is a formula of its own for that size: a pattern whose
size is close to `Pattern.sizeLimit` may be taken where a compiler refuses it, or the other way
round.  Nothing is proved from the formula.
-/

namespace SchemaCheck.Pattern

open Text (CharSet)

/-- A condition on a place of a text. -/
inductive Look
  | textStart
  | textEnd
  | lineStart
  | lineEnd
  | lineStartCrlf
  | lineEndCrlf
  | wordBoundary (word : CharSet)
  | noWordBoundary (word : CharSet)
  | wordStart (word : CharSet)
  | wordEnd (word : CharSet)
  | wordStartHalf (word : CharSet)
  | wordEndHalf (word : CharSet)

/-- Whether a condition holds between two neighbouring characters; at an end of the text there is
none. -/
def Look.holds (look : Look) (before after : Option Char) : Bool :=
  let isWord (word : CharSet) (c : Option Char) : Bool := c.any word.contains
  match look with
  | .textStart => before.isNone
  | .textEnd => after.isNone
  | .lineStart => before.isNone || before == some '\n'
  | .lineEnd => after.isNone || after == some '\n'
  | .lineStartCrlf =>
    before.isNone || before == some '\n' || (before == some '\r' && after != some '\n')
  | .lineEndCrlf =>
    after.isNone || after == some '\r' || (after == some '\n' && before != some '\r')
  | .wordBoundary word => isWord word before != isWord word after
  | .noWordBoundary word => isWord word before == isWord word after
  | .wordStart word => !isWord word before && isWord word after
  | .wordEnd word => isWord word before && !isWord word after
  | .wordStartHalf word => !isWord word before
  | .wordEndHalf word => !isWord word after

/-- A pattern: the empty text, one character of a set, a condition, one part after another, one of
two parts, or a part repeated between `least` and `most` times. -/
inductive Node
  | empty
  | one (set : CharSet)
  | look (condition : Look)
  | seq (first second : Node)
  | alt (first second : Node)
  | repeated (least : Nat) (most : Option Nat) (part : Node)

/-- A pattern laid over a text: its sets and conditions have become sets of places. -/
inductive Matcher
  | empty
  | one (places : Nat)
  | look (places : Nat)
  | seq (first second : Matcher)
  | alt (first second : Matcher)
  | repeated (least : Nat) (most : Option Nat) (part : Matcher)

def bits : List Bool → Nat
  | [] => 0
  | b :: bs => b.toNat + 2 * bits bs

/-- The places of a text before which and behind which the given characters stand. -/
def neighbours (text : List Char) : List (Option Char × Option Char) :=
  (none :: text.map some).zip (text.map some ++ [none])

/-- Lays a pattern over a text. -/
def Node.over (text : List Char) : Node → Matcher
  | .empty => .empty
  | .one set => .one (bits (text.map set.contains))
  | .look condition =>
    .look (bits ((neighbours text).map fun (before, after) => condition.holds before after))
  | .seq first second => .seq (first.over text) (second.over text)
  | .alt first second => .alt (first.over text) (second.over text)
  | .repeated least most part => .repeated least most (part.over text)

/-- Takes a step `count` times, or until there is no place left. -/
def iterate (step : Nat → Nat) : (count places : Nat) → Nat
  | 0, places => places
  | count + 1, places => if places = 0 then 0 else iterate step count (step places)

/-- The places reached by up to `count` steps.  A step that adds nothing is the last one. -/
def reach (step : Nat → Nat) : (count places : Nat) → Nat
  | 0, places => places
  | count + 1, places =>
    let more := places ||| step places
    if more = places then places else reach step count more

/-- The places where a match may end that begins at one of the given places, in a text with `size`
places. -/
def Matcher.ends (size : Nat) : Matcher → Nat → Nat
  | .empty, places => places
  | .one here, places => (places &&& here) <<< 1
  | .look here, places => places &&& here
  | .seq first second, places => second.ends size (first.ends size places)
  | .alt first second, places => first.ends size places ||| second.ends size places
  | .repeated least most part, places =>
    let start := iterate (part.ends size) least places
    match most with
    | some most => reach (part.ends size) (most - least) start
    | none => reach (part.ends size) size start

/-- Whether some part of the text is described by the pattern. -/
def Node.occursIn (node : Node) (text : List Char) : Bool :=
  let size := text.length + 1
  (node.over text).ends size (Nat.pow 2 size - 1) != 0

/-! ### The size of a pattern -/

/-- The bytes that one state takes. -/
def stateBytes : Nat := 32

def encodedLength (point : Nat) : Nat :=
  if point < 0x80 then 1 else if point < 0x800 then 2 else if point < 0x10000 then 3 else 4

/-- About how many bytes a pattern takes once its repetitions are written out.  This is an estimate:
a character costs a state for each byte of its encoding, and a set costs states by its ranges. -/
def Node.bytes : Node → Nat
  | .empty => stateBytes
  | .one set =>
    match set.ranges with
    | [] => stateBytes
    | [(first, last)] =>
      if first = last then stateBytes * encodedLength first
      else stateBytes * (1 + encodedLength first * encodedLength last)
    | ranges =>
      if ranges.all fun range => range.2 < 0x80 then 2 * stateBytes + 8 * ranges.length
      else 3 * stateBytes * ranges.length
  | .look _ => stateBytes
  | .seq first second => first.bytes + second.bytes
  | .alt first second => first.bytes + second.bytes + stateBytes
  | .repeated least most part =>
    match most with
    | some most => max least most * part.bytes + (most - least + 1) * stateBytes
    | none => max least 1 * part.bytes + stateBytes

/-- The largest size of a pattern, as it is estimated. -/
def sizeLimit : Nat := 10 * Nat.pow 2 20

end SchemaCheck.Pattern
