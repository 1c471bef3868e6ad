import SchemaCheck.Pattern.Flags
import SchemaCheck.Pattern.Node
import SchemaCheck.Pattern.Property
import SchemaCheck.Text.CaseFolding

/-!
# Escapes of patterns

What a backslash introduces: a character, a set of characters or a condition on a place.  The flags
decide which characters a set has, and whether their case counts.
-/

namespace SchemaCheck.Pattern

open Text (CharSet)

/-! ### Sets -/

/-- The letters `A` to `Z` and `a` to `z` of either case, for the letters of a set. -/
def closeUnderAsciiCase (set : CharSet) : CharSet :=
  let letters := (List.range 26).flatMap fun i =>
    if set.holds (0x41 + i) || set.holds (0x61 + i) then
      [(0x41 + i, 0x41 + i), (0x61 + i, 0x61 + i)]
    else []
  CharSet.ofRanges (set.ranges ++ letters)

/-- The set with the case variants of its members, where case does not count. -/
def Flags.fold (flags : Flags) (set : CharSet) : CharSet :=
  if !flags.caseless then set
  else if flags.unicode then set.closeUnderCase
  else closeUnderAsciiCase set

/-- The set, or where `negated` its complement.  Without the flag `u` characters are single bytes,
and a set may not go beyond the ones that are characters by themselves. -/
def Flags.negate? (flags : Flags) (negated : Bool) (set : CharSet) : Option CharSet :=
  if flags.unicode then some (if negated then anyChar.diff set else set)
  else if !negated && set.ranges.all fun range => range.2 < 0x80 then some set
  else none

/-- A set of which case variants are taken before the complement. -/
def Flags.close? (flags : Flags) (negated : Bool) (set : CharSet) : Option CharSet :=
  flags.negate? negated (flags.fold set)

/-- What one construct without parts stands for. -/
inductive Primitive
  | char (c : Char) (isByte : Bool)
  | set (set : CharSet)
  | look (condition : Look)

/-- The set of a letter such as `d`, or of its complement where the letter is a capital one. -/
def Flags.letterSet? (flags : Flags) (letter : Char) : Option CharSet :=
  let set := match letter.toLower with
    | 'd' => if flags.unicode then digits else asciiDigits
    | 's' => if flags.unicode then spaces else asciiSpaces
    | _ => if flags.unicode then wordChars else asciiWordChars
  flags.negate? letter.isUpper set

/-- The set of `\p` or `\P`, from behind the letter. -/
def Flags.propertySet? (flags : Flags) (negated : Bool) (text : List Char) :
    Option (CharSet × List Char) := do
  let text := flags.skip text
  let (set, negated, behind) ← match text with
    | [] => none
    | '\x7b' :: rest => do
      let (name, behind) ← flags.untilBrace false rest
      let splitAt (i width : Nat) : Option CharSet :=
        valuedSet? (String.ofList (name.take i)) (String.ofList (name.drop (i + width)))
      let unequal := (List.range name.length).find? fun i => (name.drop i).take 2 == ['!', '=']
      match unequal, name.findIdx? (· == ':'), name.findIdx? (· == '=') with
      | some i, _, _ => do some (← splitAt i 2, !negated, behind)
      | none, some i, _ => do some (← splitAt i 1, negated, behind)
      | none, none, some i => do some (← splitAt i 1, negated, behind)
      | none, none, none => do some (← namedSet? (String.ofList name), negated, behind)
    | c :: rest =>
      if c = '\\' then none
      else do some (← namedSet? c.toString, negated, flags.skip rest)
  if flags.unicode then some (← flags.close? negated set, behind) else none

/-! ### Escapes -/

/-- Characters with a meaning of their own. -/
def isMeta (c : Char) : Bool := "\\.+*?()|[]\x7b\x7d^$#&-~".toList.contains c

/-- Characters that stand for themselves behind a backslash. -/
def isEscapable (c : Char) : Bool :=
  isMeta c || (c.toNat < 0x80 && !c.isAlphanum && c != '<' && c != '>')

def control? (letter : Char) : Option Char :=
  match letter with
  | 'a' => some '\x07'
  | 'f' => some '\x0c'
  | 't' => some '\t'
  | 'n' => some '\n'
  | 'r' => some '\r'
  | 'v' => some '\x0b'
  | _ => none

/-- The characters that make up words. -/
def Flags.word (flags : Flags) : CharSet := if flags.unicode then wordChars else asciiWordChars

/-- The condition named in braces behind `\b`, if that is what the braces hold.  Braces that do not
begin with a letter or a hyphen are a repetition. -/
def Flags.boundary? (flags : Flags) (text : List Char) : Option (Look × List Char) :=
  let plain := some (Look.wordBoundary flags.word, text)
  match text with
  | '\x7b' :: rest =>
    match flags.skip rest with
    | [] => none
    | c :: _ =>
      if !(c.isAlpha || c = '-') then plain
      else do
        let (name, behind) ← flags.untilBrace false rest
        match String.ofList name with
        | "start" => some (.wordStart flags.word, behind)
        | "end" => some (.wordEnd flags.word, behind)
        | "start-half" => some (.wordStartHalf flags.word, behind)
        | "end-half" => some (.wordEndHalf flags.word, behind)
        | _ => none
  | _ => plain

/-- A character by its number: two, four or eight digits by the letter, or any number of them in
braces. -/
def Flags.numbered? (flags : Flags) (letter : Char) (text : List Char) :
    Option (Primitive × List Char) := do
  match flags.skip text with
  | [] => none
  | '\x7b' :: rest =>
    let (digits, behind) ← flags.untilBrace false rest
    some (.char (← charOfHex? digits) false, behind)
  | text =>
    let count := match letter with
      | 'x' => 2
      | 'u' => 4
      | _ => 8
    let (digits, behind) ← flags.hexDigits count text
    some (.char (← charOfHex? digits) (letter = 'x'), behind)

/-- What stands behind a backslash. -/
def Flags.escape? (flags : Flags) : List Char → Option (Primitive × List Char)
  | [] => none
  | c :: rest =>
    if c = 'x' ∨ c = 'u' ∨ c = 'U' then flags.numbered? c rest
    else if c = 'p' ∨ c = 'P' then
      (flags.propertySet? (c = 'P') rest).map fun (set, behind) => (.set set, behind)
    else if ['d', 's', 'w', 'D', 'S', 'W'].contains c then
      (flags.letterSet? c).map fun set => (.set set, rest)
    else if isEscapable c then some (.char c false, rest)
    else match control? c with
      | some control => some (.char control false, rest)
      | none =>
        match c with
        | 'A' => some (.look .textStart, rest)
        | 'z' => some (.look .textEnd, rest)
        | 'b' => (flags.boundary? rest).map fun (look, behind) => (.look look, behind)
        | 'B' => some (.look (.noWordBoundary flags.word), rest)
        | '<' => some (.look (.wordStart flags.word), rest)
        | '>' => some (.look (.wordEnd flags.word), rest)
        | _ => none

/-- The set of a character where case may not count. -/
def Flags.charSet? (flags : Flags) (c : Char) (isByte : Bool) : Option CharSet :=
  if !flags.unicode && isByte && 0x80 ≤ c.toNat then none
  else if !flags.unicode && 0x80 ≤ c.toNat then some (CharSet.single c.toNat)
  else some (flags.fold (CharSet.single c.toNat))

end SchemaCheck.Pattern
