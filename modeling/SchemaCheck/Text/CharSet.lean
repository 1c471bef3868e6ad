/-!
# Sets of characters

A `CharSet` is a list of ranges of code points.  The operations keep the ranges in increasing order
and apart, starting from the tables, which are written that way: `CharSet.ofText` reads ranges such
as `41-5A` and single code points such as `5F`, in hexadecimal and separated by blanks.
-/

namespace SchemaCheck.Text

/-- A set of code points, as ranges whose ends belong to them. -/
structure CharSet where
  ranges : List (Nat × Nat)
  deriving DecidableEq

namespace CharSet

/-- The last code point. -/
def lastPoint : Nat := 0x10FFFF

def holds (set : CharSet) (point : Nat) : Bool :=
  set.ranges.any fun (first, last) => first ≤ point && point ≤ last

def contains (set : CharSet) (c : Char) : Bool := set.holds c.toNat

def empty : CharSet := ⟨[]⟩

/-- All code points from `first` to `last`. -/
def range (first last : Nat) : CharSet := ⟨[(first, last)]⟩

def single (point : Nat) : CharSet := range point point

/-- Joins neighbouring ranges that touch or overlap. -/
def join : List (Nat × Nat) → List (Nat × Nat)
  | [] => []
  | range :: rest =>
    match join rest with
    | [] => [range]
    | next :: others =>
      if next.1 ≤ range.2 + 1 then (range.1, max range.2 next.2) :: others
      else range :: next :: others

/-- The set of the given ranges, which may come in any order and overlap. -/
def ofRanges (ranges : List (Nat × Nat)) : CharSet :=
  ⟨join (ranges.mergeSort fun a b => a.1 < b.1 || (a.1 == b.1 && b.2 ≤ a.2))⟩

def union (a b : CharSet) : CharSet := ofRanges (a.ranges ++ b.ranges)

def unions (sets : List CharSet) : CharSet := ofRanges (sets.flatMap ranges)

/-- The gaps between increasing ranges, from `start` on. -/
def gaps (start : Nat) : List (Nat × Nat) → List (Nat × Nat)
  | [] => if start ≤ lastPoint then [(start, lastPoint)] else []
  | (first, last) :: rest =>
    if start < first then (start, first - 1) :: gaps (last + 1) rest else gaps (last + 1) rest

def complement (set : CharSet) : CharSet := ⟨gaps 0 set.ranges⟩

def inter (a b : CharSet) : CharSet := (a.complement.union b.complement).complement

/-- Everything in the first set but not in the second. -/
def diff (a b : CharSet) : CharSet := a.inter b.complement

def symmDiff (a b : CharSet) : CharSet := (a.union b).diff (a.inter b)

def hexDigit? (c : Char) : Option Nat :=
  if c.isDigit then some (c.toNat - '0'.toNat)
  else if 'a' ≤ c ∧ c ≤ 'f' then some (c.toNat - 'a'.toNat + 10)
  else if 'A' ≤ c ∧ c ≤ 'F' then some (c.toNat - 'A'.toNat + 10)
  else none

def hexValue (digits : List Char) : Nat :=
  digits.foldl (fun n c => 16 * n + (hexDigit? c).getD 0) 0

/-- Reads one range or code point. -/
def rangeOfWord (word : List Char) : Nat × Nat :=
  let first := hexValue (word.takeWhile (· != '-'))
  match word.dropWhile (· != '-') with
  | [] => (first, first)
  | _ :: last => (first, hexValue last)

/-- The words of a table, which spaces and line breaks separate. -/
def words (table : List Char) : List (List Char) :=
  (table.map fun c => if c == '\n' then ' ' else c).splitOn ' ' |>.filter (· ≠ [])

/-- Reads a table of ranges in increasing order. -/
def ofText (table : String) : CharSet := ⟨(words table.toList).map rangeOfWord⟩

end CharSet

end SchemaCheck.Text
