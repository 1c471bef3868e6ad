import SchemaCheck.Violation

/-!
# Rules for numbers

`Rules` holds the limits on a number: a least and a greatest value, a sign, and ranges of which it
has to be in one.  Each is optional, so that a limit of zero is not the absence of a limit.  The
rules of an integer field are 64-bit integers and compared with the integer of 128 bits that stands
for the number of the document; those of a float field are binary numbers and compared with the
binary number nearest to it.
-/

namespace SchemaCheck

/-- The sign that a number should have.  Zero has either. -/
inductive Sign
  | positive
  | negative
  deriving DecidableEq

namespace Sign

def name : Sign → String
  | .positive => "positive"
  | .negative => "negative"

def ofName? (word : String) : Option Sign :=
  [positive, negative].find? fun sign => sign.name == word

end Sign

/-- The numbers between two ends, which belong to them. -/
structure Range (α : Type) where
  start : α
  stop : α
  deriving DecidableEq

/-- Limits on a number. -/
structure Rules (α : Type) where
  min : Option α := none
  max : Option α := none
  sign : Option Sign := none
  ranges : Option (List (Range α)) := none
  deriving DecidableEq

/-- Numbers that limits can be given in: how the number of a document compares with one, and how it
is read from a schema document and written to one. -/
class Limit (α : Type) where
  zero : α
  order? : Json.Number → α → Option Ordering
  same : α → α → Bool
  toBound : α → Bound
  toJson : α → Json
  ofJson? : Json → Option α
  expected : String

/-- The integer that a value is, if it fits in 64 bits. -/
def Int64.ofJson? (value : Json) : Option Int64 := do
  let n ← (← value.number?).wide?
  if Int64.minValue.toInt ≤ n ∧ n ≤ Int64.maxValue.toInt then some (Int64.ofInt n) else none

instance : Limit Int64 where
  zero := 0
  order? x limit := x.wide?.map fun n => compare n limit.toInt
  same m n := m == n
  toBound limit := .integer limit.toInt
  toJson limit := .number (.whole limit.toInt)
  ofJson? := Int64.ofJson?
  expected := "an integer"

instance : Limit Binary64 where
  zero := .finite (.zero false)
  order? x limit := x.toBinary64.order? limit
  same x y := x == y
  toBound := .float
  toJson := Binary64.toJson
  ofJson? value := value.number?.map Json.Number.toBinary64
  expected := "a number"

def Range.holds {α : Type} [Limit α] (range : Range α) (x : Json.Number) : Bool :=
  let fromStart := Limit.order? x range.start
  let toStop := Limit.order? x range.stop
  (fromStart == some .gt || fromStart == some .eq) && (toStop == some .lt || toStop == some .eq)

namespace Rules

variable {α : Type} [Limit α]

def addRange (rules : Rules α) (start stop : α) : Rules α :=
  { rules with ranges := some (rules.ranges.getD [] ++ [⟨start, stop⟩]) }

/-- The limits that a number breaks, in the order sign, least value, greatest value, ranges. -/
def reasons (rules : Rules α) (x : Json.Number) : List Reason :=
  let sign := match rules.sign, Limit.order? x (Limit.zero : α) with
    | some .positive, some .lt => [.notPositive]
    | some .negative, some .gt => [.notNegative]
    | _, _ => []
  let min := match rules.min with
    | some min => if Limit.order? x min = some .lt then [.belowMinimum (Limit.toBound min)] else []
    | none => []
  let max := match rules.max with
    | some max => if Limit.order? x max = some .gt then [.aboveMaximum (Limit.toBound max)] else []
    | none => []
  let ranges := match rules.ranges with
    | some ranges =>
      if ranges.any fun range => range.holds x then []
      else [.outOfRanges (ranges.map fun range =>
        (Limit.toBound range.start, Limit.toBound range.stop))]
    | none => []
  sign ++ min ++ max ++ ranges

/-- Whether two rules are equal as limits. -/
def same (r s : Rules α) : Bool :=
  let sameLimit : Option α → Option α → Bool
    | some x, some y => Limit.same x y
    | none, none => true
    | _, _ => false
  let sameRange (a b : Range α) : Bool :=
    Limit.same a.start b.start && Limit.same a.stop b.stop
  let sameRanges : Option (List (Range α)) → Option (List (Range α)) → Bool
    | some as, some bs => as.length == bs.length && (as.zip bs).all fun (a, b) => sameRange a b
    | none, none => true
    | _, _ => false
  sameLimit r.min s.min && sameLimit r.max s.max && r.sign == s.sign &&
    sameRanges r.ranges s.ranges

end Rules

end SchemaCheck
