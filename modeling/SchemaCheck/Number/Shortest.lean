import SchemaCheck.Number.Binary64

/-!
# The shortest decimal of a binary number

A decimal *reads back* as a finite number when it lies among the reals that round to that number:
at most half the way to either neighbour, the halfway points included when the significand is even.
`Decimal.shortest` takes the coarsest decimal grid that has such a point and, of its two points
around the number, the nearer one.  Everything is counted in quarters of a grain, so that halfway
points are whole.
-/

namespace SchemaCheck

/-- The positive number `0.d₁d₂… * 10 ^ point`, for the digits `d₁d₂…`; zero has the digit 0. -/
structure Decimal where
  digits : List Char
  point : Int
  deriving DecidableEq

/-- Which of two equally near decimals is taken. -/
inductive TieBreak
  | toEven
  | up

namespace Decimal

/-- The decimal `coefficient * 10 ^ exponent`, without zeros at the end of its digits. -/
def ofCoefficient (coefficient : Nat) (exponent : Int) : Decimal :=
  let digits := Nat.toDigits 10 coefficient
  ⟨(digits.reverse.dropWhile (· == '0')).reverse, digits.length + exponent⟩

/-- The reals that read back as one number, in quarters of a grain. -/
structure Cell where
  least : Nat
  value : Nat
  greatest : Nat
  closed : Bool

/-- The cell of a finite number.  Below a power of two the neighbour is half as far. -/
def Cell.of (x : Binary64.Finite) : Cell :=
  let unit := Nat.pow 2 x.shift
  let value := 4 * x.magnitude
  let below := if x.significand = Nat.pow 2 52 ∧ x.shift ≠ 0 then unit else 2 * unit
  ⟨value - below, value, value + 2 * unit, x.significand % 2 == 0⟩

/-- Whether the decimal that is `points` steps of `step` from zero lies in the cell, the cell being
stretched by `stretch`. -/
def Cell.holds (cell : Cell) (stretch step points : Nat) : Bool :=
  let least := cell.least * stretch
  let greatest := cell.greatest * stretch
  let there := points * step
  if cell.closed then least ≤ there && there ≤ greatest
  else least < there && there < greatest

/-- The point of the cell on the grid of multiples of `10 ^ exponent` that is nearest to its
number. -/
def Cell.nearest? (tie : TieBreak) (cell : Cell) (exponent : Int) : Option Nat :=
  let stretch := Nat.pow 10 (-exponent).toNat
  let step := Nat.pow 10 exponent.toNat * (4 * Binary64.grainsPerUnit)
  let lower := cell.value * stretch / step
  let upper := lower + 1
  if cell.holds stretch step lower then
    if cell.holds stretch step upper then
      let fromLower := cell.value * stretch - lower * step
      let toUpper := upper * step - cell.value * stretch
      if fromLower < toUpper then some lower
      else if toUpper < fromLower then some upper
      else match tie with
        | .up => some upper
        | .toEven => some (if lower % 2 = 0 then lower else upper)
    else some lower
  else if cell.holds stretch step upper then some upper
  else none

/-- The exponent `k` with `10 ^ (k - 1) ≤ x < 10 ^ k`, for a magnitude `x` in grains that is not
zero.  No number of the format is as small as `10 ^ -400`. -/
def pointOf (magnitude : Nat) : Int :=
  (Nat.toDigits 10 (magnitude * Nat.pow 10 400 / Binary64.grainsPerUnit)).length - 400

/-- The shortest decimal that reads back as the magnitude of `x`.  Seventeen digits always do. -/
def shortest (tie : TieBreak) (x : Binary64.Finite) : Decimal :=
  if x.isZero then ⟨['0'], 1⟩
  else
    let cell := Cell.of x
    let point := pointOf x.magnitude
    let onGrid (count : Nat) : Option Decimal :=
      let exponent := point - (count + 1 : Nat)
      (cell.nearest? tie exponent).map (ofCoefficient · exponent)
    (List.range 17).findSome? onGrid |>.getD ⟨['0'], 1⟩

end Decimal

/-- How decimals are spelled: which are written without an exponent, by the place of their point,
and how a whole number ends when it is. -/
structure DecimalStyle where
  positional : Int → Bool
  wholeEnding : String

namespace DecimalStyle

/-- Digits with a point among, before or after them. -/
def spellPositional (style : DecimalStyle) (d : Decimal) : String :=
  let count : Int := d.digits.length
  if d.point ≤ 0 then
    "0." ++ String.ofList (List.replicate (-d.point).toNat '0' ++ d.digits)
  else if d.point < count then
    String.ofList (d.digits.take d.point.toNat) ++ "." ++
      String.ofList (d.digits.drop d.point.toNat)
  else
    String.ofList (d.digits ++ List.replicate (d.point - count).toNat '0') ++ style.wholeEnding

/-- One digit before the point and a signed exponent. -/
def spellScientific (d : Decimal) : String :=
  let exponent := d.point - 1
  let fraction := if d.digits.length ≤ 1 then "" else "." ++ String.ofList (d.digits.drop 1)
  String.ofList (d.digits.take 1) ++ fraction ++
    (if exponent < 0 then "e-" else "e+") ++ Nat.repr exponent.natAbs

def spell (style : DecimalStyle) (d : Decimal) : String :=
  if style.positional d.point then style.spellPositional d else spellScientific d

/-- Digits alone: never an exponent, and no point after a whole number. -/
def plain : DecimalStyle := ⟨fun _ => true, ""⟩

end DecimalStyle

/-- The shortest text of a finite number. -/
def Binary64.Finite.spell (style : DecimalStyle) (tie : TieBreak) (x : Binary64.Finite) : String :=
  (if x.negative then "-" else "") ++ style.spell (Decimal.shortest tie x)

end SchemaCheck
