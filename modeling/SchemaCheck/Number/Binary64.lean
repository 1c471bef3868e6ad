/-!
# Binary floating-point numbers of 64 bits

Every finite number of the format is a whole multiple of the least positive one, `2 ^ -1074`, here
called a *grain*.  Counting grains turns the order of the numbers, their fractions and their
roundings into integer arithmetic:

* `Binary64.Finite`: a finite number, in the one form the format stores it in;
* `Binary64.Finite.grains`: its exact value, in grains;
* `Binary64.ofRatio`: the number nearest to a ratio of grains, a tie going to the even significand;
* `Binary64.order?`: the order of the numbers, in which both zeros are equal and a NaN has no place.
-/

namespace SchemaCheck

/-- The quotient of `num` and `den` to the nearest whole number, a half going to the even one. -/
def divRound (num den : Nat) : Nat :=
  let quotient := num / den
  let twice := 2 * (num % den)
  if twice < den then quotient
  else if den < twice then quotient + 1
  else quotient + quotient % 2

theorem div_le_divRound (num den : Nat) : num / den ≤ divRound num den := by
  unfold divRound
  grind

theorem divRound_le (num den : Nat) : divRound num den ≤ num / den + 1 := by
  unfold divRound
  grind

/-- A quotient without remainder is not moved. -/
theorem divRound_mul (n : Nat) {den : Nat} (h : 0 < den) : divRound (n * den) den = n := by
  simp [divRound, h]

namespace Binary64

/-- A finite number: its magnitude is `significand * 2 ^ shift` grains.  The significand has all its
53 bits, except next to zero, where the shift is the least. -/
structure Finite where
  negative : Bool
  significand : Nat
  shift : Nat
  significand_lt : significand < Nat.pow 2 53
  shift_le : shift ≤ 2045
  normal : Nat.pow 2 52 ≤ significand ∨ shift = 0
  deriving DecidableEq

/-- The number of grains in one. -/
def grainsPerUnit : Nat := Nat.pow 2 1074

theorem grainsPerUnit_pos : 0 < grainsPerUnit := by
  unfold grainsPerUnit
  generalize 1074 = n
  exact Nat.two_pow_pos n

namespace Finite

/-- Zero, with either sign. -/
def zero (negative : Bool) : Finite :=
  ⟨negative, 0, 0, by decide, by decide, .inr rfl⟩

/-- The distance from zero, in grains. -/
def magnitude (x : Finite) : Nat := x.significand * Nat.pow 2 x.shift

/-- The exact value, in grains. -/
def grains (x : Finite) : Int := if x.negative then -x.magnitude else x.magnitude

def isZero (x : Finite) : Bool := x.significand == 0

def neg (x : Finite) : Finite := { x with negative := !x.negative }

/-- The integer that the number is, if it has no fractional part. -/
def whole? (x : Finite) : Option Int :=
  if x.grains % grainsPerUnit = 0 then some (x.grains / grainsPerUnit) else none

/-- The part of the magnitude that is behind the point, in grains. -/
def fraction (x : Finite) : Nat := x.magnitude % grainsPerUnit

/-- There is nothing behind the point exactly of an integer. -/
theorem fraction_eq_zero_iff (x : Finite) : x.fraction = 0 ↔ x.whole?.isSome = true := by
  have hdvd : x.grains % grainsPerUnit = 0 ↔ x.fraction = 0 := by
    rw [← Int.dvd_iff_emod_eq_zero, fraction, ← Nat.dvd_iff_mod_eq_zero, ← Int.natCast_dvd_natCast,
      grains]
    split
    · exact Int.dvd_neg
    · exact Iff.rfl
  rw [← hdvd, whole?]
  split
  · next h => exact iff_of_true h rfl
  · next h => exact iff_of_false h Bool.false_ne_true

/-- The number of low bits of a magnitude that a significand of 53 bits has no room for. -/
def excess (n : Nat) : Nat := n.log2 + 1 - 53

theorem lt_pow_excess (n : Nat) : n < Nat.pow 2 53 * Nat.pow 2 (excess n) := by
  have h : n < 2 ^ (n.log2 + 1) := Nat.lt_log2_self
  refine Nat.lt_of_lt_of_le h ?_
  simp only [Nat.pow_eq]
  rw [← Nat.pow_add]
  exact Nat.pow_le_pow_right (by decide) (by unfold excess; omega)

theorem pow_le_div_excess {n : Nat} (h : excess n ≠ 0) :
    Nat.pow 2 52 ≤ n / Nat.pow 2 (excess n) := by
  have hn : n ≠ 0 := by
    rintro rfl
    exact h (by decide)
  have hlog : 2 ^ n.log2 ≤ n := Nat.log2_self_le hn
  have he : n.log2 = 52 + excess n := by unfold excess at h ⊢; omega
  simp only [Nat.pow_eq]
  rw [Nat.le_div_iff_mul_le (Nat.two_pow_pos _), ← Nat.pow_add, ← he]
  exact hlog

/-- Where the magnitude `num / den` is cut, the significand has at most 53 bits, or one more by
rounding. -/
theorem divRound_le_pow (num den : Nat) :
    divRound num (den * Nat.pow 2 (excess (num / den))) ≤ Nat.pow 2 53 := by
  have below : num / den / Nat.pow 2 (excess (num / den)) < Nat.pow 2 53 :=
    (Nat.div_lt_iff_lt_mul (Nat.two_pow_pos _)).2 (lt_pow_excess _)
  rw [Nat.div_div_eq_div_mul] at below
  exact Nat.le_trans (divRound_le ..) below

/-- Where bits are cut off, the significand has all its 53 bits. -/
theorem pow_le_divRound (num den : Nat) :
    Nat.pow 2 52 ≤ divRound num (den * Nat.pow 2 (excess (num / den))) ∨
      excess (num / den) = 0 := by
  rcases Decidable.em (excess (num / den) = 0) with h | h
  · exact .inr h
  · have above := pow_le_div_excess h
    rw [Nat.div_div_eq_div_mul] at above
    exact .inl (Nat.le_trans above (div_le_divRound ..))

/-- The number nearest to `num / den` grains, a tie going to the even significand; none when that
is beyond the largest. -/
def ofRatio? (negative : Bool) (num den : Nat) : Option Finite :=
  let shift := excess (num / den)
  let significand := divRound num (den * Nat.pow 2 shift)
  if full : significand = Nat.pow 2 53 then
    if fits : shift + 1 ≤ 2045 then
      some ⟨negative, Nat.pow 2 52, shift + 1, by decide, fits, .inl (Nat.le_refl _)⟩
    else none
  else if fits : shift ≤ 2045 then
    some ⟨negative, significand, shift, Nat.lt_of_le_of_ne (divRound_le_pow num den) full, fits,
      pow_le_divRound num den⟩
  else none

/-- The number nearest to a natural number, with a sign; none when that is beyond the largest. -/
def ofNat? (negative : Bool) (n : Nat) : Option Finite :=
  ofRatio? negative (n * grainsPerUnit) 1

end Finite

end Binary64

/-- A number of the format: finite, infinite with either sign, or no number at all. -/
inductive Binary64
  | finite (x : Binary64.Finite)
  | infinite (negative : Bool)
  | nan
  deriving DecidableEq

namespace Binary64

/-- The number nearest to `num / den` grains; beyond the largest finite one it is infinite. -/
def ofRatio (negative : Bool) (num den : Nat) : Binary64 :=
  match Finite.ofRatio? negative num den with
  | some x => .finite x
  | none => .infinite negative

def ofInt (n : Int) : Binary64 := ofRatio (n < 0) (n.natAbs * grainsPerUnit) 1

/-- The product, rounded once. -/
def Finite.mul (x y : Finite) : Binary64 :=
  ofRatio (x.negative != y.negative) (x.magnitude * y.magnitude) grainsPerUnit

/-- The quotient, rounded once.  The divisor is expected not to be zero. -/
def Finite.div (x y : Finite) : Binary64 :=
  ofRatio (x.negative != y.negative) (x.magnitude * grainsPerUnit) y.magnitude

/-- How two numbers compare; a NaN compares with nothing. -/
def order? : Binary64 → Binary64 → Option Ordering
  | .nan, _ | _, .nan => none
  | .finite x, .finite y => some (compare x.grains y.grains)
  | .infinite m, .infinite n => some (if m = n then .eq else if m then .lt else .gt)
  | .infinite m, .finite _ => some (if m then .lt else .gt)
  | .finite _, .infinite n => some (if n then .gt else .lt)

/-- Equality of the numbers meant: both zeros are one, and a NaN is not itself. -/
instance : BEq Binary64 := ⟨fun x y => x.order? y == some .eq⟩

def neg : Binary64 → Binary64
  | .finite x => .finite x.neg
  | .infinite negative => .infinite !negative
  | .nan => .nan

end Binary64

end SchemaCheck
