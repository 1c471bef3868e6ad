import Mathlib.Data.List.DropRight
import Mathlib.Tactic.Common
import SchemaCheck.Proofs.Json.Numeral
import SchemaCheck.Proofs.Json.Scaling

/-!
# How long the shortest decimal is, and how large

* `Decimal.significand`, `Decimal.exponent`: a decimal as a whole number times a power of ten.
* `Decimal.Bounded`: no zero in front, few digits, and no number beyond the cell.
* `Decimal.exists_zeros`: the digits of a coefficient are those of its decimal, with zeros behind.
* `Decimal.holds_of_nearest?`: the point that is taken lies in the cell, and next to the number.
* `Decimal.bounded_ofCoefficient`, `Decimal.bounded_shortest`: so the shortest decimal is bounded.
* `Json.isSome_scaled_shortest`: a reader makes a number of it.
-/

namespace SchemaCheck

open Json (longest reach)
open Binary64 (grainsPerUnit)

namespace Decimal

/-- The number that the digits spell. -/
def significand (d : Decimal) : Nat := Nat.ofDigitChars 10 d.digits 0

/-- The power of ten that the last digit counts. -/
def exponent (d : Decimal) : Int := d.point - d.digits.length

/-- The decimal has no zero in front, unless it is zero itself, and no more digits than the longest
significand, and its number is not beyond the cell. -/
structure Bounded (cell : Cell) (d : Decimal) : Prop where
  leading : d = ⟨['0'], 1⟩ ∨ ∀ c ∈ d.digits.head?, c ≠ '0'
  length_le : d.digits.length ≤ 18
  significand_le : d.significand ≤ longest
  significand_pos : d.exponent ≠ 0 → 0 < d.significand
  value_le : 0 ≤ d.exponent →
    d.significand * Nat.pow 10 d.exponent.toNat * (4 * grainsPerUnit) ≤ cell.greatest

lemma power_add (k l : Nat) : Nat.pow 10 (k + l) = Nat.pow 10 k * Nat.pow 10 l := Nat.pow_add 10 k l

lemma power_pos (k : Nat) : 0 < Nat.pow 10 k := Nat.pow_pos (by decide)

/-! ### The digits of a coefficient -/

section

variable {coefficient : Nat} {exponent : Int}

/-- The digits of a coefficient are those of its decimal, with zeros behind. -/
lemma exists_zeros (coefficient : Nat) (exponent : Int) :
    ∃ zeros, Nat.toDigits 10 coefficient =
      (ofCoefficient coefficient exponent).digits ++ List.replicate zeros '0' := by
  have hzeros : (Nat.toDigits 10 coefficient).rtakeWhile (· == '0') =
      List.replicate ((Nat.toDigits 10 coefficient).rtakeWhile (· == '0')).length '0' := by
    refine List.eq_replicate_of_mem fun c hc => ?_
    simpa using List.mem_rtakeWhile_imp hc
  refine ⟨((Nat.toDigits 10 coefficient).rtakeWhile (· == '0')).length, ?_⟩
  rw [← hzeros]
  exact List.rdropWhile_append_rtakeWhile.symm

/-- A decimal is its coefficient at the power of ten. -/
lemma ofCoefficient_eq (coefficient : Nat) (exponent : Int) :
    ∃ zeros : Nat, coefficient = 10 ^ zeros * (ofCoefficient coefficient exponent).significand ∧
      (ofCoefficient coefficient exponent).exponent = exponent + zeros := by
  obtain ⟨zeros, hdigits⟩ := exists_zeros coefficient exponent
  refine ⟨zeros, ?_, ?_⟩
  · have hvalue := congrArg (Nat.ofDigitChars 10 · 0) hdigits
    simp only [Nat.ofDigitChars_ten_toDigits, Nat.ofDigitChars_append,
      Nat.ofDigitChars_replicate_zero] at hvalue
    exact hvalue
  · have hlength := congrArg List.length hdigits
    rw [List.length_append, List.length_replicate] at hlength
    change ((Nat.toDigits 10 coefficient).length + exponent : Int) -
      (ofCoefficient coefficient exponent).digits.length = _
    omega

/-- Zeros at the end of a coefficient are not part of the significand. -/
lemma significand_ofCoefficient_le (coefficient : Nat) (exponent : Int) :
    (ofCoefficient coefficient exponent).significand ≤ coefficient := by
  obtain ⟨zeros, hcoefficient, -⟩ := ofCoefficient_eq coefficient exponent
  calc (ofCoefficient coefficient exponent).significand
      ≤ 10 ^ zeros * (ofCoefficient coefficient exponent).significand :=
        Nat.le_mul_of_pos_left _ (power_pos zeros)
    _ = coefficient := hcoefficient.symm

lemma significand_ofCoefficient_pos (h : coefficient ≠ 0) (exponent : Int) :
    0 < (ofCoefficient coefficient exponent).significand := by
  obtain ⟨zeros, hcoefficient, -⟩ := ofCoefficient_eq coefficient exponent
  exact Nat.pos_of_ne_zero fun hzero => h (by rw [hcoefficient, hzero, Nat.mul_zero])

/-- A shortest decimal has at most eighteen digits. -/
lemma length_digits_ofCoefficient_le (h : coefficient ≤ longest) (exponent : Int) :
    (ofCoefficient coefficient exponent).digits.length ≤ 18 := by
  obtain ⟨zeros, hdigits⟩ := exists_zeros coefficient exponent
  have hlength : (Nat.toDigits 10 coefficient).length ≤ 18 :=
    (Nat.length_toDigits_le_iff (by decide) (by decide)).2 (Nat.lt_of_le_of_lt h (by decide))
  rw [hdigits, List.length_append] at hlength
  omega

lemma leading_ofCoefficient (h : coefficient ≠ 0) (exponent : Int) :
    ∀ c ∈ (ofCoefficient coefficient exponent).digits.head?, c ≠ '0' := by
  obtain ⟨zeros, hdigits⟩ := exists_zeros coefficient exponent
  have hne := (hasDigits_ofCoefficient h exponent).1
  have hhead := Json.head_toDigits h
  rwa [hdigits, List.head?_append_of_ne_nil _ hne] at hhead

end

/-! ### Points of a cell -/

section

variable {cell : Cell} {stretch step points : Nat}

lemma le_greatest_of_holds (h : cell.holds stretch step points = true) :
    points * step ≤ cell.greatest * stretch := by
  unfold Cell.holds at h
  dsimp only at h
  split at h <;> simp only [Bool.and_eq_true, decide_eq_true_eq] at h <;> omega

/-- **The point that is taken** lies in the cell, and is not beyond the first one above its
number. -/
lemma holds_of_nearest? {tie : TieBreak} {exponent : Int} {n : Nat}
    (h : cell.nearest? tie exponent = some n) :
    cell.holds (Nat.pow 10 (-exponent).toNat)
        (Nat.pow 10 exponent.toNat * (4 * grainsPerUnit)) n = true ∧
      n ≤ cell.value * Nat.pow 10 (-exponent).toNat /
        (Nat.pow 10 exponent.toNat * (4 * grainsPerUnit)) + 1 := by
  unfold Cell.nearest? at h
  dsimp only at h
  generalize Nat.pow 10 exponent.toNat * (4 * grainsPerUnit) = step at h ⊢
  generalize Nat.pow 10 (-exponent).toNat = stretch at h ⊢
  generalize cell.value * stretch / step = lower at h ⊢
  grind

end

/-- Below its point a magnitude has room. -/
lemma magnitude_lt_pow_pointOf (magnitude : Nat) :
    ∃ length offset : Nat, pointOf magnitude = length - offset ∧
      magnitude * Nat.pow 10 offset < Nat.pow 10 length * grainsPerUnit := by
  -- The power of ten in the definition is too large to be written out.
  obtain ⟨offset, hoffset⟩ : ∃ offset, offset = 400 := ⟨_, rfl⟩
  have hpoint : pointOf magnitude =
      ((Nat.toDigits 10 (magnitude * Nat.pow 10 offset / grainsPerUnit)).length : Int) -
        offset := by
    rw [pointOf, show (400 : Int) = (400 : Nat) from rfl, ← hoffset]
  refine ⟨_, offset, hpoint, (Nat.div_lt_iff_lt_mul Binary64.grainsPerUnit_pos).1 ?_⟩
  exact (Nat.length_toDigits_le_iff (by decide) Nat.length_toDigits_pos).1 (Nat.le_refl _)

/-- On the grid for some digits a number is less than as many digits can count. -/
lemma lower_lt (x : Binary64.Finite) {digits : Nat} {exponent : Int}
    (h : exponent = pointOf x.magnitude - digits) :
    (Cell.of x).value * Nat.pow 10 (-exponent).toNat /
      (Nat.pow 10 exponent.toNat * (4 * grainsPerUnit)) < Nat.pow 10 digits := by
  obtain ⟨length, offset, hpoint, hlt⟩ := magnitude_lt_pow_pointOf x.magnitude
  have hsum : length + (-exponent).toNat = offset + (exponent.toNat + digits) := by omega
  have hpowers := congrArg (Nat.pow 10) hsum
  rw [power_add, power_add, power_add] at hpowers
  have hunit := Binary64.grainsPerUnit_pos
  have hstretch := power_pos (-exponent).toNat
  have hstep := Nat.mul_pos (power_pos exponent.toNat) (Nat.mul_pos (Nat.succ_pos 3) hunit)
  rw [Nat.div_lt_iff_lt_mul hstep]
  change 4 * x.magnitude * _ < _
  generalize grainsPerUnit = unit at *
  generalize Nat.pow 10 offset = scale at *
  generalize Nat.pow 10 (-exponent).toNat = stretch at *
  generalize Nat.pow 10 exponent.toNat = power at *
  refine Nat.lt_of_mul_lt_mul_left (a := scale) ?_
  calc scale * (4 * x.magnitude * stretch)
      = 4 * (x.magnitude * scale * stretch) := by ac_rfl
    _ < 4 * (Nat.pow 10 length * unit * stretch) :=
        Nat.mul_lt_mul_of_pos_left (Nat.mul_lt_mul_of_pos_right hlt hstretch) (by decide)
    _ = Nat.pow 10 length * stretch * (4 * unit) := by ac_rfl
    _ = scale * (Nat.pow 10 digits * (power * (4 * unit))) := by
        rw [hpowers]
        ac_rfl

/-! ### The shortest decimal -/

lemma bounded_zero (cell : Cell) : Bounded cell ⟨['0'], 1⟩ where
  leading := .inl rfl
  length_le := by decide
  significand_le := Nat.zero_le _
  significand_pos h := absurd rfl h
  value_le _ := by simp [significand, Nat.ofDigitChars]

/-- The decimal of a point is not beyond a cell that the point lies in. -/
lemma value_ofCoefficient_le {cell : Cell} {exponent : Int} {n : Nat}
    (hholds : cell.holds (Nat.pow 10 (-exponent).toNat)
      (Nat.pow 10 exponent.toNat * (4 * grainsPerUnit)) n = true)
    (hnonneg : 0 ≤ (ofCoefficient n exponent).exponent) :
    (ofCoefficient n exponent).significand *
      Nat.pow 10 (ofCoefficient n exponent).exponent.toNat * (4 * grainsPerUnit) ≤
        cell.greatest := by
  obtain ⟨zeros, hcoefficient, hpower⟩ := ofCoefficient_eq n exponent
  have hsum : zeros + exponent.toNat =
      (ofCoefficient n exponent).exponent.toNat + (-exponent).toNat := by omega
  have hpowers := congrArg (Nat.pow 10) hsum
  rw [power_add, power_add] at hpowers
  refine Nat.le_of_mul_le_mul_right (Nat.le_trans (Nat.le_of_eq ?_) (le_greatest_of_holds hholds))
    (power_pos (-exponent).toNat)
  generalize grainsPerUnit = unit
  calc _ = (ofCoefficient n exponent).significand *
        (Nat.pow 10 zeros * Nat.pow 10 exponent.toNat) * (4 * unit) := by
        rw [hpowers]
        simp only [Nat.pow_eq]
        ac_rfl
    _ = (10 ^ zeros * (ofCoefficient n exponent).significand) *
        (Nat.pow 10 exponent.toNat * (4 * unit)) := by
        simp only [Nat.pow_eq]
        ac_rfl
    _ = n * (Nat.pow 10 exponent.toNat * (4 * unit)) := by rw [← hcoefficient]

/-- **A point on a grid of up to seventeen digits** makes a bounded decimal. -/
lemma bounded_ofCoefficient {tie : TieBreak} {x : Binary64.Finite} (hx : x.isZero = false)
    {digits : Nat} (hdigits : digits ≤ 17) {exponent : Int}
    (hexponent : exponent = pointOf x.magnitude - digits) {n : Nat}
    (h : (Cell.of x).nearest? tie exponent = some n) :
    Bounded (Cell.of x) (ofCoefficient n exponent) := by
  obtain ⟨hholds, hle⟩ := holds_of_nearest? h
  have hlower := lower_lt x hexponent
  have hlongest : n ≤ longest :=
    calc n ≤ Nat.pow 10 digits := by omega
      _ ≤ longest := Json.power_le_power hdigits
  have hne := ne_zero_of_nearest? hx h
  exact ⟨.inr (leading_ofCoefficient hne exponent),
    length_digits_ofCoefficient_le hlongest exponent,
    Nat.le_trans (significand_ofCoefficient_le n exponent) hlongest,
    fun _ => significand_ofCoefficient_pos hne exponent, value_ofCoefficient_le hholds⟩

/-- **The shortest decimal of a number** is bounded. -/
theorem bounded_shortest (tie : TieBreak) (x : Binary64.Finite) :
    Bounded (Cell.of x) (shortest tie x) := by
  unfold shortest
  split
  · exact bounded_zero _
  · next hx =>
      dsimp only
      cases hfind : (List.range 17).findSome? _ with
      | none => exact bounded_zero _
      | some d =>
          obtain ⟨count, hcount, hd⟩ := List.exists_of_findSome?_eq_some hfind
          obtain ⟨n, hn, rfl⟩ := Option.map_eq_some_iff.1 hd
          exact bounded_ofCoefficient (by simpa using hx) (List.mem_range.1 hcount) rfl hn

/-! ### Numbers in reach -/

/-- The greatest finite number, with a sign. -/
def greatest (negative : Bool) : Binary64.Finite :=
  ⟨negative, Nat.pow 2 53 - 1, 2045, by decide, by decide, .inl (by decide)⟩

/-- Only the greatest finite number has the greatest significand and exponent. -/
lemma eq_greatest {x : Binary64.Finite} (hsignificand : x.significand = Nat.pow 2 53 - 1)
    (hshift : x.shift = 2045) : x = greatest x.negative := by
  cases x with
  | mk negative significand shift _ _ _ =>
      dsimp only at hsignificand hshift
      subst hsignificand hshift
      rfl

lemma greatest_of (x : Binary64.Finite) :
    (Cell.of x).greatest = (4 * x.significand + 2) * Nat.pow 2 x.shift := by
  change 4 * (x.significand * Nat.pow 2 x.shift) + 2 * Nat.pow 2 x.shift = _
  rw [Nat.add_mul, Nat.mul_assoc]

lemma power_two_le {k l : Nat} (h : k ≤ l) : Nat.pow 2 k ≤ Nat.pow 2 l :=
  Nat.pow_le_pow_right (by decide) h

/-- No other number has a cell that goes beyond what is in reach. -/
lemma greatest_le_reach {x : Binary64.Finite} (h : x ≠ greatest x.negative) :
    (Cell.of x).greatest ≤ reach * (4 * grainsPerUnit) := by
  have hsignificand := x.significand_lt
  rw [greatest_of]
  rcases Nat.lt_or_eq_of_le x.shift_le with hsmall | hlast
  · have hsmallest : 4 * x.significand + 2 ≤ 4 * Nat.pow 2 53 := by omega
    exact Nat.le_trans (Nat.mul_le_mul hsmallest (power_two_le (Nat.le_of_lt_succ hsmall)))
      (by decide +kernel)
  · have hne : x.significand ≠ Nat.pow 2 53 - 1 := fun heq => h (eq_greatest heq hlast)
    have hroom : 4 * x.significand + 2 ≤ 4 * Nat.pow 2 53 - 6 := by omega
    exact Nat.le_trans (Nat.mul_le_mul hroom (power_two_le (Nat.le_of_eq hlast)))
      (by decide +kernel)

/-- No cell goes as far as the first power of ten that is not at hand. -/
lemma greatest_lt (x : Binary64.Finite) :
    (Cell.of x).greatest < Nat.pow 10 (Json.powerLimit + 1) * (4 * grainsPerUnit) := by
  have hsignificand := x.significand_lt
  have hroom : 4 * x.significand + 2 ≤ 4 * Nat.pow 2 53 := by omega
  rw [greatest_of]
  exact Nat.lt_of_le_of_lt (Nat.mul_le_mul hroom (power_two_le x.shift_le)) (by decide +kernel)

/-- The exponent of a shortest decimal is one that the reader has a power for. -/
lemma Bounded.exponent_le {x : Binary64.Finite} {d : Decimal} (h : Bounded (Cell.of x) d) :
    d.exponent ≤ Json.powerLimit := by
  by_contra hgt
  have hpos := h.significand_pos (by omega)
  have hvalue := h.value_le (by omega)
  have hpower : Nat.pow 10 (Json.powerLimit + 1) ≤
      d.significand * Nat.pow 10 d.exponent.toNat :=
    Nat.le_trans (Json.power_le_power (by omega)) (Nat.le_mul_of_pos_left _ hpos)
  have hscaled := Nat.mul_le_mul_right (4 * grainsPerUnit) hpower
  exact Nat.not_lt.2 (Nat.le_trans hscaled hvalue) (greatest_lt x)

end Decimal

namespace Json

/-- The decimal of the greatest finite number is scaled too, though it is out of reach. -/
lemma isSome_scaled_greatest : ∀ negative : Bool,
    (scaled (Decimal.shortest .toEven (Decimal.greatest negative)).significand
      (Decimal.shortest .toEven (Decimal.greatest negative)).exponent).isSome := by
  decide +kernel

/-- **A reader makes a number of the shortest decimal**, whatever number that is of. -/
theorem isSome_scaled_shortest (x : Binary64.Finite) :
    (scaled (Decimal.shortest .toEven x).significand
      (Decimal.shortest .toEven x).exponent).isSome := by
  by_cases hgreatest : x = Decimal.greatest x.negative
  · rw [hgreatest]
    exact isSome_scaled_greatest x.negative
  · have hbounded := Decimal.bounded_shortest .toEven x
    have hunit : 0 < 4 * grainsPerUnit := Nat.mul_pos (Nat.succ_pos 3) Binary64.grainsPerUnit_pos
    refine isSome_scaled hbounded.significand_le fun hnonneg => ?_
    have hvalue := Nat.le_trans (hbounded.value_le hnonneg) (Decimal.greatest_le_reach hgreatest)
    exact Nat.le_of_mul_le_mul_right hvalue hunit

end Json

end SchemaCheck
