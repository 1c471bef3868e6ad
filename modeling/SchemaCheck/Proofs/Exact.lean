import Mathlib.Algebra.Order.Field.Rat
import Mathlib.Algebra.Order.Ring.Cast
import Mathlib.Data.Int.CharZero
import SchemaCheck.Proofs.Visits

/-!
# Exact values

Numbers of JSON as rational numbers, and what an integer field makes of them.

* `Json.Number.value`: the rational number that a number is.  For a binary number it is read off the
  sign, the significand and the exponent, without a detour over grains.
* `Json.Number.isInt_iff`: the integer that validation finds in a number is its value.
* `measures_value`: where the value is whole, limits of 64 bits are compared with it as rational
  numbers are.
* `Field.validate_integer_number`: an integer field reports of a number the rules that its value
  breaks.
-/

namespace SchemaCheck

/-! ### The value of a number -/

/-- The rational number that a finite binary number is. -/
def Binary64.Finite.value (x : Finite) : ℚ :=
  (if x.negative then -1 else 1) * x.significand * 2 ^ ((x.shift : ℤ) - 1074)

/-- The rational number that a number of a document is. -/
def Json.Number.value : Json.Number → ℚ
  | .whole k => k
  | .float x => x.value

private lemma cast_two_pow (n : ℕ) : ((Nat.pow 2 n : ℕ) : ℚ) = 2 ^ (n : ℤ) := by
  rw [Nat.pow_eq, Nat.cast_pow, Nat.cast_ofNat, zpow_natCast]

/-- The magnitude of a binary number counts the grains in it. -/
lemma Binary64.Finite.cast_magnitude (x : Finite) :
    (x.magnitude : ℚ) = x.significand * 2 ^ ((x.shift : ℤ) - 1074) * grainsPerUnit := by
  have hgrains : (grainsPerUnit : ℚ) = 2 ^ (1074 : ℤ) := by
    unfold grainsPerUnit
    -- The power of two in a unit is too large to be written out.
    change _ = (2 : ℚ) ^ ((1074 : ℕ) : ℤ)
    generalize 1074 = n
    exact cast_two_pow n
  rw [magnitude, Nat.cast_mul, cast_two_pow, hgrains, mul_assoc, ← zpow_add₀ two_ne_zero,
    Int.sub_add_cancel]

/-- The grains of a binary number, of which there are as many in a unit as `grainsPerUnit`, are its
value. -/
lemma Binary64.Finite.cast_grains (x : Finite) : (x.grains : ℚ) = x.value * grainsPerUnit := by
  rw [grains, value]
  cases x.negative with
  | false =>
      rw [if_neg Bool.false_ne_true, if_neg Bool.false_ne_true, one_mul, Int.cast_natCast,
        cast_magnitude]
  | true =>
      rw [if_pos rfl, if_pos rfl, Int.cast_neg, Int.cast_natCast, cast_magnitude, neg_one_mul,
        neg_mul, neg_mul]

lemma Json.Number.cast_exact (n : Json.Number) :
    (n.exact : ℚ) = n.value * Binary64.grainsPerUnit := by
  cases n with
  | whole k => rw [exact, value, Int.cast_mul, Int.cast_natCast]
  | float x => exact x.cast_grains

/-- **The integer that a number is, is its value.** -/
theorem Json.Number.isInt_iff {n : Json.Number} {k : Int} : n.IsInt k ↔ n.value = k := by
  have hne : (Binary64.grainsPerUnit : ℚ) ≠ 0 :=
    Nat.cast_ne_zero.2 (Nat.ne_of_gt Binary64.grainsPerUnit_pos)
  calc n.IsInt k ↔ (n.exact : ℚ) = (k * Binary64.grainsPerUnit : Int) := Int.cast_inj.symm
    _ ↔ n.value * Binary64.grainsPerUnit = k * Binary64.grainsPerUnit := by
      rw [cast_exact, Int.cast_mul, Int.cast_natCast]
    _ ↔ n.value = k := mul_left_inj' hne

lemma Json.Number.whole?_eq_some_iff_value {n : Json.Number} {k : Int} :
    n.whole? = some k ↔ n.value = k :=
  whole?_eq_some_iff.trans isInt_iff

/-- A number has an integer in it exactly if its value is whole. -/
lemma Json.Number.isSome_whole? (n : Json.Number) : n.whole?.isSome = n.value.isInt := by
  rw [Bool.eq_iff_iff, Option.isSome_iff_exists]
  constructor
  · rintro ⟨k, hk⟩
    rw [whole?_eq_some_iff_value.1 hk, Rat.isInt, Rat.den_intCast]
    rfl
  · intro h
    exact ⟨n.value.num, whole?_eq_some_iff_value.2 (Rat.eq_num_of_isInt h)⟩

/-! ### Limits on the value -/

/-- The order of a whole number with 64-bit limits is that of the rational numbers. -/
lemma measures_value {n : Json.Number} (h : n.value.isInt) :
    Limit.Measures (fun limit : Int64 => (limit.toInt : ℚ)) n n.value := by
  obtain ⟨k, hk⟩ : ∃ k : Int, n.value = k := ⟨_, Rat.eq_num_of_isInt h⟩
  have hint := measures_toInt (Json.Number.isInt_iff.2 hk)
  refine ⟨fun limit => ?_, fun limit => ?_, fun range => ?_⟩
  · rw [hint.lt, hk, Int.cast_lt]
  · rw [hint.gt, hk, Int.cast_lt]
  · rw [hint.holds, hk, Int.cast_le, Int.cast_le]

/-- **An integer field judges a number by its exact value**, whatever its size and however it is
written.  A value that is not whole is of the wrong kind and nothing else is said of it; of a whole
one the sign, the least value, the greatest value and the ranges are reported, in that order, each
exactly if the value breaks it. -/
theorem Field.validate_integer_number (name : String) (required : Bool) (rules : Rules Int64)
    (n : Json.Number) :
    (Field.integer name required rules).validate (.number n) =
      (if n.value.isInt then
        Check.report (rules.checks (fun limit => (limit.toInt : ℚ)) n.value)
      else [.wrongKind .integer .float]).map (Violation.here name) := by
  have hreasons : (Field.integer name required rules).validate (.number n) =
      ((Field.integer name required rules).reasonsPresent (.number n)).map
        (Violation.here name) := by
    simp only [validate, reasons, List.append_nil]
    rfl
  rw [hreasons, reasonsPresent, Json.Number.isSome_wide?, Json.Number.isSome_whole?]
  refine congrArg (List.map _) ?_
  by_cases hwhole : n.value.isInt
  · rw [if_pos hwhole, if_pos hwhole, Rules.report_checks (measures_value hwhole)]
  · have hkind : (Json.number n).kind = .float := by
      rw [Json.kind_number_eq, Json.Number.isSome_whole?, if_neg hwhole]
    rw [if_neg hwhole, if_neg hwhole, wrongKind, hkind]

/-- A binary number that 128 bits have no room for is still beyond every limit of 64 bits. -/
example :
    let rules : Rules Int64 :=
      { min := some Int64.minValue, max := some Int64.maxValue, ranges := some [⟨0, 9⟩] }
    let far : Binary64.Finite :=
      ⟨true, Nat.pow 2 52, 2045, by decide, by decide, .inl (Nat.le_refl _)⟩
    ((Field.integer "n" true rules).validate (.number (.float far))).map Violation.message =
      ["n: value should be at least -9223372036854775808",
        "n: value should be in one of these ranges: [0, 9]"] := by
  decide +kernel

end SchemaCheck
