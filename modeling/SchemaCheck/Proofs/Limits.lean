import Mathlib.Tactic.Common
import SchemaCheck.Rules

/-!
# Limits as an order

What the limits of a number field say, as inequalities between numbers, and the agreement of
`Rules.reasons` with it.

* `Binary64` is ordered by the numbers meant, so that a NaN is neither below nor above anything.
* `Rules.Allow`: a number keeps to its limits.  The limits may be of another type than the number,
  as 64-bit limits are for a whole number of any size.
* `Limit.Measures`: comparing a number of a document with a limit is comparing `x` with what the
  limit stands for.  A whole number is measured by its exact value (`measures_toInt`), and any
  number by the nearest binary one (`measures_toBinary64`).
* `Rules.reasons_eq_nil_iff`: no limit is reported exactly when all are kept.
* `Limit.order?_int64` and `Int64.ofJson?_eq`: limits of 64 bits see the exact integer, although a
  number is cut to 128 bits before it is looked at.
-/

namespace SchemaCheck

/-! ### The order of binary numbers -/

namespace Binary64

instance : LT Binary64 := ⟨fun x y => x.order? y = some .lt⟩

instance : LE Binary64 := ⟨fun x y => x.order? y = some .lt ∨ x.order? y = some .eq⟩

lemma order?_eq_lt_iff {x y : Binary64} : x.order? y = some .lt ↔ x < y := Iff.rfl

/-- A number is above another one when that is below it. -/
lemma order?_eq_gt_iff {x y : Binary64} : x.order? y = some .gt ↔ y < x := by
  change x.order? y = some .gt ↔ y.order? x = some .lt
  cases x <;> cases y <;> try simp [order?]
  case finite.finite x y => rw [Int.compare_eq_gt, Int.compare_eq_lt]
  case infinite.infinite m n => cases m <;> cases n <;> simp

/-- Equality of numbers may be read from either side. -/
lemma order?_eq_eq_comm {x y : Binary64} : x.order? y = some .eq ↔ y.order? x = some .eq := by
  cases x with
  | finite x =>
      cases y with
      | finite y =>
          simp only [order?, Option.some.injEq, Int.compare_eq_eq]
          exact eq_comm
      | infinite m => cases m <;> simp [order?]
      | nan => simp [order?]
  | infinite m =>
      cases y with
      | finite y => cases m <;> simp [order?]
      | infinite n => cases m <;> cases n <;> simp [order?]
      | nan => simp [order?]
  | nan => cases y <;> simp [order?]

lemma le_iff_order?_gt {x y : Binary64} :
    x ≤ y ↔ y.order? x = some .gt ∨ y.order? x = some .eq := by
  rw [order?_eq_gt_iff, order?_eq_eq_comm]
  exact Iff.rfl

/-- Of two numbers that are not NaN, one is at most the other where it is not above it. -/
lemma not_lt_iff_le {x y : Binary64} (hx : x ≠ .nan) (hy : y ≠ .nan) : ¬x < y ↔ y ≤ x := by
  rw [le_iff_order?_gt, ← order?_eq_lt_iff]
  cases hxy : x.order? y with
  | none => cases x <;> cases y <;> simp_all [order?]
  | some order => cases order <;> simp

end Binary64

/-! ### Keeping to limits -/

/-- **Keeping to limits**: the number `x` is within `rules`, whose limits stand for the numbers
that `value` gives them.  A bound excludes what lies beyond it, so that one that is no number
excludes nothing; a range holds what lies between its ends, both included. -/
structure Rules.Allow {α β : Type} [Limit α] [LT β] [LE β] (value : α → β) (rules : Rules α)
    (x : β) : Prop where
  positive : rules.sign = some .positive → ¬x < value Limit.zero
  negative : rules.sign = some .negative → ¬value Limit.zero < x
  min : ∀ min, rules.min = some min → ¬x < value min
  max : ∀ max, rules.max = some max → ¬value max < x
  ranges : ∀ ranges, rules.ranges = some ranges →
    ∃ range ∈ ranges, value range.start ≤ x ∧ x ≤ value range.stop

/-- Comparing the number `n` with a limit is comparing `x` with the number that the limit stands
for. -/
structure Limit.Measures {α β : Type} [Limit α] [LT β] [LE β] (value : α → β)
    (n : Json.Number) (x : β) : Prop where
  lt : ∀ limit : α, Limit.order? n limit = some .lt ↔ x < value limit
  gt : ∀ limit : α, Limit.order? n limit = some .gt ↔ value limit < x
  holds : ∀ range : Range α, range.holds n = true ↔ value range.start ≤ x ∧ x ≤ value range.stop

/-- **Limits are reported exactly when they are broken.** -/
theorem Rules.reasons_eq_nil_iff {α β : Type} [Limit α] [LT β] [LE β] {value : α → β}
    {n : Json.Number} {x : β} (h : Limit.Measures value n x) (rules : Rules α) :
    rules.reasons n = [] ↔ rules.Allow value x := by
  obtain ⟨min, max, sign, ranges⟩ := rules
  simp only [reasons, List.append_eq_nil_iff]
  constructor
  · rintro ⟨⟨⟨hsign, hmin⟩, hmax⟩, hranges⟩
    refine ⟨?_, ?_, ?_, ?_, ?_⟩
    · rintro rfl
      rw [← h.lt]
      intro hlt
      simp [hlt] at hsign
    · rintro rfl
      rw [← h.gt]
      intro hgt
      simp [hgt] at hsign
    · rintro m rfl
      rw [← h.lt]
      intro hlt
      simp [hlt] at hmin
    · rintro m rfl
      rw [← h.gt]
      intro hgt
      simp [hgt] at hmax
    · rintro ranges rfl
      have hany : ranges.any (fun range => range.holds n) = true := by
        by_contra hno
        simp [hno] at hranges
      obtain ⟨range, hrange, hholds⟩ := List.any_eq_true.1 hany
      exact ⟨range, hrange, (h.holds range).1 hholds⟩
  · rintro ⟨hpos, hneg, hmin, hmax, hranges⟩
    refine ⟨⟨⟨?_, ?_⟩, ?_⟩, ?_⟩
    · rcases sign with _ | _ | _
      · rfl
      · have hlt := mt (h.lt _).1 (hpos rfl)
        split <;> simp_all
      · have hgt := mt (h.gt _).1 (hneg rfl)
        split <;> simp_all
    · rcases min with _ | m
      · rfl
      · exact if_neg (mt (h.lt m).1 (hmin m rfl))
    · rcases max with _ | m
      · rfl
      · exact if_neg (mt (h.gt m).1 (hmax m rfl))
    · rcases ranges with _ | ranges
      · rfl
      · obtain ⟨range, hrange, hbetween⟩ := hranges ranges rfl
        exact if_pos (List.any_eq_true.2 ⟨range, hrange, (h.holds range).2 hbetween⟩)

/-! ### The two ways to measure -/

/-- The number is the integer `k`, however it was written. -/
def Json.Number.IsInt (n : Json.Number) (k : Int) : Prop :=
  n.exact = k * Binary64.grainsPerUnit

/-- A number is whole exactly if it is an integer in grains. -/
lemma Json.Number.whole?_eq_some_iff {n : Json.Number} {k : Int} :
    n.whole? = some k ↔ n.IsInt k := by
  have hne : (Binary64.grainsPerUnit : Int) ≠ 0 :=
    Int.natCast_ne_zero.2 (Nat.ne_of_gt Binary64.grainsPerUnit_pos)
  cases n with
  | whole m =>
      simp only [whole?, IsInt, exact, Option.some.injEq]
      exact (Int.mul_eq_mul_right_iff hne).symm
  | float x =>
      simp only [whole?, Binary64.Finite.whole?, IsInt, exact]
      generalize (Binary64.grainsPerUnit : Int) = u at *
      constructor
      · intro h
        split at h
        · next hmod =>
            rw [← Option.some.inj h]
            exact (Int.ediv_mul_cancel (Int.dvd_of_emod_eq_zero hmod)).symm
        · cases h
      · intro h
        rw [h, if_pos (Int.mul_emod_left k u), Int.mul_ediv_cancel k hne]

lemma Json.Number.saturated_eq (k : Int) :
    saturated k = max (-170141183460469231731687303715884105728)
      (min k 170141183460469231731687303715884105727) := rfl

/-- Cutting an integer to 128 bits does not take it past a limit of 64 bits. -/
lemma Json.Number.compare_saturated (k : Int) (limit : Int64) :
    compare (saturated k) limit.toInt = compare k limit.toInt := by
  have hmin : -2 ^ 63 ≤ limit.toInt := limit.le_toInt
  have hmax : limit.toInt < 2 ^ 63 := limit.toInt_lt
  simp only [saturated_eq, Int.compare_eq_ite_lt]
  grind

/-- An integer is cut to one of 64 bits only if it was one. -/
lemma Json.Number.saturated_fits_iff {k : Int} :
    Int64.minValue.toInt ≤ saturated k ∧ saturated k ≤ Int64.maxValue.toInt ↔
      Int64.minValue.toInt ≤ k ∧ k ≤ Int64.maxValue.toInt := by
  rw [Int64.toInt_minValue, Int64.toInt_maxValue, saturated_eq]
  omega

lemma Json.Number.saturated_of_fits {k : Int}
    (h : Int64.minValue.toInt ≤ k ∧ k ≤ Int64.maxValue.toInt) : saturated k = k := by
  rw [Int64.toInt_minValue, Int64.toInt_maxValue] at h
  rw [saturated_eq]
  omega

/-- **Limits of 64 bits see the exact integer**, whether it had to be cut or not. -/
lemma Limit.order?_int64 (n : Json.Number) (limit : Int64) :
    Limit.order? n limit = n.whole?.map fun k => compare k limit.toInt := by
  cases n with
  | whole k => rfl
  | float x =>
      change (x.whole?.map Json.Number.saturated).map _ = x.whole?.map _
      rw [Option.map_map]
      exact congrArg (x.whole?.map ·) (funext fun k => Json.Number.compare_saturated k limit)

/-- **A limit of 64 bits is the exact integer** of a value, whether it had to be cut or not. -/
lemma Int64.ofJson?_eq (value : Json) :
    Int64.ofJson? value = (value.number?.bind Json.Number.whole?).bind fun k =>
      if Int64.minValue.toInt ≤ k ∧ k ≤ Int64.maxValue.toInt then some (Int64.ofInt k)
      else none := by
  rw [Option.bind_assoc]
  refine congrArg (value.number?.bind ·) (funext fun n => ?_)
  cases n with
  | whole k => rfl
  | float x =>
      change (x.whole?.map Json.Number.saturated).bind _ = x.whole?.bind _
      rw [Option.bind_map]
      refine congrArg (x.whole?.bind ·) (funext fun k => ?_)
      simp only [Function.comp_apply, Json.Number.saturated_fits_iff]
      split
      · next hfits => rw [Json.Number.saturated_of_fits hfits]
      · rfl

/-- The order of an integer with 64-bit limits is that of its exact value. -/
lemma measures_toInt {n : Json.Number} {k : Int} (h : n.IsInt k) :
    Limit.Measures Int64.toInt n k := by
  have horder : ∀ limit : Int64, Limit.order? n limit = some (compare k limit.toInt) := by
    intro limit
    rw [Limit.order?_int64, Json.Number.whole?_eq_some_iff.2 h, Option.map_some]
  refine ⟨fun limit => ?_, fun limit => ?_, fun range => ?_⟩
  · rw [horder, Option.some.injEq, Int.compare_eq_lt]
  · rw [horder, Option.some.injEq, Int.compare_eq_gt]
  · simp only [Range.holds, horder, Bool.and_eq_true, Bool.or_eq_true, beq_iff_eq,
      Option.some.injEq, Int.compare_eq_lt, Int.compare_eq_gt, Int.compare_eq_eq]
    omega

/-- The order of a number with binary limits is that of the nearest binary number. -/
lemma measures_toBinary64 (n : Json.Number) : Limit.Measures id n n.toBinary64 where
  lt _ := Iff.rfl
  gt _ := Binary64.order?_eq_gt_iff
  holds range := by
    rw [id, id, Binary64.le_iff_order?_gt]
    simp only [Range.holds, Bool.and_eq_true, Bool.or_eq_true, beq_iff_eq]
    exact Iff.rfl

end SchemaCheck
