import Mathlib.Data.List.Forall2
import Mathlib.Tactic.Common
import SchemaCheck.Proofs.Congruence
import SchemaCheck.Proofs.Json.Values
import SchemaCheck.Proofs.Limits

/-!
# Values that differ in the writing of numbers

A number can be written as an integer, or with a point or an exponent.  Values that differ in that
alone are validated alike.

* `Json.Number.toBinary64_of_exact_eq` and `Json.Number.whole?_congr`: the binary number nearest to
  a number, and the integer that it is, depend on its exact value.
* `Json.Alike`: values of one shape, with the same keys, texts and truth values, whose numbers have
  the same exact values.
* `Json.Alike.validate_eq`, by induction on the values: they have the same violations.
-/

namespace SchemaCheck

/-! ### Numbers of the same exact value -/

namespace Binary64

namespace Finite

/-- The significand of a magnitude has room for all its bits. -/
lemma excess_magnitude (x : Finite) : excess x.magnitude = x.shift := by
  obtain ⟨negative, significand, shift, hlt, hshift, hnormal⟩ := x
  change significand < 2 ^ 53 at hlt
  change 2 ^ 52 ≤ significand ∨ shift = 0 at hnormal
  change (significand * 2 ^ shift).log2 + 1 - 53 = shift
  rcases hnormal with hnormal | rfl
  · have hlog : (significand * 2 ^ shift).log2 = 52 + shift := by
      have hpos : 0 < 2 ^ shift := Nat.two_pow_pos shift
      have hne : significand * 2 ^ shift ≠ 0 := by
        have : 0 < significand * 2 ^ shift := Nat.mul_pos (by omega) hpos
        omega
      refine (Nat.log2_eq_iff hne).2 ⟨?_, ?_⟩
      · rw [Nat.pow_add]
        exact Nat.mul_le_mul_right _ hnormal
      · rw [show 52 + shift + 1 = 53 + shift by omega, Nat.pow_add]
        exact Nat.mul_lt_mul_of_pos_right hlt hpos
    omega
  · rw [Nat.pow_zero, Nat.mul_one]
    by_cases hzero : significand = 0
    · subst hzero
      rfl
    · have hlog := (Nat.log2_lt hzero).2 hlt
      omega

/-- A magnitude is not rounded. -/
lemma ofRatio?_magnitude (negative : Bool) (x : Finite) :
    ofRatio? negative x.magnitude 1 = some { x with negative } := by
  have hround : divRound x.magnitude (1 * Nat.pow 2 x.shift) = x.significand := by
    rw [Nat.one_mul, magnitude]
    exact divRound_mul _ (Nat.two_pow_pos _)
  have hfull : x.significand ≠ Nat.pow 2 53 := Nat.ne_of_lt x.significand_lt
  simp only [ofRatio?, Nat.div_one, excess_magnitude, hround, hfull, dif_neg, x.shift_le, dif_pos,
    not_false_eq_true]

/-- The magnitude of a multiple. -/
lemma magnitude_eq_natAbs_mul {x : Finite} {k : Int} {unit : Nat} (h : k * unit = x.grains) :
    x.magnitude = k.natAbs * unit := by
  have habs : x.grains.natAbs = x.magnitude := by
    rw [grains]
    cases x.negative <;> simp
  rw [← habs, ← h, Int.natAbs_mul, Int.natAbs_natCast]

/-- A multiple of a positive unit has the sign of its factor, but for the sign of zero. -/
lemma grains_withSign {x : Finite} {k : Int} {unit : Nat} (hunit : 0 < unit)
    (h : k * unit = x.grains) : grains { x with negative := decide (k < 0) } = x.grains := by
  have hpos : (0 : Int) < unit := Int.natCast_pos.2 hunit
  have hmagnitude : (x.magnitude : Int) = k.natAbs * unit := by
    rw [magnitude_eq_natAbs_mul h, Int.natCast_mul]
  change (if decide (k < 0) = true then -(x.magnitude : Int) else x.magnitude) = x.grains
  rw [← h, hmagnitude]
  by_cases hk : k < 0
  · rw [if_pos (decide_eq_true hk), Int.ofNat_natAbs_of_nonpos (Int.le_of_lt hk), Int.neg_mul,
      Int.neg_neg]
  · rw [if_neg (by simpa using hk), Int.natAbs_of_nonneg (Int.not_lt.1 hk)]

end Finite

variable {negative : Bool} {num den : Nat}

lemma ofRatio_eq_finite {x : Finite} (h : Finite.ofRatio? negative num den = some x) :
    ofRatio negative num den = .finite x := by
  unfold ofRatio
  rw [h]

lemma ofRatio_ne_nan : ofRatio negative num den ≠ .nan := by
  unfold ofRatio
  generalize Finite.ofRatio? negative num den = nearest
  cases nearest <;> simp

/-- **An integer that a binary number can be** is not rounded, but for the sign of zero. -/
lemma exists_ofInt_eq {k : Int} {x : Finite} (h : k * grainsPerUnit = x.grains) :
    ∃ y, ofInt k = .finite y ∧ y.grains = x.grains := by
  refine ⟨_, ofRatio_eq_finite ?_, Finite.grains_withSign grainsPerUnit_pos h⟩
  rw [← Finite.magnitude_eq_natAbs_mul h, Finite.ofRatio?_magnitude]

end Binary64

namespace Json.Number

variable {n m : Number}

lemma whole?_congr (h : n.exact = m.exact) : n.whole? = m.whole? := by
  refine Option.ext fun k => ?_
  rw [whole?_eq_some_iff, whole?_eq_some_iff, IsInt, IsInt, h]

/-- **Numbers of the same exact value** are nearest to the same binary number, or to both zeros. -/
theorem toBinary64_of_exact_eq (h : n.exact = m.exact) :
    n.toBinary64 = m.toBinary64 ∨
      ∃ x y, n.toBinary64 = .finite x ∧ m.toBinary64 = .finite y ∧ x.grains = y.grains := by
  have hne : (Binary64.grainsPerUnit : Int) ≠ 0 :=
    Int.natCast_ne_zero.2 (Nat.ne_of_gt Binary64.grainsPerUnit_pos)
  cases n with
  | whole k =>
      cases m with
      | whole l =>
          obtain rfl : k = l := Int.eq_of_mul_eq_mul_right hne h
          exact .inl rfl
      | float y =>
          obtain ⟨x, hx, hgrains⟩ := Binary64.exists_ofInt_eq h
          exact .inr ⟨x, y, hx, rfl, hgrains⟩
  | float x =>
      cases m with
      | whole l =>
          obtain ⟨y, hy, hgrains⟩ := Binary64.exists_ofInt_eq h.symm
          exact .inr ⟨x, y, rfl, hy, hgrains.symm⟩
      | float y => exact .inr ⟨x, y, rfl, rfl, h⟩

/-- No number of a document is a NaN. -/
lemma toBinary64_ne_nan (n : Number) : n.toBinary64 ≠ .nan := by
  cases n with
  | whole k => exact Binary64.ofRatio_ne_nan
  | float x => simp [toBinary64]

/-- Numbers of one exact value round to binary numbers that are the same. -/
lemma same_toBinary64 (h : n.exact = m.exact) :
    Limit.same n.toBinary64 m.toBinary64 = true := by
  change (n.toBinary64.order? m.toBinary64 == some .eq) = true
  rcases toBinary64_of_exact_eq h with heq | ⟨x, y, hx, hy, hgrains⟩
  · have hnan := m.toBinary64_ne_nan
    rw [heq]
    cases hm : m.toBinary64 <;> simp_all [Binary64.order?]
  · simp [hx, hy, hgrains, Binary64.order?]

/-- Limits see the exact value of a number, or the binary number nearest to it. -/
lemma order?_binary64_congr (h : n.exact = m.exact) (limit : Binary64) :
    Limit.order? n limit = Limit.order? m limit := by
  change n.toBinary64.order? limit = m.toBinary64.order? limit
  rcases toBinary64_of_exact_eq h with heq | ⟨x, y, hx, hy, hgrains⟩
  · rw [heq]
  · rw [hx, hy]
    cases limit <;> simp [Binary64.order?, hgrains]

lemma order?_int64_congr (h : n.exact = m.exact) (limit : Int64) :
    Limit.order? n limit = Limit.order? m limit := by
  rw [Limit.order?_int64, Limit.order?_int64, whole?_congr h]

end Json.Number

lemma Rules.reasons_congr {α : Type} [Limit α] {n m : Json.Number}
    (h : ∀ limit : α, Limit.order? n limit = Limit.order? m limit) (rules : Rules α) :
    rules.reasons n = rules.reasons m := by
  simp only [reasons, Range.holds, h]
  rfl

/-! ### Values -/

/-- **Values that differ in the writing of numbers** alone: an integer of one may be a binary number
in the other one, where both are exactly the same number. -/
inductive Json.Alike : Json → Json → Prop
  | null : Alike .null .null
  | bool (b : Bool) : Alike (.bool b) (.bool b)
  | number {n m : Json.Number} : n.exact = m.exact → Alike (.number n) (.number m)
  | string (text : String) : Alike (.string text) (.string text)
  | array {items items' : List Json} :
      items.length = items'.length →
      (∀ (i : Nat) x y, items[i]? = some x → items'[i]? = some y → Alike x y) →
      Alike (.array items) (.array items')
  | object {members members' : List (String × Json)} :
      members.map Prod.fst = members'.map Prod.fst →
      (∀ (i : Nat) key x y, members[i]? = some (key, x) → members'[i]? = some (key, y) →
        Alike x y) →
      Alike (.object members) (.object members')

namespace Json.Alike

variable {value value' : Json}

/-- Every value is alike to itself. -/
lemma refl (value : Json) : value.Alike value := by
  induction value using Json.ind with
  | null => exact .null
  | bool b => exact .bool b
  | number n => exact .number rfl
  | string text => exact .string text
  | array items ih =>
      refine .array rfl fun i x y hx hy => ?_
      obtain rfl : x = y := Option.some.inj (hx.symm.trans hy)
      exact ih x (List.mem_of_getElem? hx)
  | object members ih =>
      refine .object rfl fun i key x y hx hy => ?_
      obtain rfl : x = y := congrArg Prod.snd (Option.some.inj (hx.symm.trans hy))
      exact ih (key, x) (List.mem_of_getElem? hx)

lemma kind_eq (h : value.Alike value') : value.kind = value'.kind := by
  cases h with
  | number hexact => simp [kind_number_eq, Number.whole?_congr hexact]
  | _ => rfl

/-- No field tells numbers of one exact value apart. -/
lemma validate_number {n m : Number} (h : n.exact = m.exact) (field : Field) :
    field.validate (.number n) = field.validate (.number m) := by
  have hinteger := fun rules => Rules.reasons_congr (Number.order?_int64_congr h) rules
  have hfloat := fun rules => Rules.reasons_congr (Number.order?_binary64_congr h) rules
  cases field <;>
    simp [Field.validate, Field.reasons, Field.reasonsPresent, wrongKind, embedded, kind_number_eq,
      Number.whole?_congr h, hinteger, hfloat]

/-- **A field does not tell them apart.** -/
theorem validate_eq (h : value.Alike value') (field : Field) :
    field.validate value = field.validate value' := by
  induction h generalizing field with
  | number hexact => exact validate_number hexact field
  | array hlength _ ih =>
      exact field.validate_array_congr hlength fun i item x y _ hx hy => ih i x y hx hy item
  | object hkeys _ ih =>
      refine field.validate_object_congr fun name required schema _ => ?_
      exact Schema.validate_eq_of_members hkeys fun _ field _ i x y hx hy =>
        ih i field.name x y hx hy field
  | _ => rfl

/-- **Neither does a schema.** -/
theorem schema_validate_eq (h : value.Alike value') (schema : Schema) :
    schema.validate value = schema.validate value' := by
  cases h with
  | number hexact => exact schema.validate_eq_of_not_object (by simp) (by simp)
  | array hlength hitems => exact schema.validate_eq_of_not_object (by simp) (by simp)
  | object hkeys hmembers =>
      exact Schema.validate_eq_of_members hkeys fun _ field _ i x y hx hy =>
        (hmembers i field.name x y hx hy).validate_eq field
  | _ => rfl

end Json.Alike

end SchemaCheck
