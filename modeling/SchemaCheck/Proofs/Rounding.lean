import SchemaCheck.Proofs.Exact
import SchemaCheck.Proofs.Json.Alike
import SchemaCheck.Proofs.Relaxation
import SchemaCheck.Proofs.Spec.Written
import SchemaCheck.Proofs.Truth

/-!
# Rounding keeps the order

How the binary number nearest to a number compares with a limit.

* `Finite.rounded`: the magnitude that a number of grains is rounded to.  It is not past any binary
  number (`rounded_le`, `le_rounded`), and so with a sign neither (`ofRatio_le`, `le_ofRatio`).
* `Json.Number.RoundsOnto`: the binary number nearest to a number is the limit.
* `lt_limit_iff` and `limit_lt_iff`: rounding hides that a number is beyond a limit by rounding it
  onto the limit, and in no other way.
* `between_iff`: rounding brings a number between two limits in no other way either.
* `RoundsOnto.value_eq`, `RoundsOnto.value_eq_zero`: what a binary number can be, and what is not
  zero, is not rounded onto another number, or onto zero.
-/

namespace SchemaCheck

/-! ### Rounding does not pass a binary number -/

/-- A quotient is not rounded above a natural number that it does not exceed. -/
lemma divRound_le_of_le {n q den : Nat} (hden : 0 < den) (h : n ≤ q * den) :
    divRound n den ≤ q := by
  rcases Nat.lt_or_ge n (q * den) with hlt | hge
  · have hdiv : n / den < q := (Nat.div_lt_iff_lt_mul hden).2 hlt
    exact Nat.le_trans (divRound_le n den) hdiv
  · rw [Nat.le_antisymm h hge, divRound_mul q hden]

lemma le_divRound_of_le {n q den : Nat} (hden : 0 < den) (h : q * den ≤ n) :
    q ≤ divRound n den :=
  Nat.le_trans ((Nat.le_div_iff_mul_le hden).2 h) (div_le_divRound n den)

namespace Binary64

namespace Finite

/-- The magnitude that a number of grains is rounded to, if there is room for it. -/
def rounded (n : Nat) : Nat := divRound n (Nat.pow 2 (excess n)) * Nat.pow 2 (excess n)

/-- A greater number has no fewer bits too many. -/
lemma excess_le_excess {n m : Nat} (h : n ≤ m) : excess n ≤ excess m := by
  have hlog : n.log2 ≤ m.log2 := by
    by_cases hzero : n = 0
    · rw [hzero, Nat.log2_zero]
      exact Nat.zero_le _
    · exact (Nat.le_log2 (by omega)).2 (Nat.le_trans (Nat.log2_self_le hzero) h)
  unfold excess
  omega

variable {n : Nat} {x : Finite}

/-- A number of grains is not rounded past a binary number above it. -/
lemma rounded_le (h : n ≤ x.magnitude) : rounded n ≤ x.magnitude := by
  have hexcess : excess n ≤ x.shift := excess_magnitude x ▸ excess_le_excess h
  have hmultiple : x.magnitude =
      x.significand * Nat.pow 2 (x.shift - excess n) * Nat.pow 2 (excess n) := by
    simp only [magnitude, Nat.pow_eq]
    rw [Nat.mul_assoc, ← Nat.pow_add, Nat.sub_add_cancel hexcess]
  rw [hmultiple] at h ⊢
  exact Nat.mul_le_mul_right _ (divRound_le_of_le (Nat.two_pow_pos _) h)

/-- A number of grains is not rounded past a binary number below it. -/
lemma le_rounded (h : x.magnitude ≤ n) : x.magnitude ≤ rounded n := by
  have hexcess : x.shift ≤ excess n := excess_magnitude x ▸ excess_le_excess h
  rcases Nat.lt_or_ge x.shift (excess n) with hlt | hge
  · -- The significand of the rounded number is full, with a greater shift.
    have hfull : Nat.pow 2 52 ≤ divRound n (Nat.pow 2 (excess n)) :=
      Nat.le_trans (pow_le_div_excess (by omega)) (div_le_divRound _ _)
    calc x.magnitude ≤ Nat.pow 2 53 * Nat.pow 2 x.shift :=
          Nat.mul_le_mul_right _ (Nat.le_of_lt x.significand_lt)
      _ = Nat.pow 2 52 * Nat.pow 2 (x.shift + 1) := by
          simp only [Nat.pow_eq, Nat.pow_succ 2 x.shift]
          omega
      _ ≤ Nat.pow 2 52 * Nat.pow 2 (excess n) :=
          Nat.mul_le_mul_left _ (Nat.pow_le_pow_right (by decide) hlt)
      _ ≤ rounded n := Nat.mul_le_mul_right _ hfull
  · have hshift : x.shift = excess n := Nat.le_antisymm hexcess hge
    rw [magnitude, hshift] at h ⊢
    exact Nat.mul_le_mul_right _ (le_divRound_of_le (Nat.two_pow_pos _) h)

/-- The magnitude of the binary number near to a natural one is that number, rounded. -/
lemma magnitude_of_ofRatio? {negative : Bool} (h : ofRatio? negative n 1 = some x) :
    x.magnitude = rounded n := by
  simp only [ofRatio?, Nat.div_one, Nat.one_mul] at h
  rw [rounded]
  split at h
  · next hfull =>
      split at h
      · obtain rfl := Option.some.inj h
        rw [hfull, magnitude]
        simp only [Nat.pow_eq, Nat.pow_succ 2 (excess n)]
        omega
      · cases h
  · split at h
    · obtain rfl := Option.some.inj h
      rfl
    · cases h

/-- What there is no room for is beyond every binary number. -/
lemma magnitude_lt_of_ofRatio?_eq_none {negative : Bool} (h : ofRatio? negative n 1 = none)
    (x : Finite) : x.magnitude < n := by
  by_contra hle
  rw [Nat.not_lt] at hle
  have hexcess : excess n ≤ x.shift := excess_magnitude x ▸ excess_le_excess hle
  have hshift := x.shift_le
  have hrounded := rounded_le hle
  simp only [ofRatio?, Nat.div_one, Nat.one_mul] at h
  split at h
  · next hfull =>
      split at h
      · cases h
      · next hroom =>
          have hsame : excess n = x.shift := by omega
          rw [rounded, hfull, hsame, magnitude] at hrounded
          have hlt := x.significand_lt
          have := Nat.le_of_mul_le_mul_right hrounded (Nat.two_pow_pos _)
          omega
  · split at h
    · cases h
    · omega

/-- The number of grains with a sign and a magnitude. -/
def signed (negative : Bool) (n : Nat) : Int := if negative then -n else n

@[simp] lemma signed_true (n : Nat) : signed true n = -n := rfl

@[simp] lemma signed_false (n : Nat) : signed false n = n := rfl

lemma grains_eq_signed (x : Finite) : x.grains = signed x.negative x.magnitude := rfl

lemma grains_of_ofRatio? {negative : Bool} {y : Finite} (h : ofRatio? negative n 1 = some y) :
    y.grains = signed negative (rounded n) := by
  rw [grains_eq_signed, negative_of_ofRatio? h, magnitude_of_ofRatio? h]

/-- Grains are the magnitude, or its negative. -/
lemma grains_eq_or (x : Finite) : x.grains = x.magnitude ∨ x.grains = -x.magnitude := by
  rw [grains_eq_signed]
  cases x.negative
  · exact .inl rfl
  · exact .inr rfl

/-- **Rounding does not go past a binary number** that is above. -/
lemma signed_rounded_le {negative : Bool} (h : signed negative n ≤ x.grains) :
    signed negative (rounded n) ≤ x.grains := by
  have habove := @rounded_le n x
  have hbelow := @le_rounded n x
  have hsign := x.grains_eq_or
  cases negative <;> simp only [signed_true, signed_false] at h ⊢ <;> omega

/-- **Rounding does not go past a binary number** that is below. -/
lemma le_signed_rounded {negative : Bool} (h : x.grains ≤ signed negative n) :
    x.grains ≤ signed negative (rounded n) := by
  have habove := @rounded_le n x
  have hbelow := @le_rounded n x
  have hsign := x.grains_eq_or
  cases negative <;> simp only [signed_true, signed_false] at h ⊢ <;> omega

end Finite

lemma finite_le_finite {x y : Finite} :
    Binary64.finite x ≤ .finite y ↔ x.grains ≤ y.grains := by
  simp [le_iff_place?, place?]

/-- A ratio without a binary number near to it is read as infinite. -/
lemma ofRatio_eq_infinite {negative : Bool} {num den : Nat}
    (h : Finite.ofRatio? negative num den = none) :
    ofRatio negative num den = .infinite negative := by
  unfold ofRatio
  rw [h]

variable {negative : Bool} {n : Nat} {x : Finite}

/-- **Rounding does not pass a binary number** that is above. -/
theorem ofRatio_le (h : Finite.signed negative n ≤ x.grains) :
    ofRatio negative n 1 ≤ .finite x := by
  cases hratio : Finite.ofRatio? negative n 1 with
  | none =>
      have hlt := Finite.magnitude_lt_of_ofRatio?_eq_none hratio x
      rw [ofRatio_eq_infinite hratio]
      cases negative with
      | true => exact .inl rfl
      | false =>
          have hsign := x.grains_eq_or
          simp only [Finite.signed_false] at h
          omega
  | some y =>
      rw [ofRatio_eq_finite hratio, finite_le_finite, Finite.grains_of_ofRatio? hratio]
      exact Finite.signed_rounded_le h

/-- **Rounding does not pass a binary number** that is below. -/
theorem le_ofRatio (h : x.grains ≤ Finite.signed negative n) :
    .finite x ≤ ofRatio negative n 1 := by
  cases hratio : Finite.ofRatio? negative n 1 with
  | none =>
      have hlt := Finite.magnitude_lt_of_ofRatio?_eq_none hratio x
      rw [ofRatio_eq_infinite hratio]
      cases negative with
      | true =>
          have hsign := x.grains_eq_or
          simp only [Finite.signed_true] at h
          omega
      | false => exact .inl rfl
  | some y =>
      rw [ofRatio_eq_finite hratio, finite_le_finite, Finite.grains_of_ofRatio? hratio]
      exact Finite.le_signed_rounded h

/-! ### Values of limits -/

/-- The rational number that a binary number is, where it is one. -/
def value : Binary64 → ℚ
  | .finite x => x.value
  | _ => 0

lemma IsFinite.ne_nan {x : Binary64} (h : x.IsFinite) : x ≠ .nan := by
  obtain ⟨y, rfl⟩ := h
  simp

lemma value_zero : value Limit.zero = 0 := by
  change Finite.value (.zero false) = 0
  rw [Finite.value, Finite.zero, Nat.cast_zero, mul_zero, zero_mul]

end Binary64

namespace Json.Number

variable {n : Number} {x : Binary64.Finite}

/-- The grains of an integer are its magnitude in grains, with its sign. -/
lemma exact_whole (k : Int) : (whole k).exact =
    Binary64.Finite.signed (k < 0) (k.natAbs * Binary64.grainsPerUnit) := by
  rw [exact]
  generalize Binary64.grainsPerUnit = unit
  rcases lt_or_ge k 0 with hneg | hnonneg
  · rw [decide_eq_true hneg, Binary64.Finite.signed_true, Int.natCast_mul,
      Int.ofNat_natAbs_of_nonpos (Int.le_of_lt hneg), Int.neg_mul, Int.neg_neg]
  · rw [decide_eq_false (Int.not_lt.2 hnonneg), Binary64.Finite.signed_false, Int.natCast_mul,
      Int.natAbs_of_nonneg hnonneg]

/-- A number that is at most a binary one is rounded to at most that. -/
lemma toBinary64_le (h : n.exact ≤ x.grains) : n.toBinary64 ≤ .finite x := by
  cases n with
  | whole k =>
      rw [toBinary64, Binary64.ofInt]
      exact Binary64.ofRatio_le (exact_whole k ▸ h)
  | float y => exact Binary64.finite_le_finite.2 h

/-- A number that is at least a binary one is rounded to at least that. -/
lemma le_toBinary64 (h : x.grains ≤ n.exact) : .finite x ≤ n.toBinary64 := by
  cases n with
  | whole k =>
      rw [toBinary64, Binary64.ofInt]
      exact Binary64.le_ofRatio (exact_whole k ▸ h)
  | float y => exact Binary64.finite_le_finite.2 h

lemma exact_le_grains_iff : n.exact ≤ x.grains ↔ n.value ≤ x.value := by
  have hpos : (0 : ℚ) < Binary64.grainsPerUnit := Nat.cast_pos.2 Binary64.grainsPerUnit_pos
  rw [← Int.cast_le (R := ℚ), cast_exact, x.cast_grains, mul_le_mul_iff_left₀ hpos]

lemma grains_le_exact_iff : x.grains ≤ n.exact ↔ x.value ≤ n.value := by
  have hpos : (0 : ℚ) < Binary64.grainsPerUnit := Nat.cast_pos.2 Binary64.grainsPerUnit_pos
  rw [← Int.cast_le (R := ℚ), cast_exact, x.cast_grains, mul_le_mul_iff_left₀ hpos]

/-- The binary number nearest to a number is the limit. -/
def RoundsOnto (n : Number) (limit : Binary64) : Prop := n.toBinary64.order? limit = some .eq

instance (n : Number) (limit : Binary64) : Decidable (n.RoundsOnto limit) :=
  inferInstanceAs (Decidable (_ = _))

section

variable {limit other : Binary64}

/-- A rounded number is at most a limit exactly if the number is, or is rounded onto it. -/
lemma le_limit_iff (h : limit.IsFinite) : n.toBinary64 ≤ limit ↔
    n.value ≤ limit.value ∨ n.RoundsOnto limit := by
  obtain ⟨x, rfl⟩ := h
  constructor
  · rintro (hlt | heq)
    · refine .inl (le_of_lt (lt_of_not_ge fun hge => ?_))
      have hle := le_toBinary64 (grains_le_exact_iff.2 hge)
      exact (Binary64.not_lt_iff_le n.toBinary64_ne_nan (by simp)).2 hle hlt
    · exact .inr heq
  · rintro (hle | heq)
    · exact toBinary64_le (exact_le_grains_iff.2 hle)
    · exact .inr heq

/-- A rounded number is at least a limit exactly if the number is, or is rounded onto it. -/
lemma limit_le_iff (h : limit.IsFinite) : limit ≤ n.toBinary64 ↔
    limit.value ≤ n.value ∨ n.RoundsOnto limit := by
  obtain ⟨x, rfl⟩ := h
  constructor
  · intro hle
    rcases Binary64.le_iff_order?_gt.1 hle with hgt | heq
    · refine .inl (le_of_lt (lt_of_not_ge fun hge => ?_))
      have hle := toBinary64_le (exact_le_grains_iff.2 hge)
      exact (Binary64.not_lt_iff_le (by simp) n.toBinary64_ne_nan).2 hle
        (Binary64.order?_eq_gt_iff.1 hgt)
    · exact .inr heq
  · rintro (hle | heq)
    · exact le_toBinary64 (grains_le_exact_iff.2 hle)
    · exact .inr (Binary64.order?_eq_eq_comm.1 heq)

/-- A rounded number is below a limit exactly if the number is, and is not rounded onto it. -/
lemma lt_limit_iff (h : limit.IsFinite) : n.toBinary64 < limit ↔
    n.value < limit.value ∧ ¬n.RoundsOnto limit := by
  rw [← not_iff_not, Binary64.not_lt_iff_le n.toBinary64_ne_nan h.ne_nan, limit_le_iff h,
    not_and_or, not_lt, not_not]

lemma limit_lt_iff (h : limit.IsFinite) : limit < n.toBinary64 ↔
    limit.value < n.value ∧ ¬n.RoundsOnto limit := by
  rw [← not_iff_not, Binary64.not_lt_iff_le h.ne_nan n.toBinary64_ne_nan, le_limit_iff h,
    not_and_or, not_lt, not_not]

/-- Finite limits are in the order of their values. -/
lemma value_le_value_iff (hlimit : limit.IsFinite) (hother : other.IsFinite) :
    limit.value ≤ other.value ↔ limit ≤ other := by
  obtain ⟨x, rfl⟩ := hlimit
  obtain ⟨y, rfl⟩ := hother
  rw [Binary64.finite_le_finite]
  exact (exact_le_grains_iff (n := .float x)).symm

/-- What a number is rounded onto has the grains of the limit. -/
lemma RoundsOnto.exists_finite {x : Binary64.Finite} (h : n.RoundsOnto (.finite x)) :
    ∃ z, n.toBinary64 = .finite z ∧ z.grains = x.grains := by
  rw [RoundsOnto] at h
  cases hn : n.toBinary64 with
  | finite z =>
      rw [hn, Binary64.order?, Option.some.injEq, Int.compare_eq_eq] at h
      exact ⟨z, rfl, h⟩
  | infinite negative =>
      rw [hn] at h
      cases negative <;> cases h
  | nan => exact absurd hn n.toBinary64_ne_nan

/-- A number that is rounded onto a limit is compared as the limit is. -/
lemma RoundsOnto.le_iff (h : n.RoundsOnto limit) (hlimit : limit.IsFinite)
    (hother : other.IsFinite) : n.toBinary64 ≤ other ↔ limit.value ≤ other.value := by
  rw [value_le_value_iff hlimit hother]
  obtain ⟨x, rfl⟩ := hlimit
  obtain ⟨y, rfl⟩ := hother
  obtain ⟨z, hz, hgrains⟩ := h.exists_finite
  rw [hz, Binary64.finite_le_finite, Binary64.finite_le_finite, hgrains]

/-- A number that is rounded onto a limit is compared as the limit is. -/
lemma RoundsOnto.ge_iff (h : n.RoundsOnto limit) (hlimit : limit.IsFinite)
    (hother : other.IsFinite) : other ≤ n.toBinary64 ↔ other.value ≤ limit.value := by
  rw [value_le_value_iff hother hlimit]
  obtain ⟨x, rfl⟩ := hlimit
  obtain ⟨y, rfl⟩ := hother
  obtain ⟨z, hz, hgrains⟩ := h.exists_finite
  rw [hz, Binary64.finite_le_finite, Binary64.finite_le_finite, hgrains]

/-- **Rounding keeps the order**: a number is not rounded onto a limit across a binary number. -/
lemma RoundsOnto.value_le (h : n.RoundsOnto limit) (hlimit : limit.IsFinite)
    (hother : other.IsFinite) (hle : n.value ≤ other.value) : limit.value ≤ other.value :=
  (h.le_iff hlimit hother).1 ((le_limit_iff hother).2 (.inl hle))

lemma RoundsOnto.le_value (h : n.RoundsOnto limit) (hlimit : limit.IsFinite)
    (hother : other.IsFinite) (hle : other.value ≤ n.value) : other.value ≤ limit.value :=
  (h.ge_iff hlimit hother).1 ((limit_le_iff hother).2 (.inl hle))

/-- Rounding brings a number between two limits that it was not between before by rounding it onto
one of them. -/
lemma between_iff (hlimit : limit.IsFinite) (hother : other.IsFinite) :
    limit ≤ n.toBinary64 ∧ n.toBinary64 ≤ other ↔
      (limit.value ≤ n.value ∧ n.value ≤ other.value) ∨
        limit.value ≤ other.value ∧ (n.RoundsOnto limit ∨ n.RoundsOnto other) := by
  constructor
  · rintro ⟨hstart, hstop⟩
    rcases (limit_le_iff hlimit).1 hstart with hvalue | hround
    · rcases (le_limit_iff hother).1 hstop with hvalue' | hround
      · exact .inl ⟨hvalue, hvalue'⟩
      · exact .inr ⟨(hround.ge_iff hother hlimit).1 hstart, .inr hround⟩
    · exact .inr ⟨(hround.le_iff hlimit hother).1 hstop, .inl hround⟩
  · rintro (⟨hstart, hstop⟩ | ⟨hle, hround | hround⟩)
    · exact ⟨(limit_le_iff hlimit).2 (.inl hstart), (le_limit_iff hother).2 (.inl hstop)⟩
    · exact ⟨(limit_le_iff hlimit).2 (.inr hround), (hround.le_iff hlimit hother).2 hle⟩
    · exact ⟨(hround.ge_iff hother hlimit).2 hle, (le_limit_iff hother).2 (.inr hround)⟩

/-- A number that is a binary number is rounded onto nothing else. -/
lemma RoundsOnto.value_eq (h : n.RoundsOnto limit) (hlimit : limit.IsFinite)
    (hother : other.IsFinite) (heq : other.value = n.value) : limit.value = n.value :=
  heq ▸ le_antisymm (h.value_le hlimit hother heq.ge) (h.le_value hlimit hother heq.le)

end

/-- There is a binary number next to zero on either side. -/
lemma exists_grains_eq (negative : Bool) :
    ∃ x : Binary64.Finite, x.grains = Binary64.Finite.signed negative 1 :=
  ⟨⟨negative, 1, 0, by decide, by decide, .inr rfl⟩, rfl⟩

/-- Only zero is rounded onto zero. -/
lemma RoundsOnto.value_eq_zero {negative : Bool}
    (h : n.RoundsOnto (.finite (.zero negative))) : n.value = 0 := by
  have hzero : (Binary64.Finite.zero negative).grains = 0 := Binary64.grains_zero negative
  have hexact : n.exact = 0 := by
    refine Int.le_antisymm (Int.not_lt.1 fun hpos => ?_) (Int.not_lt.1 fun hneg => ?_)
    · obtain ⟨x, hx⟩ := exists_grains_eq false
      have hle : x.grains ≤ n.exact := hx ▸ hpos
      have habove := h.le_value ⟨_, rfl⟩ ⟨x, rfl⟩ (grains_le_exact_iff.1 hle)
      rw [value_le_value_iff ⟨_, rfl⟩ ⟨_, rfl⟩, Binary64.finite_le_finite, hzero, hx] at habove
      exact absurd habove (by decide)
    · obtain ⟨x, hx⟩ := exists_grains_eq true
      have hle : n.exact ≤ x.grains := by
        rw [hx, Binary64.Finite.signed_true]
        omega
      have hbelow := h.value_le ⟨_, rfl⟩ ⟨x, rfl⟩ (exact_le_grains_iff.1 hle)
      rw [value_le_value_iff ⟨_, rfl⟩ ⟨_, rfl⟩, Binary64.finite_le_finite, hzero, hx] at hbelow
      exact absurd hbelow (by decide)
  have hcast := n.cast_exact
  rw [hexact, Int.cast_zero, eq_comm, mul_eq_zero] at hcast
  exact hcast.resolve_right (Nat.cast_ne_zero.2 (Nat.ne_of_gt Binary64.grainsPerUnit_pos))

end Json.Number

end SchemaCheck
