import Mathlib.Tactic.Common
import SchemaCheck.Json.Scan
import SchemaCheck.Proofs.Rounding

/-!
# Significands that are in reach

A reader makes a number of a significand and a power of ten by rounding twice.  Where the exact
number is far enough below the greatest finite one, both roundings leave it finite.

* `divRound_le_divRound`, `Finite.rounded_le_rounded`: rounding is monotone, and so what is below a
  ratio that has a finite number near to it has one too (`Finite.isSome_ofRatio?_of_le`).
* `Json.Fits`: the nearest numbers to a significand and to a power of ten have a finite product.
* `Json.fits_ceiling`: the greatest significand in reach of each power fits it.
* `Json.isSome_scaled`: so every significand in reach is scaled.
-/

namespace SchemaCheck

/-! ### Rounding is monotone -/

/-- Rounding a quotient keeps order. -/
lemma divRound_le_divRound {n m : Nat} (den : Nat) (h : n ≤ m) :
    divRound n den ≤ divRound m den := by
  rcases Nat.lt_or_eq_of_le (Nat.div_le_div_right h : n / den ≤ m / den) with hlt | heq
  · calc divRound n den ≤ n / den + 1 := divRound_le n den
      _ ≤ m / den := hlt
      _ ≤ divRound m den := div_le_divRound m den
  · have hn := Nat.div_add_mod n den
    have hm := Nat.div_add_mod m den
    rw [heq] at hn
    have hmod : n % den ≤ m % den := by omega
    unfold divRound
    grind

namespace Binary64.Finite

/-- **Rounding to binary numbers keeps order.** -/
lemma rounded_le_rounded {n m : Nat} (h : n ≤ m) : rounded n ≤ rounded m := by
  have hexcess := excess_le_excess h
  rcases Nat.lt_or_eq_of_le hexcess with hlt | heq
  · -- The greater one has a greater shift, and its significand is full.
    have hbelow : divRound n (Nat.pow 2 (excess n)) ≤ Nat.pow 2 53 := by
      simpa using divRound_le_pow n 1
    have hfull : Nat.pow 2 52 ≤ divRound m (Nat.pow 2 (excess m)) :=
      Nat.le_trans (pow_le_div_excess (by omega)) (div_le_divRound _ _)
    calc rounded n ≤ Nat.pow 2 53 * Nat.pow 2 (excess n) := Nat.mul_le_mul_right _ hbelow
      _ = Nat.pow 2 52 * Nat.pow 2 (excess n + 1) := by
          simp only [Nat.pow_eq, Nat.pow_succ 2 (excess n)]
          omega
      _ ≤ Nat.pow 2 52 * Nat.pow 2 (excess m) :=
          Nat.mul_le_mul_left _ (Nat.pow_le_pow_right (by decide) hlt)
      _ ≤ rounded m := Nat.mul_le_mul_right _ hfull
  · rw [rounded, rounded, heq]
    exact Nat.mul_le_mul_right _ (divRound_le_divRound _ h)

/-- There is room for a ratio below the greatest shift, and at it as long as the significand is not
rounded up to one bit more. -/
lemma isSome_ofRatio?_iff {negative : Bool} {num den : Nat} :
    (ofRatio? negative num den).isSome ↔ excess (num / den) < 2045 ∨ excess (num / den) = 2045 ∧
      divRound num (den * Nat.pow 2 (excess (num / den))) ≠ Nat.pow 2 53 := by
  unfold ofRatio?
  dsimp only
  split
  · next hfull =>
      split
      · next fits => exact iff_of_true rfl (.inl (by omega))
      · refine iff_of_false (by simp) ?_
        rintro (hsmall | ⟨-, hroom⟩)
        · omega
        · exact hroom hfull
  · next hroom =>
      split
      · next fits =>
          refine iff_of_true rfl ?_
          rcases Nat.lt_or_eq_of_le fits with hsmall | hlast
          · exact .inl hsmall
          · exact .inr ⟨hlast, hroom⟩
      · refine iff_of_false (by simp) ?_
        rintro (hsmall | ⟨hlast, -⟩) <;> omega

/-- A smaller ratio has a binary number where a larger one has. -/
lemma isSome_ofRatio?_of_le {negative negative' : Bool} {num num' den : Nat}
    (hle : num ≤ num') (h : (ofRatio? negative num' den).isSome) :
    (ofRatio? negative' num den).isSome := by
  have hexcess : excess (num / den) ≤ excess (num' / den) :=
    excess_le_excess (Nat.div_le_div_right hle)
  rw [isSome_ofRatio?_iff] at h ⊢
  rcases h with hsmall | ⟨hlast, hroom⟩
  · exact .inl (by omega)
  · rcases Nat.lt_or_eq_of_le hexcess with hlt | heq
    · exact .inl (by omega)
    · refine .inr ⟨by omega, ?_⟩
      have hlimit := divRound_le_pow num' den
      have hround : divRound num (den * Nat.pow 2 (excess (num / den))) ≤
          divRound num' (den * Nat.pow 2 (excess (num' / den))) := by
        rw [heq]
        exact divRound_le_divRound _ hle
      omega

end Binary64.Finite

namespace Json

open Binary64 (Finite grainsPerUnit grainsPerUnit_pos)

/-! ### Significands and powers -/

/-- The number nearest to a natural number. -/
def nearest (n : Nat) : Finite := (Finite.ofNat? false n).getD (.zero false)

/-- There is room for a number near to a natural number. -/
def HasRoom (n : Nat) : Prop := (Finite.ofNat? false n).isSome

instance : DecidablePred HasRoom := fun _ => inferInstanceAs (Decidable (_ = _))

/-- The numbers nearest to a significand and to a power of ten have a finite product. -/
def Fits (significand k : Nat) : Prop :=
  (Finite.ofRatio? false ((nearest significand).magnitude * (powerOfTen k).magnitude)
    grainsPerUnit).isSome

instance (significand k : Nat) : Decidable (Fits significand k) :=
  inferInstanceAs (Decidable (_ = _))

section

variable {n m significand significand' k k' : Nat}

/-- A smaller number has room where a larger one has. -/
lemma HasRoom.of_le (hm : HasRoom m) (h : n ≤ m) : HasRoom n :=
  Finite.isSome_ofRatio?_of_le (Nat.mul_le_mul_right _ h) hm

lemma HasRoom.magnitude_nearest (h : HasRoom n) :
    (nearest n).magnitude = Finite.rounded (n * grainsPerUnit) := by
  obtain ⟨x, hx⟩ := Option.isSome_iff_exists.1 h
  rw [nearest, hx]
  exact Finite.magnitude_of_ofRatio? hx

/-- The nearest binary numbers are in the order of the numbers. -/
lemma HasRoom.magnitude_nearest_le (hm : HasRoom m) (h : n ≤ m) :
    (nearest n).magnitude ≤ (nearest m).magnitude := by
  rw [hm.magnitude_nearest, (hm.of_le h).magnitude_nearest]
  exact Finite.rounded_le_rounded (Nat.mul_le_mul_right _ h)

lemma power_le_power (h : k ≤ k') : Nat.pow 10 k ≤ Nat.pow 10 k' :=
  Nat.pow_le_pow_right (by decide) h

/-- The greatest power of ten that is used is in the range of binary numbers. -/
lemma hasRoom_power : HasRoom (Nat.pow 10 powerLimit) := by
  decide +kernel

/-- What fits can be scaled up. -/
lemma Fits.exists_mul (h : Fits significand k) :
    ∃ y, (nearest significand).mul (powerOfTen k) = .finite y := by
  -- The sign does not matter for the room that there is.
  have hsome : (Finite.ofRatio? ((nearest significand).negative != (powerOfTen k).negative)
      ((nearest significand).magnitude * (powerOfTen k).magnitude) grainsPerUnit).isSome :=
    Finite.isSome_ofRatio?_of_le (Nat.le_refl _) h
  obtain ⟨y, hy⟩ := Option.isSome_iff_exists.1 hsome
  exact ⟨y, Binary64.ofRatio_eq_finite hy⟩

/-- What fits leaves room for what is smaller. -/
lemma Fits.of_le (h : Fits significand' k') (hroom : HasRoom significand')
    (hsignificand : significand ≤ significand') (hk : k ≤ k') (hlimit : k' ≤ powerLimit) :
    Fits significand k := by
  have hpower : HasRoom (Nat.pow 10 k') := hasRoom_power.of_le (power_le_power hlimit)
  refine Finite.isSome_ofRatio?_of_le (Nat.mul_le_mul ?_ ?_) h
  · exact hroom.magnitude_nearest_le hsignificand
  · exact hpower.magnitude_nearest_le (power_le_power hk)

end

/-! ### What is in reach -/

/-- No shortest decimal has a greater significand. -/
def longest : Nat := Nat.pow 10 17

/-- Half a step below the number before the greatest finite one. -/
def reach : Nat := Nat.pow 2 1024 - 3 * Nat.pow 2 970

/-- The greatest significand that a power of ten leaves in reach. -/
def ceiling (k : Nat) : Nat := min longest (reach / Nat.pow 10 k)

lemma hasRoom_longest : HasRoom longest := by
  decide +kernel

lemma reach_lt : reach < Nat.pow 10 (powerLimit + 1) := by
  decide +kernel

/-- Up to this power every significand is in reach. -/
lemma ceiling_eq_longest : ceiling 291 = longest := by
  decide +kernel

/-- **The greatest significands in reach fit**, by computation for each of the powers that there is
a ceiling for. -/
lemma fits_ceiling : ∀ k < 18, Fits (ceiling (291 + k)) (291 + k) := by
  decide +kernel

variable {significand k : Nat} {exponent : Int}

/-- **What is within reach fits**, of the significands of shortest decimals. -/
lemma fits_of_le_reach (hlongest : significand ≤ longest) (hk : k ≤ powerLimit)
    (h : significand * Nat.pow 10 k ≤ reach) : Fits significand k := by
  have hroom (k : Nat) : HasRoom (ceiling k) := hasRoom_longest.of_le (Nat.min_le_left _ _)
  rcases Nat.le_total k 291 with hsmall | hlarge
  · rw [← ceiling_eq_longest] at hlongest
    exact (fits_ceiling 0 (by decide)).of_le (hroom _) hlongest hsmall (by decide)
  · have hceiling : significand ≤ ceiling k :=
      Nat.le_min.2 ⟨hlongest, (Nat.le_div_iff_mul_le (Nat.pow_pos (by decide))).2 h⟩
    rw [powerLimit] at hk
    obtain ⟨above, rfl⟩ := Nat.exists_eq_add_of_le hlarge
    exact (fits_ceiling above (by omega)).of_le (hroom _) hceiling (Nat.le_refl _) hk

lemma isZero_nearest_zero : (nearest 0).isZero = true := by
  decide +kernel

/-- **A significand in reach is scaled.** -/
theorem isSome_scaled (hlongest : significand ≤ longest)
    (h : 0 ≤ exponent → significand * Nat.pow 10 exponent.toNat ≤ reach) :
    (scaled significand exponent).isSome := by
  unfold scaled
  split
  · rfl
  · next hnonneg =>
      have hpower : exponent.toNat = exponent.natAbs := by omega
      have hvalue := hpower ▸ h (by omega)
      split
      · next hk =>
          obtain ⟨y, hy⟩ := (fits_of_le_reach hlongest hk hvalue).exists_mul
          rw [nearest] at hy
          simp only [hy, Option.isSome_some]
      · next hk =>
          -- Beyond the powers at hand only zero is in reach.
          have hzero : significand = 0 := by
            by_contra hne
            have hlarge : Nat.pow 10 (powerLimit + 1) ≤ significand * Nat.pow 10 exponent.natAbs :=
              Nat.le_trans (power_le_power (Nat.lt_of_not_le hk))
                (Nat.le_mul_of_pos_left _ (Nat.pos_of_ne_zero hne))
            have := reach_lt
            omega
          subst hzero
          have hisZero := isZero_nearest_zero
          rw [nearest] at hisZero
          simp only [hisZero, if_true, Option.isSome_some]

end Json

end SchemaCheck
