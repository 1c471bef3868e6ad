import Mathlib.Data.List.Forall2
import Mathlib.Tactic.Common
import SchemaCheck.Proofs.Rounding
import SchemaCheck.Proofs.Unrepeated

/-!
# Float fields and exact values

A float field judges the binary number nearest to a number in the place of the number itself.

* `Check.report_eq_report_iff`: a report tells which rules are broken.
* `Rules.Discern`: rounding does not hide that the number breaks the rules.
* `Rules.agree_iff_discern`: then, and only then, the nearest binary number breaks the rules that
  the value breaks.
* `Rules.Match`: limits of an integer field and of a float field that are the same numbers.
* `Field.validate_float_number_iff`: a float field reports the rules that the exact value breaks
  where its rules discern the number, and there it accepts what an integer field with the same rules
  accepts.
-/

namespace SchemaCheck

/-! ### The same broken rules -/

namespace Check

/-- Both rules are broken, or neither is. -/
def Agree (check check' : Check) : Prop := check.Broken ↔ check'.Broken

lemma SortsApart.nodup_reasons {checks : List Check} (h : SortsApart checks) :
    (checks.map reason).Nodup := by
  have htags : (fun check => check.reason.tag) = Reason.tag ∘ reason := rfl
  rw [SortsApart, htags, ← List.map_map] at h
  exact h.of_map Reason.tag

/-- Of rules with reasons of their own, the report tells which are broken. -/
lemma report_eq_report_iff {checks checks' : List Check}
    (hreasons : checks.map reason = checks'.map reason) (hnodup : (checks.map reason).Nodup) :
    report checks = report checks' ↔ List.Forall₂ Agree checks checks' := by
  induction checks generalizing checks' with
  | nil =>
      obtain rfl := List.map_eq_nil_iff.1 hreasons.symm
      simp
  | cons check checks ih =>
      obtain ⟨check', checks', rfl, hreason, hreasons⟩ := List.map_eq_cons_iff.1 hreasons.symm
      rw [List.map_cons, List.nodup_cons] at hnodup
      have hout : check.reason ∉ report checks := fun h => hnodup.1 ((report_sublist _).subset h)
      have hout' : check.reason ∉ report checks' := fun h =>
        hnodup.1 (hreasons ▸ (report_sublist _).subset h)
      rw [report_cons, report_cons, hreason, List.forall₂_cons, ← ih hreasons.symm hnodup.2, Agree]
      by_cases h : check.Broken <;> by_cases h' : check'.Broken
      · simp [h, h']
      · simp only [h, h', if_true, if_false, iff_false, not_true_eq_false, false_and]
        exact fun heq => hout' (heq ▸ List.mem_cons_self)
      · simp only [h, h', if_true, if_false, iff_true, false_and, iff_false]
        exact fun heq => hout (heq ▸ List.mem_cons_self)
      · simp [h, h']

/-- Of checks that agree one by one, the ones report nothing exactly if the others do. -/
lemma report_eq_nil_congr {checks checks' : List Check} (h : List.Forall₂ Agree checks checks') :
    report checks = [] ↔ report checks' = [] := by
  induction h with
  | nil => exact Iff.rfl
  | @cons check check' _ _ hagree _ ih =>
      rw [report_cons, report_cons]
      by_cases hbroken : check.Broken
      · simp [hbroken, hagree.1 hbroken]
      · simp [hbroken, mt hagree.2 hbroken, ih]

end Check

section

variable {γ δ : Type} {R : γ → δ → Prop}

/-- Lists that are put together of parts of one length are related part by part. -/
lemma forall₂_append_iff {as bs : List γ} {as' bs' : List δ} (h : as.length = as'.length) :
    List.Forall₂ R (as ++ bs) (as' ++ bs') ↔ List.Forall₂ R as as' ∧ List.Forall₂ R bs bs' := by
  induction as generalizing as' with
  | nil =>
      obtain rfl := List.eq_nil_of_length_eq_zero h.symm
      simp
  | cons a as ih =>
      cases as' with
      | nil => cases h
      | cons a' as' => simp [ih (Nat.succ.inj h), and_assoc]

lemma forall₂_toList_iff {ε : Type} {option : Option ε} {f : ε → γ} {g : ε → δ} :
    List.Forall₂ R (option.toList.map f) (option.toList.map g) ↔
      ∀ x, option = some x → R (f x) (g x) := by
  cases option <;> simp

lemma forall₂_toList_of_rel {ε ε' : Type} {S : ε → ε' → Prop} {option : Option ε}
    {option' : Option ε'} {f : ε → γ} {g : ε' → δ} (h : Option.Rel S option option')
    (hmap : ∀ x y, S x y → R (f x) (g y)) :
    List.Forall₂ R (option.toList.map f) (option'.toList.map g) := by
  cases h with
  | none => exact .nil
  | some hsame => exact .cons (hmap _ _ hsame) .nil

end

section

variable {α β β' : Type} [Limit α] [LT β] [LE β] [DecidableLT β] [DecidableLE β]
  [LT β'] [LE β'] [DecidableLT β'] [DecidableLE β']

/-- Two readings of a number break the same rules exactly if they are on the same side of every
limit. -/
lemma Rules.agree_checks_iff {value : α → β} {value' : α → β'} {rules : Rules α} {x : β} {x' : β'} :
    List.Forall₂ Check.Agree (rules.checks value x) (rules.checks value' x') ↔
      (((rules.sign = some .positive → (x < value Limit.zero ↔ x' < value' Limit.zero)) ∧
        (rules.sign = some .negative → (value Limit.zero < x ↔ value' Limit.zero < x'))) ∧
      (∀ min, rules.min = some min → (x < value min ↔ x' < value' min))) ∧
      (∀ max, rules.max = some max → (value max < x ↔ value' max < x')) ∧
      (∀ ranges, rules.ranges = some ranges →
        ((∀ range ∈ ranges, ¬(value range.start ≤ x ∧ x ≤ value range.stop)) ↔
          ∀ range ∈ ranges, ¬(value' range.start ≤ x' ∧ x' ≤ value' range.stop))) := by
  rw [checks, checks, forall₂_append_iff (by simp), forall₂_append_iff (by simp),
    forall₂_append_iff (by simp), and_assoc]
  refine and_congr (and_congr ?_ forall₂_toList_iff)
    (and_congr forall₂_toList_iff forall₂_toList_iff)
  rw [forall₂_toList_iff]
  rcases rules.sign with _ | _ | _ <;> simp [Check.Agree]

end

/-! ### Discerning rules -/

/-- **Rules discern a number** when rounding does not hide that it breaks them: beyond a bound, it
is not rounded onto the bound; outside the ranges, it is not rounded onto an end of one. -/
structure Rules.Discern (rules : Rules Binary64) (n : Json.Number) : Prop where
  min : ∀ min, rules.min = some min → n.value < min.value → ¬n.RoundsOnto min
  max : ∀ max, rules.max = some max → max.value < n.value → ¬n.RoundsOnto max
  ranges : ∀ ranges, rules.ranges = some ranges →
    (∀ range ∈ ranges, ¬(range.start.value ≤ n.value ∧ n.value ≤ range.stop.value)) →
    ∀ range ∈ ranges, range.start.value ≤ range.stop.value →
      ¬n.RoundsOnto range.start ∧ ¬n.RoundsOnto range.stop

namespace Rules

variable {rules : Rules Binary64} {n : Json.Number}

/-- Nothing is hidden of a number that is a binary number itself. -/
lemma discern_of_value_eq (hfinite : rules.All Binary64.IsFinite) {x : Binary64.Finite}
    (h : x.value = n.value) : rules.Discern n := by
  have hvalue (limit : Binary64) (hlimit : limit.IsFinite) (hround : n.RoundsOnto limit) :
      limit.value = n.value :=
    hround.value_eq hlimit ⟨x, rfl⟩ h
  refine ⟨fun min hmin hlt hround => ?_, fun max hmax hlt hround => ?_,
    fun ranges hranges hout range hrange hle => ⟨fun hround => ?_, fun hround => ?_⟩⟩
  · exact hlt.ne (hvalue min (hfinite.min min hmin) hround).symm
  · exact hlt.ne (hvalue max (hfinite.max max hmax) hround)
  · have heq := hvalue _ (hfinite.ranges ranges hranges range hrange).1 hround
    exact hout range hrange ⟨heq.le, heq ▸ hle⟩
  · have heq := hvalue _ (hfinite.ranges ranges hranges range hrange).2 hround
    exact hout range hrange ⟨heq ▸ hle, heq.ge⟩

/-- Rounding changes nothing about ranges exactly if a number outside all of them is rounded onto no
end of one. -/
lemma ranges_agree_iff {ranges : List (Range Binary64)}
    (hfinite : ∀ range ∈ ranges, range.start.IsFinite ∧ range.stop.IsFinite) :
    ((∀ range ∈ ranges, ¬(range.start ≤ n.toBinary64 ∧ n.toBinary64 ≤ range.stop)) ↔
      ∀ range ∈ ranges, ¬(range.start.value ≤ n.value ∧ n.value ≤ range.stop.value)) ↔
    ((∀ range ∈ ranges, ¬(range.start.value ≤ n.value ∧ n.value ≤ range.stop.value)) →
      ∀ range ∈ ranges, range.start.value ≤ range.stop.value →
        ¬n.RoundsOnto range.start ∧ ¬n.RoundsOnto range.stop) := by
  have hrange (range) (h : range ∈ ranges) :=
    Json.Number.between_iff (n := n) (hfinite range h).1 (hfinite range h).2
  constructor
  · rintro hagree hout range h hle
    have hno := mt (hrange range h).2 (hagree.2 hout range h)
    exact ⟨fun hround => hno (.inr ⟨hle, .inl hround⟩), fun hround => hno (.inr ⟨hle, .inr hround⟩)⟩
  · refine fun hclear => ⟨fun hout range h hin => hout range h ((hrange range h).2 (.inl hin)),
      fun hout range h hin => ?_⟩
    rcases (hrange range h).1 hin with hvalue | ⟨hle, hround⟩
    · exact hout range h hvalue
    · exact hround.elim (hclear hout range h hle).1 (hclear hout range h hle).2

/-- **Rounding changes nothing** about which rules a number breaks exactly where the rules discern
it. -/
theorem agree_iff_discern (hfinite : rules.All Binary64.IsFinite) :
    List.Forall₂ Check.Agree (rules.checks id n.toBinary64) (rules.checks Binary64.value n.value) ↔
      rules.Discern n := by
  have hzero : (Limit.zero : Binary64).IsFinite := ⟨_, rfl⟩
  rw [agree_checks_iff]
  constructor
  · rintro ⟨⟨-, hmin⟩, hmax, hranges⟩
    refine ⟨fun min h hlt => ?_, fun max h hlt => ?_, fun ranges h => ?_⟩
    · exact ((Json.Number.lt_limit_iff (hfinite.min min h)).1 ((hmin min h).2 hlt)).2
    · exact ((Json.Number.limit_lt_iff (hfinite.max max h)).1 ((hmax max h).2 hlt)).2
    · exact (ranges_agree_iff (hfinite.ranges ranges h)).1 (hranges ranges h)
  · rintro ⟨hmin, hmax, hranges⟩
    refine ⟨⟨⟨fun _ => ?_, fun _ => ?_⟩, fun min h => ?_⟩, fun max h => ?_, fun ranges h => ?_⟩
    · rw [id, Json.Number.lt_limit_iff hzero, and_iff_left_iff_imp]
      exact fun hlt hround => hlt.ne (hround.value_eq_zero.trans Binary64.value_zero.symm)
    · rw [id, Json.Number.limit_lt_iff hzero, and_iff_left_iff_imp]
      exact fun hlt hround => hlt.ne (Binary64.value_zero.trans hround.value_eq_zero.symm)
    · rw [id, Json.Number.lt_limit_iff (hfinite.min min h), and_iff_left_iff_imp]
      exact hmin min h
    · rw [id, Json.Number.limit_lt_iff (hfinite.max max h), and_iff_left_iff_imp]
      exact hmax max h
    · exact (ranges_agree_iff (hfinite.ranges ranges h)).2 (hranges ranges h)

end Rules

/-- A float field reports the checks that the rounded number fails. -/
lemma Field.validate_float_eq (name : String) (required : Bool) (rules : Rules Binary64)
    (n : Json.Number) : (Field.float name required rules).validate (.number n) =
      (Check.report (rules.checks id n.toBinary64)).map (Violation.here name) := by
  rw [Rules.report_checks (measures_toBinary64 n)]
  simp only [validate, reasons, reasonsPresent, List.append_nil]
  rfl

/-- The reasons of the checks do not depend on how numbers are compared. -/
lemma Rules.map_reason_checks {α β β' : Type} [Limit α] [LT β] [LE β] [DecidableLT β]
    [DecidableLE β] [LT β'] [LE β'] [DecidableLT β'] [DecidableLE β'] (rules : Rules α)
    (value : α → β) (value' : α → β') (x : β) (x' : β') :
    (rules.checks value x).map Check.reason = (rules.checks value' x').map Check.reason := by
  simp only [checks, List.map_append, List.map_map]
  refine congrArg₂ _ (congrArg₂ _ (congrArg₂ _ (List.map_congr_left fun sign _ => ?_) rfl) rfl) rfl
  cases sign <;> rfl

/-! ### The same limits -/

/-- Ends of ranges that are the same numbers. -/
def Range.Match (range : Range Int64) (range' : Range Binary64) : Prop :=
  range'.start.value = range.start.toInt ∧ range'.stop.value = range.stop.toInt

/-- **The same limits** for integers of 64 bits and for binary numbers. -/
structure Rules.Match (rules : Rules Int64) (rules' : Rules Binary64) : Prop where
  min : Option.Rel (fun min min' => Binary64.value min' = min.toInt) rules.min rules'.min
  max : Option.Rel (fun max max' => Binary64.value max' = max.toInt) rules.max rules'.max
  sign : rules.sign = rules'.sign
  ranges : Option.Rel (List.Forall₂ Range.Match) rules.ranges rules'.ranges

/-- Ranges that match have the same numbers between their ends. -/
lemma forall_not_between_iff {ranges : List (Range Int64)} {ranges' : List (Range Binary64)}
    (h : List.Forall₂ Range.Match ranges ranges') (x : ℚ) :
    (∀ range ∈ ranges, ¬((range.start.toInt : ℚ) ≤ x ∧ x ≤ range.stop.toInt)) ↔
      ∀ range ∈ ranges', ¬(range.start.value ≤ x ∧ x ≤ range.stop.value) := by
  induction h with
  | nil => simp
  | cons hfirst _ ih =>
      rw [List.forall_mem_cons, List.forall_mem_cons, ih, hfirst.1, hfirst.2]

/-- The same limits are broken by the same rational numbers. -/
lemma Rules.Match.agree_checks {rules : Rules Int64} {rules' : Rules Binary64}
    (h : rules.Match rules') (x : ℚ) :
    List.Forall₂ Check.Agree (rules.checks (fun limit => (limit.toInt : ℚ)) x)
      (rules'.checks Binary64.value x) := by
  have hzero : ((Limit.zero : Int64).toInt : ℚ) = Binary64.value Limit.zero := by
    rw [Binary64.value_zero]
    exact Int.cast_zero
  rw [checks, checks, ← h.sign]
  refine List.rel_append (List.rel_append (List.rel_append ?_ ?_) ?_) ?_
  · refine forall₂_toList_iff.2 fun sign _ => ?_
    cases sign with
    | positive => rw [Check.Agree, hzero]
    | negative => rw [Check.Agree, hzero]
  · exact forall₂_toList_of_rel h.min fun min min' hvalue => by rw [Check.Agree, hvalue]
  · exact forall₂_toList_of_rel h.max fun max max' hvalue => by rw [Check.Agree, hvalue]
  · exact forall₂_toList_of_rel h.ranges fun ranges ranges' hsame => forall_not_between_iff hsame x

lemma Violation.here_injective (name : String) : Function.Injective (here name) :=
  fun _ _ h => (Violation.mk.inj h).2.2

/-- **A float field judges a number by its exact value** where rounding does not hide that the value
breaks the rules, and nowhere else.  It does so for every number that is a binary number itself; and
where it does, an integer field with the same limits accepts the same whole numbers. -/
theorem Field.validate_float_number_iff (name : String) (required : Bool)
    {rules : Rules Binary64} (hfinite : rules.All Binary64.IsFinite) (n : Json.Number) :
    ((Field.float name required rules).validate (.number n) =
        (Check.report (rules.checks Binary64.value n.value)).map (Violation.here name) ↔
      rules.Discern n) ∧
    ((∃ x : Binary64.Finite, x.value = n.value) → rules.Discern n) ∧
    ∀ whole : Rules Int64, whole.Match rules → n.value.isInt → rules.Discern n →
      ((Field.integer name required whole).validate (.number n) = [] ↔
        (Field.float name required rules).validate (.number n) = []) := by
  have hreport : (Field.float name required rules).validate (.number n) =
        (Check.report (rules.checks Binary64.value n.value)).map (Violation.here name) ↔
      rules.Discern n := by
    rw [validate_float_eq, (List.map_injective_iff.2 (Violation.here_injective name)).eq_iff,
      Check.report_eq_report_iff (rules.map_reason_checks _ _ _ _)
        (rules.sortsApart_checks _ _).nodup_reasons, Rules.agree_iff_discern hfinite]
  refine ⟨hreport, fun ⟨x, hx⟩ => Rules.discern_of_value_eq hfinite hx,
    fun whole hmatch hint hdiscern => ?_⟩
  rw [hreport.2 hdiscern, validate_integer_number, if_pos hint, List.map_eq_nil_iff,
    List.map_eq_nil_iff]
  exact Check.report_eq_nil_congr (hmatch.agree_checks n.value)

/-! ### Where binary numbers begin to leave out integers -/

/-- The number 2^53, next to which no binary number is odd. -/
def Binary64.Finite.gap : Binary64.Finite :=
  ⟨false, 4503599627370496, 1075, by decide, by decide, .inl (by decide)⟩

lemma Binary64.Finite.value_gap : gap.value = 9007199254740992 := by
  norm_num [gap, value]

lemma Rules.isFinite_gap : Rules.All Binary64.IsFinite { max := some (.finite .gap) } :=
  ⟨nofun, fun _ hmax => ⟨.gap, (Option.some.inj hmax).symm⟩, nofun⟩

lemma Rules.match_gap :
    Rules.Match { max := some 9007199254740992 } { max := some (.finite .gap) } := by
  have hmax : (9007199254740992 : Int64).toInt = 9007199254740992 := by decide
  refine ⟨.none, .some ?_, rfl, .none⟩
  rw [hmax, Int.cast_ofNat]
  exact Binary64.Finite.value_gap

/-- An even number beyond that limit is a binary number, and is reported. -/
theorem Field.validate_float_number_even :
    let rules : Rules Binary64 := { max := some (.finite .gap) }
    let whole : Rules Int64 := { max := some 9007199254740992 }
    let n : Json.Number := .whole 9007199254740994
    rules.All Binary64.IsFinite ∧ whole.Match rules ∧ n.value.isInt ∧ rules.Discern n ∧
      ((Field.float "n" true rules).validate (.number n)).map Violation.message =
        ["n: value should be at most 9007199254740992"] ∧
      (Field.float "n" true rules).validate (.number n) =
        (Check.report (rules.checks Binary64.value n.value)).map (Violation.here "n") ∧
      ((Field.integer "n" true whole).validate (.number n) = [] ↔
        (Field.float "n" true rules).validate (.number n) = []) := by
  intro rules whole n
  have hint : n.value.isInt := by
    rw [Rat.isInt, Json.Number.value, Rat.den_intCast]
    rfl
  obtain ⟨hreport, hrepresentable, haccept⟩ :=
    validate_float_number_iff "n" true Rules.isFinite_gap n
  have hdiscern : rules.Discern n := by
    refine hrepresentable
      ⟨⟨false, 4503599627370497, 1075, by decide, by decide, .inl (by decide)⟩, ?_⟩
    norm_num [n, Binary64.Finite.value, Json.Number.value]
  exact ⟨Rules.isFinite_gap, Rules.match_gap, hint, hdiscern, by decide +kernel,
    hreport.2 hdiscern, haccept whole Rules.match_gap hint hdiscern⟩

/-- **Rounding hides a broken rule**: a float field accepts a number that is one more than its
greatest value, while an integer field with the same limit does not. -/
theorem Field.validate_float_number_odd :
    let rules : Rules Binary64 := { max := some (.finite .gap) }
    let whole : Rules Int64 := { max := some 9007199254740992 }
    let n : Json.Number := .whole 9007199254740993
    rules.All Binary64.IsFinite ∧ whole.Match rules ∧
      Binary64.value (.finite .gap) + 1 = n.value ∧
      (Field.float "n" true rules).validate (.number n) = [] ∧
      (Check.report (rules.checks Binary64.value n.value)).map (Violation.here "n") ≠ [] ∧
      (Field.integer "n" true whole).validate (.number n) ≠ [] := by
  intro rules whole n
  have hvalue : Binary64.value (.finite .gap) + 1 = n.value := by
    norm_num [Binary64.value, Binary64.Finite.value_gap, n, Json.Number.value]
  have hbroken : Binary64.value (.finite .gap) < n.value := hvalue ▸ lt_add_one _
  refine ⟨Rules.isFinite_gap, Rules.match_gap, hvalue, by decide +kernel, ?_, by decide +kernel⟩
  rw [Ne, List.map_eq_nil_iff]
  simp [Rules.checks, rules, hbroken]

end SchemaCheck
