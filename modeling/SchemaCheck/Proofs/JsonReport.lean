import Mathlib.Tactic.Common
import SchemaCheck.Proofs.Decoding
import SchemaCheck.Proofs.Json.Compact
import SchemaCheck.Proofs.Report

/-!
# What the JSON form of a report tells

The JSON form of a report is read again from its line, and then tells all that there is to the
report but the binary numbers among the limits.

* `Report.Sized`: the counts of a report are held in machine words.
* `Schema.inWords_of_mem_validate`: the integers among the limits that are reported have 64 bits.
* `Report.recoverable_toJson`: so the JSON form of a report is read again.
* `Violation.ToldBy`, `Report.ToldBy`: what a value tells of a violation or a report.
* `Report.toldBy_of_blurred_eq`: a value that differs from the JSON form in binary numbers alone
  tells of the report.
-/

namespace SchemaCheck

open Json

/-! ### Counts and limits -/

/-- The indexes on a path. -/
def Path.indexes (path : Path) : List Nat :=
  path.filterMap fun
    | .key _ => none
    | .index i => some i

/-- The counts that a reason shows. -/
def Reason.counts : Reason → List Nat
  | .tooFewCharacters n | .tooManyCharacters n | .tooFewItems n | .tooManyItems n => [n]
  | .fixedLengthMismatch expected found => [expected, found]
  | _ => []

/-- The counts that a violation shows. -/
def Violation.counts (violation : Violation) : List Nat :=
  violation.path.indexes ++ violation.reason.counts

/-- The counts that a report shows. -/
def Report.counts (report : Report) : List Nat :=
  report.count :: report.shown.flatMap Violation.counts

/-- **The counts of a report are held in machine words**, as a program holds what it counts.  Here
they are natural numbers, which have no such limit of their own. -/
def Report.Sized (report : Report) : Prop := ∀ n ∈ report.counts, n < 2 ^ 64

instance (report : Report) : Decidable report.Sized := inferInstanceAs (Decidable (∀ n ∈ _, _))

/-- A limit that is an integer is one of 64 bits. -/
def Bound.InWords : Bound → Prop
  | .integer n => (Number.whole n).InWords
  | .float _ => True

/-- The limits that a reason shows are such. -/
def Reason.InWords (reason : Reason) : Prop := ∀ bound ∈ reason.bounds, bound.InWords

lemma Reason.inWords_of_bounds_eq_nil {reason : Reason} (h : reason.bounds = []) :
    reason.InWords := by
  rw [InWords, h]
  exact List.forall_mem_nil _

lemma Limit.inWords_toBound_int (n : Int64) : (Limit.toBound n).InWords :=
  ⟨n.minValue_le_toInt, Int.lt_of_le_of_lt n.toInt_le (by decide)⟩

lemma Limit.inWords_toBound_binary (x : Binary64) : (Limit.toBound x).InWords := trivial

section

variable {α β : Type} [Limit α] [LT β] [LE β] [DecidableLT β] [DecidableLE β]

/-- The rules for numbers show only limits of their own, each within 64 bits. -/
lemma Rules.inWords_checks (hlimit : ∀ limit : α, (Limit.toBound limit).InWords) (value : α → β)
    (rules : Rules α) (x : β) : ∀ check ∈ rules.checks value x, check.reason.InWords := by
  simp only [checks, List.forall_mem_append, List.forall_mem_map]
  refine ⟨⟨⟨fun sign _ => ?_, fun min _ => ?_⟩, fun max _ => ?_⟩, fun ranges _ => ?_⟩
  · cases sign <;> exact Reason.inWords_of_bounds_eq_nil rfl
  · exact List.forall_mem_singleton.2 (hlimit min)
  · exact List.forall_mem_singleton.2 (hlimit max)
  · intro bound hbound
    simp only [Reason.bounds, List.flatMap_map, List.mem_flatMap] at hbound
    obtain ⟨range, -, hbound⟩ := hbound
    simp only [List.mem_cons, List.not_mem_nil, or_false] at hbound
    rcases hbound with rfl | rfl <;> exact hlimit _

end

/-- The rules for texts show no limits on numbers. -/
lemma TextRules.inWords_checks (rules : TextRules) (text : String) :
    ∀ check ∈ rules.checks text, check.reason.InWords := by
  rw [checks]
  split
  · exact List.forall_mem_singleton.2 (Reason.inWords_of_bounds_eq_nil rfl)
  · simp only [List.forall_mem_append, List.forall_mem_map]
    exact ⟨⟨fun _ _ => Reason.inWords_of_bounds_eq_nil rfl,
      fun _ _ => Reason.inWords_of_bounds_eq_nil rfl⟩,
      fun _ _ => Reason.inWords_of_bounds_eq_nil rfl⟩

lemma Lengths.inWords_checks (lengths : Lengths) (count : Nat) :
    ∀ check ∈ lengths.checks count, check.reason.InWords := by
  simp only [checks, List.forall_mem_append, List.forall_mem_map]
  exact ⟨fun _ _ => Reason.inWords_of_bounds_eq_nil rfl,
    fun _ _ => Reason.inWords_of_bounds_eq_nil rfl⟩

/-- What a field asks of a value shows integers of 64 bits. -/
lemma Field.inWords_checks (field : Field) (value : Json) :
    ∀ check ∈ field.checks value, check.reason.InWords := by
  have single {check : Check} (h : check.reason.bounds = []) :
      ∀ check' ∈ [check], check'.reason.InWords :=
    List.forall_mem_singleton.2 (Reason.inWords_of_bounds_eq_nil h)
  induction field, value using checks_cases with
  | integer name required rules n k hwhole =>
      exact rules.inWords_checks Limit.inWords_toBound_int _ k
  | float name required rules n =>
      exact rules.inWords_checks Limit.inWords_toBound_binary _ n.toBinary64
  | string name required rules text => exact rules.inWords_checks text
  | boolean => exact List.forall_mem_map.2 fun _ _ => Reason.inWords_of_bounds_eq_nil rfl
  | list name required lengths item items => exact lengths.inWords_checks items.length
  | tuple name required lengths fields items =>
      exact List.forall_mem_append.2 ⟨lengths.inWords_checks items.length, single rfl⟩
  | object => exact List.forall_mem_nil _
  | _ => exact single rfl

/-- **The limits that are reported** are those of a schema, whose integers have 64 bits. -/
lemma Schema.inWords_of_mem_validate {schema : Schema} {document : Json} {violation : Violation}
    (h : violation ∈ schema.validate document) : violation.reason.InWords := by
  rcases exists_visit_of_mem_validate h with
    ⟨field, value, -, -, check, hcheck, -, hreason⟩ | ⟨-, hreason⟩
  · exact hreason ▸ field.inWords_checks value check hcheck
  · exact hreason ▸ Reason.inWords_of_bounds_eq_nil rfl

/-- What a report shows are violations of a schema, whose limits are within 64 bits. -/
lemma Report.inWords_of_mem_shown {schema : Schema} {limit : Nat} {input : Input}
    {violation : Violation} (h : violation ∈ (Report.of schema limit input).shown) :
    violation.reason.InWords := by
  cases hread : Json.readText input.text with
  | error message =>
      rw [of_readText_error hread] at h
      cases h
  | ok document =>
      rw [of_readText_ok hread] at h
      exact Schema.inWords_of_mem_validate (mem_of_mem_upTo h)

/-! ### JSON forms that are read again -/

lemma Json.Number.inWords_natCast {n : Nat} (h : n < 2 ^ 64) : (Number.whole n).InWords :=
  ⟨Int.le_trans (by decide) (Int.natCast_nonneg n), by exact_mod_cast h⟩

lemma Path.recoverable_toJson {path : Path} (h : ∀ n ∈ path.indexes, n < 2 ^ 64) :
    path.toJson.Recoverable 1 := by
  refine recoverable_array (List.forall_mem_map.2 fun segment hsegment => ?_)
  cases segment with
  | key key => exact recoverable_string key
  | index i =>
      have hmem : i ∈ path.indexes := List.mem_filterMap.2 ⟨_, hsegment, rfl⟩
      exact recoverable_number (Number.inWords_natCast (h i hmem))

/-- A limit is written as a number that can be read. -/
lemma Bound.recoverable_toJson {bound : Bound} (h : bound.InWords) (depth : Nat) :
    bound.toJson.Recoverable depth := by
  cases bound with
  | integer n => exact recoverable_number h
  | float x =>
      cases x with
      | finite x => exact recoverable_number trivial
      | infinite negative => exact recoverable_null
      | nan => exact recoverable_null

/-- The detail of a reason nests at most two levels deep, and can be read. -/
lemma Reason.recoverable_detail {reason : Reason} (hlimits : reason.InWords)
    (hcounts : ∀ n ∈ reason.counts, n < 2 ^ 64) {detail : Json}
    (h : reason.detail? = some detail) : detail.Recoverable 2 := by
  have hone {key : String} {value : Json} (h : value.Recoverable 1) :
      (Json.object [(key, value)]).Recoverable 2 :=
    recoverable_object (List.nodup_singleton key) (List.forall_mem_singleton.2 h)
  have hcount {n : Nat} (hn : n ∈ reason.counts) : (count n).Recoverable 1 :=
    recoverable_number (Number.inWords_natCast (hcounts n hn))
  have hbound {bound : Bound} (hmem : bound ∈ reason.bounds) (depth : Nat) :
      bound.toJson.Recoverable depth := bound.recoverable_toJson (hlimits bound hmem) depth
  have hpair {first second : Json} (hfirst : first.Recoverable 1) (hsecond : second.Recoverable 1)
      {key key' : String} (hne : key ≠ key') :
      (Json.object [(key, first), (key', second)]).Recoverable 2 :=
    recoverable_object (by simpa using hne)
      (List.forall_mem_cons.2 ⟨hfirst, List.forall_mem_singleton.2 hsecond⟩)
  cases reason with
  | required | notPositive | notNegative | notNull | unknownField => cases h
  | wrongKind expected found =>
      obtain rfl := Option.some.inj h
      exact hpair (recoverable_string _) (recoverable_string _) (by decide)
  | belowMinimum bound | aboveMaximum bound =>
      obtain rfl := Option.some.inj h
      exact hbound List.mem_cons_self 2
  | outOfRanges ranges =>
      obtain rfl := Option.some.inj h
      refine recoverable_array (List.forall_mem_map.2 fun range hrange => ?_)
      have hmem {bound : Bound} (h : bound ∈ [range.1, range.2]) :
          bound ∈ (Reason.outOfRanges ranges).bounds := List.mem_flatMap.2 ⟨range, hrange, h⟩
      exact recoverable_array (List.forall_mem_cons.2 ⟨hbound (hmem (by simp)) 0,
        List.forall_mem_singleton.2 (hbound (hmem (by simp)) 0)⟩)
  | tooFewCharacters n | tooManyCharacters n | tooFewItems n | tooManyItems n =>
      obtain rfl := Option.some.inj h
      exact hone (hcount List.mem_cons_self)
  | formatMismatch text | invalidJson text =>
      obtain rfl := Option.some.inj h
      exact hone (recoverable_string text)
  | notAChoice choices =>
      obtain rfl := Option.some.inj h
      exact hone (recoverable_array (List.forall_mem_map.2 fun choice _ =>
        recoverable_string choice))
  | unexpectedBoolean expected =>
      obtain rfl := Option.some.inj h
      exact hone (recoverable_bool expected)
  | fixedLengthMismatch expected found =>
      obtain rfl := Option.some.inj h
      exact hpair (hcount (by simp [counts])) (hcount (by simp [counts])) (by decide)

/-- A violation is written as an object that can be read, three levels deep. -/
lemma Violation.recoverable_toJson {violation : Violation} (hlimits : violation.reason.InWords)
    (hcounts : ∀ n ∈ violation.counts, n < 2 ^ 64) : violation.toJson.Recoverable 3 := by
  obtain ⟨hindexes, hshown⟩ := List.forall_mem_append.1 hcounts
  have hpath := (Path.recoverable_toJson hindexes).mono (by decide : 1 ≤ 2)
  rw [toJson]
  cases hdetail : violation.reason.detail? with
  | none =>
      refine recoverable_object (by decide : ["path", "field", "kind"].Nodup) ?_
      simp [hpath, recoverable_string]
  | some detail =>
      have hrecoverable := Reason.recoverable_detail hlimits hshown hdetail
      refine recoverable_object (by decide : ["path", "field", "kind", "detail"].Nodup) ?_
      simp [hpath, hrecoverable, recoverable_string]

/-- **The JSON form of a report** is read again. -/
theorem Report.recoverable_toJson {report : Report} (h : report.Sized)
    (hlimits : ∀ violation ∈ report.shown, violation.reason.InWords) :
    report.toJson.Recoverable 5 := by
  obtain ⟨hcount, hshown⟩ := List.forall_mem_cons.1 h
  have hviolations : (Json.array (report.shown.map Violation.toJson)).Recoverable 4 := by
    refine recoverable_array (List.forall_mem_map.2 fun violation hviolation => ?_)
    exact Violation.recoverable_toJson (hlimits violation hviolation) fun n hn =>
      hshown n (List.mem_flatMap.2 ⟨violation, hviolation, hn⟩)
  have hnumber : (Json.number (.whole report.count)).Recoverable 4 :=
    recoverable_number (Number.inWords_natCast hcount)
  rw [toJson]
  cases report.fault with
  | none =>
      refine recoverable_object
        (by decide : ["source", "valid", "violation_count", "violations"].Nodup) ?_
      simp [hnumber, hviolations, recoverable_string, recoverable_bool]
  | some fault =>
      refine recoverable_object
        (by decide : ["source", "valid", "error", "violation_count", "violations"].Nodup) ?_
      simp [hnumber, hviolations, recoverable_string, recoverable_bool]

/-! ### What a value tells -/

/-- **A value tells of a violation**: where it is, in which field, and which rule is broken, with
its detail but for the binary numbers in it. -/
structure Violation.ToldBy (violation : Violation) (value : Json) : Prop where
  path : value.member? "path" = some violation.path.toJson
  field : value.member? "field" = some (.string violation.field)
  kind : value.member? "kind" = some (.string violation.reason.tag)
  detail : (value.member? "detail").map blurred = violation.reason.detail?.map blurred

/-- **A value tells of a report**: where its document is from, whether that passed, what is wrong
with its text if anything is, how many violations there are, and each of those that are shown, in
their order. -/
structure Report.ToldBy (report : Report) (value : Json) : Prop where
  source : value.member? "source" = some (.string report.source)
  valid : value.member? "valid" = some (.bool report.valid)
  fault : value.member? "error" = report.fault.map .string
  count : value.member? "violation_count" = some (.number (.whole report.count))
  violations : ∃ items, value.member? "violations" = some (.array items) ∧
    List.Forall₂ Violation.ToldBy report.shown items

lemma Path.sharp_toJson (path : Path) : path.toJson.Sharp := by
  refine sharp_array (List.forall_mem_map.2 fun segment _ => ?_)
  cases segment with
  | key key => exact sharp_string key
  | index i => exact sharp_whole i

/-- **An object that is known but for its floats tells the violation.** -/
lemma Violation.toldBy_of_blurred_eq {violation : Violation} {value : Json}
    (h : value.blurred = violation.toJson.blurred) : violation.ToldBy value where
  path := member?_eq_some_of_sharp h rfl (Path.sharp_toJson _)
  field := member?_eq_some_of_sharp h rfl (sharp_string _)
  kind := member?_eq_some_of_sharp h rfl (sharp_string _)
  detail := by
    have hdetail : violation.toJson.member? "detail" = violation.reason.detail? := by
      rw [toJson]
      cases violation.reason.detail? <;> rfl
    rw [map_blurred_member?_eq h, hdetail]

/-- **What differs from the JSON form of a report in binary numbers alone** tells of the report. -/
theorem Report.toldBy_of_blurred_eq {report : Report} {value : Json}
    (h : value.blurred = report.toJson.blurred) : report.ToldBy value where
  source := member?_eq_some_of_sharp h rfl (sharp_string _)
  valid := member?_eq_some_of_sharp h rfl (sharp_bool _)
  fault := by
    cases hfault : report.fault with
    | none => exact member?_eq_none_of_blurred_eq h (by rw [toJson, hfault]; rfl)
    | some fault =>
        exact member?_eq_some_of_sharp h (by rw [toJson, hfault]; rfl) (sharp_string fault)
  count := by
    refine member?_eq_some_of_sharp h ?_ (sharp_whole _)
    rw [toJson]
    cases report.fault <;> rfl
  violations := by
    have hmember : report.toJson.member? "violations" =
        some (.array (report.shown.map Violation.toJson)) := by
      rw [toJson]
      cases report.fault <;> rfl
    have hsame := map_blurred_member?_eq h "violations"
    rw [hmember, Option.map_some, blurred_array] at hsame
    obtain ⟨value', hvalue, hblurred⟩ := Option.map_eq_some_iff.1 hsame
    obtain ⟨items, rfl, hitems⟩ := blurred_eq_array_iff.1 hblurred
    refine ⟨items, hvalue, ?_⟩
    rw [List.map_map, ← List.forall₂_eq_eq_eq, List.forall₂_map_left_iff,
      List.forall₂_map_right_iff] at hitems
    exact hitems.flip.imp fun _ _ => Violation.toldBy_of_blurred_eq

end SchemaCheck
