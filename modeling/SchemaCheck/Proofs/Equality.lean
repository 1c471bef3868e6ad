import Mathlib.Data.List.Forall2
import Mathlib.Tactic.Common
import SchemaCheck.Proofs.Reordering
import SchemaCheck.Proofs.Spec.Same
import SchemaCheck.Proofs.Truth

/-!
# Equal schemas

Schemas that are equal, their limits being compared as numbers, cannot be told apart.

* `Reason.Equal` and `Violation.Equal`: reports that are equal one by one.  No reason equals itself
  where it shows a limit that is a NaN, and those without a limit do (`Reason.Plain`).
* `Rules.equal_reasons`: equal rules are broken alike.
* `Field.findsSame_of_same`, by induction on the equality of fields: equal fields find equal
  violations in every value.
* `Schema.same_sound`: equal schemas find the same and are written as equal documents, and only
  equal schemas are.
-/

namespace SchemaCheck

/-! ### Equal violations -/

lemma beq_iff_forall₂ {α : Type} [BEq α] {xs ys : List α} :
    (xs == ys) = true ↔ List.Forall₂ (fun x y => (x == y) = true) xs ys := by
  induction xs generalizing ys with
  | nil => cases ys <;> simp
  | cons x xs ih => cases ys <;> simp [ih]

namespace Reason

/-- A reason that shows no limit on numbers. -/
def Plain : Reason → Prop
  | .belowMinimum _ | .aboveMaximum _ | .outOfRanges _ => False
  | _ => True

/-- A reason without limits is equal to itself, which a limit that is no number is not. -/
lemma Plain.beq_self {reason : Reason} (h : reason.Plain) : (reason == reason) = true := by
  cases reason with
  | belowMinimum | aboveMaximum | outOfRanges => cases h
  | wrongKind expected found =>
      change (expected == expected && found == found) = true
      simp
  | fixedLengthMismatch expected found =>
      change (expected == expected && found == found) = true
      simp
  | tooFewCharacters n | tooManyCharacters n | tooFewItems n | tooManyItems n =>
      exact beq_self_eq_true n
  | formatMismatch text | invalidJson text => exact beq_self_eq_true text
  | notAChoice choices => exact beq_self_eq_true choices
  | unexpectedBoolean expected => exact beq_self_eq_true expected
  | _ => rfl

end Reason

/-- **Equal reasons**, one by one. -/
def Reason.Equal (reasons reasons' : List Reason) : Prop :=
  List.Forall₂ (fun reason reason' => (reason == reason') = true) reasons reasons'

lemma Reason.Equal.of_plain {reasons : List Reason} (h : ∀ reason ∈ reasons, reason.Plain) :
    Reason.Equal reasons reasons :=
  List.forall₂_same.2 fun reason hreason => (h reason hreason).beq_self

/-! ### Equal rules -/

namespace Rules

variable {α : Type} [Limit α] {rules rules' : Rules α}

/-- Ranges that are the same are shown by equal limits. -/
lemma beq_bounds (hα : Limit.Respects α) {ranges ranges' : List (Range α)}
    (h : List.Forall₂ Range.Same ranges ranges') :
    ((Reason.outOfRanges (ranges.map fun range =>
        (Limit.toBound range.start, Limit.toBound range.stop))) ==
      .outOfRanges (ranges'.map fun range =>
        (Limit.toBound range.start, Limit.toBound range.stop))) = true := by
  refine beq_iff_forall₂.2 (List.forall₂_map_left_iff.2 (List.forall₂_map_right_iff.2 ?_))
  refine h.imp fun range range' hends => ?_
  exact Bool.and_eq_true_iff.2 ⟨hα.toBound hends.1, hα.toBound hends.2⟩

/-- Ranges that are the same hold the same numbers. -/
lemma any_holds (hα : Limit.Respects α) {ranges ranges' : List (Range α)}
    (h : List.Forall₂ Range.Same ranges ranges') (n : Json.Number) :
    (ranges.any fun range => range.holds n) = ranges'.any fun range => range.holds n := by
  induction h with
  | nil => rfl
  | cons hends _ ih =>
      rw [List.any_cons, List.any_cons, ih, Range.holds, Range.holds, hα.order? hends.1,
        hα.order? hends.2]

/-- **Equal rules** are broken alike. -/
theorem equal_reasons (hα : Limit.Respects α) (h : rules.same rules' = true) (n : Json.Number) :
    Reason.Equal (rules.reasons n) (rules'.reasons n) := by
  obtain ⟨min, max, sign, ranges⟩ := rules
  obtain ⟨min', max', sign', ranges'⟩ := rules'
  obtain ⟨hmin, hmax, hsign, hranges⟩ := same_iff_rel.1 h
  obtain rfl : sign = sign' := hsign
  rw [reasons, reasons]
  refine List.rel_append (List.rel_append (List.rel_append ?_ ?_) ?_) ?_
  · refine Reason.Equal.of_plain fun reason hreason => ?_
    split at hreason
    · exact List.mem_singleton.1 hreason ▸ trivial
    · exact List.mem_singleton.1 hreason ▸ trivial
    · cases hreason
  · cases hmin with
    | none => exact .nil
    | some hlimit =>
        simp only [hα.order? hlimit]
        split
        · exact .cons (hα.toBound hlimit) .nil
        · exact .nil
  · cases hmax with
    | none => exact .nil
    | some hlimit =>
        simp only [hα.order? hlimit]
        split
        · exact .cons (hα.toBound hlimit) .nil
        · exact .nil
  · cases hranges with
    | none => exact .nil
    | some hends =>
        simp only [any_holds hα hends]
        split
        · exact .nil
        · exact .cons (beq_bounds hα hends) .nil

end Rules

/-! ### Equal fields -/

namespace Violation

/-- **Equal violations**, one by one. -/
def Equal (violations violations' : List Violation) : Prop :=
  List.Forall₂ (fun violation violation' => (violation == violation') = true) violations violations'

lemma beq_mk {path : Path} {field : String} {reason reason' : Reason}
    (h : (reason == reason') = true) :
    ((⟨path, field, reason⟩ : Violation) == ⟨path, field, reason'⟩) = true := by
  change (path == path && (field == field && reason == reason')) = true
  simp [h]

lemma Equal.here {reasons reasons' : List Reason} (h : Reason.Equal reasons reasons')
    (name : String) : Equal (reasons.map (here name)) (reasons'.map (here name)) :=
  List.forall₂_map_left_iff.2 (List.forall₂_map_right_iff.2 (h.imp fun _ _ => beq_mk))

lemma Equal.below {violations violations' : List Violation} (h : Equal violations violations')
    (segment : Segment) : Equal (below segment violations) (below segment violations') := by
  refine List.forall₂_map_left_iff.2 (List.forall₂_map_right_iff.2 (h.imp fun v v' heq => ?_))
  obtain ⟨path, field, reason⟩ := v
  obtain ⟨path', field', reason'⟩ := v'
  change (path == path' && (field == field' && reason == reason')) = true at heq
  change (segment :: path == segment :: path' && (field == field' && reason == reason')) = true
  simpa using heq

end Violation

/-! ### Reasons without limits -/

lemma TextRules.plain_checks (rules : TextRules) (text : String) :
    ∀ check ∈ rules.checks text, check.reason.Plain := by
  obtain ⟨min, max, format, choices⟩ := rules
  cases choices <;> cases min <;> cases max <;> cases format <;> simp [checks, Reason.Plain]

lemma Lengths.plain_checks (lengths : Lengths) (count : Nat) :
    ∀ check ∈ lengths.checks count, check.reason.Plain := by
  obtain ⟨min, max⟩ := lengths
  cases min <;> cases max <;> simp [checks, Reason.Plain]

namespace Field

/-- Only fields of numbers have rules that show limits on numbers. -/
lemma plain_checks {field : Field} (h : field.kind ≠ .integer ∧ field.kind ≠ .float)
    (value : Json) : ∀ check ∈ field.checks value, check.reason.Plain := by
  induction field, value using checks_cases with
  | integer => exact absurd rfl h.1
  | float => exact absurd rfl h.2
  | string name required rules text => exact rules.plain_checks text
  | boolean => exact List.forall_mem_map.2 fun _ _ => trivial
  | list name required lengths item items => exact lengths.plain_checks items.length
  | tuple name required lengths fields items =>
      exact List.forall_mem_append.2
        ⟨lengths.plain_checks items.length, List.forall_mem_singleton.2 trivial⟩
  | object => exact List.forall_mem_nil _
  | _ => exact List.forall_mem_singleton.2 trivial

/-- Without limits on numbers, what is wrong with a value is the same as itself. -/
lemma equal_reasons_self {field : Field} (h : field.kind ≠ .integer ∧ field.kind ≠ .float)
    (value : Json) :
    Reason.Equal (field.reasons value) (field.reasons value) := by
  refine .of_plain fun reason hreason => ?_
  rw [← field.report_checks] at hreason
  obtain ⟨check, hcheck, -, rfl⟩ := Check.mem_report.1 hreason
  exact plain_checks h value check hcheck

/-- The fields report equal reasons for every value. -/
lemma equal_reasons_integer (name : String) (required : Bool) {rules rules' : Rules Int64}
    (h : rules.same rules' = true) (value : Json) :
    Reason.Equal ((integer name required rules).reasons value)
      ((integer name required rules').reasons value) := by
  cases value with
  | null =>
      cases required
      · exact .nil
      · exact .of_plain (List.forall_mem_singleton.2 trivial)
  | number n =>
      simp only [reasons, reasonsPresent]
      split
      · exact Rules.equal_reasons Limit.respects_int64 h n
      · exact .of_plain (List.forall_mem_singleton.2 trivial)
  | _ => exact .of_plain (List.forall_mem_singleton.2 trivial)

/-- Float fields with the same rules give equal reasons for every value. -/
lemma equal_reasons_float (name : String) (required : Bool) {rules rules' : Rules Binary64}
    (h : rules.same rules' = true) (value : Json) :
    Reason.Equal ((float name required rules).reasons value)
      ((float name required rules').reasons value) := by
  cases value with
  | null =>
      cases required
      · exact .nil
      · exact .of_plain (List.forall_mem_singleton.2 trivial)
  | number n => exact Rules.equal_reasons Limit.respects_binary64 h n
  | _ => exact .of_plain (List.forall_mem_singleton.2 trivial)

/-- **Fields that find the same**: they have one name and find equal violations in every value. -/
def FindsSame (field field' : Field) : Prop :=
  field.name = field'.name ∧ ∀ value, Violation.Equal (field.validate value) (field'.validate value)

/-- Array fields find the same once their items do. -/
lemma findsSame_of_items {field field' : Field} (hkind : field.kind = .array)
    (hkind' : field'.kind = .array) (hname : field.name = field'.name)
    (hreasons : field.reasons = field'.reasons)
    (hitems : ∀ count i, Option.Rel FindsSame (field.itemField? count i)
      (field'.itemField? count i)) : field.FindsSame field' := by
  have hown (value : Json) : Violation.Equal
      ((field.reasons value).map (Violation.here field.name))
      ((field.reasons value).map (Violation.here field.name)) :=
    .here (equal_reasons_self (by simp [hkind]) value) field.name
  refine ⟨hname, fun value => ?_⟩
  cases value with
  | array items =>
      rw [validate_array, validate_array, ← hreasons, ← hname]
      refine List.rel_append (hown _) (List.rel_flatMap (List.forall₂_same.2 fun _ _ => rfl) ?_)
      rintro x _ rfl
      refine Violation.Equal.below ?_ _
      have hitem := hitems items.length x.2
      rw [validateItem, validateItem]
      revert hitem
      generalize field.itemField? items.length x.2 = item
      generalize field'.itemField? items.length x.2 = item'
      rintro (hsame | _)
      · exact hsame.2 x.1
      · exact .nil
  | _ =>
      rw [validate_of_not_array hkind (by simp), validate_of_not_array hkind' (by simp),
        ← hreasons, ← hname]
      exact hown _

end Field

/-- Schemas find the same once their fields do. -/
lemma Schema.equal_validate_of_fields {fields fields' : List Field} (strict : Bool)
    (h : List.Forall₂ Field.FindsSame fields fields') (document : Json) :
    Violation.Equal (Schema.validate ⟨fields, strict⟩ document)
      (Schema.validate ⟨fields', strict⟩ document) := by
  have hnames : fields.map Field.name = fields'.map Field.name :=
    List.forall₂_eq_eq_eq ▸ List.forall₂_map_left_iff.2
      (List.forall₂_map_right_iff.2 (h.imp fun _ _ hsame => hsame.1))
  have hkeys : Schema.strayKeys ⟨fields, strict⟩ document =
      Schema.strayKeys ⟨fields', strict⟩ document := by
    cases document with
    | object members => simp only [strayKeys, hnames]
    | _ => rfl
  rw [validate_eq, validate_eq, hkeys]
  split
  · refine List.rel_flatMap h fun field field' hsame => ?_
    rw [hsame.1]
    exact (hsame.2 _).below _
  · exact List.forall₂_same.2 fun violation hviolation => by
      obtain ⟨key, -, rfl⟩ := List.mem_map.1 hviolation
      exact Violation.beq_mk rfl

/-- **Equal fields find the same**, by induction on their equality. -/
theorem Field.findsSame_of_same {field field' : Field} (h : field.same field' = true) :
    field.FindsSame field' := by
  refine Field.same_ind ?integer ?float ?string ?boolean ?list ?tuple ?object ?null h
  case integer =>
      intro name required rules rules' hrules
      refine ⟨rfl, fun value => ?_⟩
      simp only [validate, List.append_nil]
      exact .here (equal_reasons_integer name required hrules value) name
  case float =>
      intro name required rules rules' hrules
      refine ⟨rfl, fun value => ?_⟩
      simp only [validate, List.append_nil]
      exact .here (equal_reasons_float name required hrules value) name
  case string =>
      intro name required rules
      refine ⟨rfl, fun value => ?_⟩
      simp only [validate, List.append_nil]
      exact .here (equal_reasons_self (by simp [kind]) value) name
  case boolean =>
      intro name required expected
      refine ⟨rfl, fun value => ?_⟩
      simp only [validate, List.append_nil]
      exact .here (equal_reasons_self (by simp [kind]) value) name
  case null =>
      intro name
      refine ⟨rfl, fun value => ?_⟩
      simp only [validate, List.append_nil]
      exact .here (equal_reasons_self (by simp [kind]) value) name
  case list =>
      intro name required lengths item item' ih
      refine findsSame_of_items rfl rfl rfl (funext fun value => ?_) fun _ _ => .some ih
      cases value <;> rfl
  case tuple =>
      intro name required lengths items items' ih
      have hlength := ih.length_eq
      refine findsSame_of_items rfl rfl rfl (funext fun value => ?_) fun count i => ?_
      · cases value with
        | null => rfl
        | _ => simp [reasons, reasonsPresent, hlength]
      · simp only [itemField?, hlength]
        split
        · exact rel_getElem? ih i
        · exact .none
  case object =>
      intro name required strict fields fields' ih
      refine ⟨rfl, fun value => ?_⟩
      have hown :=
        @equal_reasons_self (.object name required ⟨fields, strict⟩) (by simp [kind]) value
      by_cases hnull : value = .null
      · subst hnull
        rw [validate_null, validate_null]
        cases required
        · exact .nil
        · exact .cons (Violation.beq_mk rfl) .nil
      · rw [reasons_object hnull] at hown
        rw [validate_object hnull, validate_object hnull]
        cases hembed : embedded value with
        | ok document => exact Schema.equal_validate_of_fields strict ih document
        | error reason =>
            rw [hembed] at hown
            exact .here hown name

/-- **Equal schemas cannot be told apart.**  They find equal violations in every document and are
written as equal documents; and schemas that a document can describe are equal if those documents
are. -/
theorem Schema.same_sound (schema schema' : Schema) :
    (schema.same schema' = true →
      (∀ document, (schema.validate document == schema'.validate document) = true) ∧
        schema.toSpec.Same schema'.toSpec) ∧
    (schema.Representable → schema'.Representable → schema.toSpec.Same schema'.toSpec →
      schema.same schema' = true) := by
  refine ⟨fun h => ?_, same_of_toSpec⟩
  obtain ⟨fields, strict⟩ := schema
  obtain ⟨fields', strict'⟩ := schema'
  simp only [same, Bool.and_eq_true, beq_iff_eq] at h
  obtain ⟨rfl, hfields⟩ := h
  rw [sameFields_iff_forall₂] at hfields
  refine ⟨fun document => beq_iff_forall₂.2 ?_, ?_⟩
  · have hfind := hfields.imp fun _ _ hsame => Field.findsSame_of_same hsame
    exact equal_validate_of_fields strict hfind document
  · exact toSpec_of_forall₂ strict (hfields.imp fun _ _ hsame => Field.toSpec_of_same hsame)

/-- Limits of zero with either sign, below an array. -/
theorem Schema.same_sound_zeros :
    let number (negative : Bool) : Field :=
      .float "x" true { max := some (.finite (.zero negative)) }
    let schema (negative : Bool) : Schema := ⟨[.list "xs" true {} (number negative)], true⟩
    (schema false).same (schema true) = true ∧
      (∀ document, ((schema false).validate document == (schema true).validate document) = true) ∧
      (schema false).Representable ∧ (schema true).Representable ∧
      (schema false).toSpec.Same (schema true).toSpec ∧
      (schema true).same (schema false) = true := by
  intro number schema
  have hsame (negative negative' : Bool) :
      (schema negative).same (schema negative') = true := by
    cases negative <;> cases negative' <;> decide +kernel
  have hrepresentable (negative : Bool) : (schema negative).Representable := by
    have hnames : "xs" ≠ "" ∧ "x" ≠ "" := by decide
    refine ⟨⟨⟨hnames.1, nofun, nofun⟩, hnames.2, ?_⟩, trivial⟩
    exact ⟨nofun, fun _ hmax => ⟨_, (Option.some.inj hmax).symm⟩, nofun⟩
  obtain ⟨hvalidate, hspec⟩ := (same_sound (schema false) (schema true)).1 (hsame false true)
  obtain ⟨-, hspec'⟩ := (same_sound (schema true) (schema false)).1 (hsame true false)
  exact ⟨hsame false true, hvalidate, hrepresentable false, hrepresentable true, hspec,
    (same_sound (schema true) (schema false)).2 (hrepresentable true) (hrepresentable false)
      hspec'⟩

end SchemaCheck
