import Mathlib.Tactic.Common
import SchemaCheck.Proofs.Limits
import SchemaCheck.Validation

/-!
# Conformance

When a document conforms to a schema, said of values alone, and the agreement of validation with it.

* `Field.Accepts` and `Schema.Admits`: a field accepts a value, and a document conforms to a schema.
  Neither mentions violations.  `Json.valueAt` is the value that a field looks at, null where a key
  is missing, and `Json.Holds` the object in a value or in the text of a string.
* `acceptsMembers_iff` and `acceptsEach_iff`: the fields of a schema and the items of a tuple are
  accepted one by one.
* `Field.validate_eq_nil_iff`, by induction on the field: a value has no violation exactly when
  the field accepts it.  Its cases are the lemmas `reasons_eq_nil_iff` about single constraints.
-/

namespace SchemaCheck

/-! ### What a field looks at -/

/-- The value under a key; null where there is none, and in what is no object. -/
def Json.valueAt (document : Json) (key : String) : Json := (document.member? key).getD .null

/-- The object with these members is the value itself, or is what its text spells. -/
def Json.Holds (value : Json) (members : List (String × Json)) : Prop :=
  value = .object members ∨
    ∃ text, value = .string text ∧ Json.readText text = .ok (.object members)

/-! ### Acceptance -/

/-- The text keeps to the rules: it is one of the choices; or, where there are none, its number of
characters is within the limits and the pattern occurs in it. -/
def TextRules.Allow (rules : TextRules) (text : String) : Prop :=
  match rules.choices with
  | some choices => text ∈ choices
  | none =>
    (∀ min, rules.minLength = some min → min ≤ text.length) ∧
      (∀ max, rules.maxLength = some max → text.length ≤ max) ∧
      ∀ pattern, rules.format = some pattern → pattern.occursIn text = true

/-- The number of items is within the limits. -/
def Lengths.Allow (lengths : Lengths) (count : Nat) : Prop :=
  (∀ min, lengths.min = some min → min ≤ count) ∧ ∀ max, lengths.max = some max → count ≤ max

mutual

/-- **Acceptance** of a value by a field.  Null is accepted where no value is required, and a null
field accepts nothing else. -/
def Field.Accepts : Field → Json → Prop
  | field, .null => field.required = false
  | .integer _ _ rules, value =>
    ∃ n k, value = .number n ∧ n.IsInt k ∧ rules.Allow Int64.toInt k
  | .float _ _ rules, value => ∃ n, value = .number n ∧ rules.Allow id n.toBinary64
  | .string _ _ rules, value => ∃ text, value = .string text ∧ rules.Allow text
  | .boolean _ _ expected, value => ∃ b, value = .bool b ∧ ∀ b', expected = some b' → b = b'
  | .list _ _ lengths item, value =>
    ∃ items, value = .array items ∧ lengths.Allow items.length ∧ ∀ x ∈ items, item.Accepts x
  | .tuple _ _ lengths fields, value =>
    ∃ items, value = .array items ∧ lengths.Allow items.length ∧ acceptsEach fields items
  | .object _ _ schema, value => ∃ members, value.Holds members ∧ schema.Admits (.object members)
  | .null _, _ => False

/-- **Conformance** of a document to a schema: a strict schema knows every key of an object, and
each field accepts the value at its name. -/
def Schema.Admits : Schema → Json → Prop
  | ⟨fields, strict⟩, document =>
    (strict = true → ∀ members, document = .object members →
      ∀ member ∈ members, ∃ field ∈ fields, field.name = member.1) ∧
      acceptsMembers fields document

/-- Every field accepts the value at its name. -/
def acceptsMembers : List Field → Json → Prop
  | [], _ => True
  | field :: fields, document =>
    field.Accepts (document.valueAt field.name) ∧ acceptsMembers fields document

/-- There are as many items as fields, and every field accepts the item in its place. -/
def acceptsEach : List Field → List Json → Prop
  | [], [] => True
  | field :: fields, item :: items => field.Accepts item ∧ acceptsEach fields items
  | _, _ => False

end

lemma acceptsMembers_iff {fields : List Field} {document : Json} :
    acceptsMembers fields document ↔
      ∀ field ∈ fields, field.Accepts (document.valueAt field.name) := by
  induction fields with
  | nil => simp [acceptsMembers]
  | cons field fields ih => rw [acceptsMembers, ih, List.forall_mem_cons]

/-- The items of a tuple are accepted one by one, and there are as many as fields. -/
lemma acceptsEach_iff {fields : List Field} {items : List Json} :
    acceptsEach fields items ↔
      fields.length = items.length ∧ ∀ pair ∈ fields.zip items, pair.1.Accepts pair.2 := by
  induction fields generalizing items with
  | nil => cases items <;> simp [acceptsEach]
  | cons field fields ih =>
      cases items with
      | nil => simp [acceptsEach]
      | cons item items =>
          rw [acceptsEach, ih, List.zip_cons_cons, List.forall_mem_cons, List.length_cons,
            List.length_cons, Nat.add_right_cancel_iff]
          exact and_left_comm

/-! ### Single constraints -/

/-- A text breaks no rule exactly if the rules allow it. -/
lemma TextRules.reasons_eq_nil_iff (rules : TextRules) (text : String) :
    rules.reasons text = [] ↔ rules.Allow text := by
  obtain ⟨min, max, format, choices⟩ := rules
  cases choices with
  | some choices => simp [reasons, Allow]
  | none =>
      simp only [reasons, Allow, List.append_eq_nil_iff, and_assoc]
      refine and_congr ?_ (and_congr ?_ ?_)
      · cases min <;> simp
      · cases max <;> simp
      · cases format <;> simp

lemma Lengths.reasons_eq_nil_iff (lengths : Lengths) (count : Nat) :
    lengths.reasons count = [] ↔ lengths.Allow count := by
  obtain ⟨min, max⟩ := lengths
  simp only [reasons, Allow, List.append_eq_nil_iff]
  refine and_congr ?_ ?_
  · cases min <;> simp
  · cases max <;> simp

lemma embedded_eq_ok_iff {value document : Json} :
    embedded value = .ok document ↔
      ∃ members, document = .object members ∧ value.Holds members := by
  cases value with
  | object members => simp [embedded, Json.Holds, eq_comm]
  | string text =>
      cases h : Json.readText text with
      | ok value => cases value <;> simp [embedded, Json.Holds, h, eq_comm]
      | error message => simp [embedded, Json.Holds, h]
  | _ => simp [embedded, Json.Holds]

lemma Schema.unknownKeys_eq_nil_iff (fields : List Field) (strict : Bool) (document : Json) :
    Schema.unknownKeys ⟨fields, strict⟩ document = [] ↔
      (strict = true → ∀ members, document = .object members →
        ∀ member ∈ members, ∃ field ∈ fields, field.name = member.1) := by
  cases strict <;> cases document <;>
    simp [Schema.unknownKeys, Schema.field?, List.filter_eq_nil_iff]

/-! ### Validation -/

lemma Schema.validate_eq_nil_iff_of_fields {schema : Schema}
    (h : ∀ field ∈ schema.fields, ∀ value, field.validate value = [] ↔ field.Accepts value)
    (document : Json) : schema.validate document = [] ↔ schema.Admits document := by
  obtain ⟨fields, strict⟩ := schema
  have hfields : validateMembers fields document = [] ↔ acceptsMembers fields document := by
    rw [validateMembers_eq_flatMap, List.flatMap_eq_nil_iff, acceptsMembers_iff]
    exact forall₂_congr fun field hfield => below_eq_nil_iff.trans (h field hfield _)
  rw [Schema.Admits, ← Schema.unknownKeys_eq_nil_iff, ← hfields, Schema.validate]
  generalize Schema.unknownKeys ⟨fields, strict⟩ document = keys
  cases keys <;> simp

/-- The places of items do not matter to whether any of them has a violation. -/
lemma flatMap_below_eq_nil_iff {α : Type} (f : α → List Violation) (items : List α) (i : Nat) :
    ((items.zipIdx i).flatMap fun x => below (.index x.2) (f x.1)) = [] ↔
      ∀ x ∈ items, f x = [] := by
  rw [List.flatMap_eq_nil_iff]
  conv_rhs => rw [← List.zipIdx_map_fst i items, List.forall_mem_map]
  exact forall₂_congr fun _ _ => below_eq_nil_iff

lemma Field.validate_null_eq_nil_iff (field : Field) :
    field.validate .null = [] ↔ field.Accepts .null := by
  rw [Field.validate_null, Field.Accepts]
  cases field.required <;> simp

/-- An integer field accepts a whole number that its limits allow, compared as an integer. -/
lemma Field.validate_integer_eq_nil_iff (name : String) (required : Bool) (rules : Rules Int64)
    (n : Json.Number) :
    (Field.integer name required rules).validate (.number n) = [] ↔
      ∃ k, n.IsInt k ∧ rules.Allow Int64.toInt k := by
  have hreported : (Field.integer name required rules).validate (.number n) = [] ↔
      n.whole?.isSome = true ∧ rules.reasons n = [] := by
    cases hwhole : n.whole? <;>
      simp [Field.validate, Field.reasons, Field.reasonsPresent, hwhole]
  rw [hreported]
  constructor
  · rintro ⟨hwhole, hreasons⟩
    obtain ⟨k, hk⟩ := Option.isSome_iff_exists.1 hwhole
    have hint := Json.Number.whole?_eq_some_iff.1 hk
    exact ⟨k, hint, (Rules.reasons_eq_nil_iff (measures_toInt hint) rules).1 hreasons⟩
  · rintro ⟨k, hint, hallow⟩
    refine ⟨?_, (Rules.reasons_eq_nil_iff (measures_toInt hint) rules).2 hallow⟩
    rw [Json.Number.whole?_eq_some_iff.2 hint, Option.isSome_some]

/-- A tuple accepts as many items as it has fields, each as its field does. -/
lemma Field.validate_tuple_eq_nil_iff {fields : List Field}
    (h : ∀ field ∈ fields, ∀ value, field.validate value = [] ↔ field.Accepts value)
    (name : String) (required : Bool) (lengths : Lengths) (items : List Json) :
    (Field.tuple name required lengths fields).validate (.array items) = [] ↔
      lengths.Allow items.length ∧ acceptsEach fields items := by
  have hitems : validateItems fields 0 items = [] ↔
      ∀ pair ∈ fields.zip items, pair.1.Accepts pair.2 := by
    rw [validateItems_eq_flatMap,
      flatMap_below_eq_nil_iff fun pair : Field × Json => pair.1.validate pair.2]
    exact forall₂_congr fun pair hpair => h pair.1 (List.of_mem_zip hpair).1 pair.2
  rw [acceptsEach_iff, ← hitems, ← Lengths.reasons_eq_nil_iff]
  by_cases hlength : fields.length = items.length <;>
    simp [Field.validate, Field.reasons, Field.reasonsPresent, hlength]

/-- An object field accepts what holds an object that its schema admits. -/
lemma Field.validate_object_eq_nil_iff {schema : Schema}
    (h : ∀ field ∈ schema.fields, ∀ value, field.validate value = [] ↔ field.Accepts value)
    {value : Json} (hnull : value ≠ .null) (name : String) (required : Bool) :
    (Field.object name required schema).validate value = [] ↔
      ∃ members, value.Holds members ∧ schema.Admits (.object members) := by
  rw [Field.validate_object hnull]
  constructor
  · intro hnil
    cases hembed : embedded value with
    | ok document =>
        obtain ⟨members, rfl, hholds⟩ := embedded_eq_ok_iff.1 hembed
        rw [hembed] at hnil
        exact ⟨members, hholds, (Schema.validate_eq_nil_iff_of_fields h _).1 hnil⟩
    | error reason => simp [hembed] at hnil
  · rintro ⟨members, hholds, hadmits⟩
    rw [embedded_eq_ok_iff.2 ⟨members, rfl, hholds⟩]
    exact (Schema.validate_eq_nil_iff_of_fields h _).2 hadmits

/-- **A value has no violation exactly when the field accepts it.** -/
theorem Field.validate_eq_nil_iff (field : Field) (value : Json) :
    field.validate value = [] ↔ field.Accepts value := by
  induction field using Field.ind generalizing value with
  | integer name required rules =>
      cases value with
      | null => exact Field.validate_null_eq_nil_iff _
      | number n => simp [Field.Accepts, Field.validate_integer_eq_nil_iff]
      | _ => simp [Field.validate, Field.reasons, Field.reasonsPresent, Field.Accepts]
  | float name required rules =>
      cases value with
      | null => exact Field.validate_null_eq_nil_iff _
      | number n =>
          have hallow := rules.reasons_eq_nil_iff (measures_toBinary64 n)
          simp [Field.validate, Field.reasons, Field.reasonsPresent, Field.Accepts, hallow]
      | _ => simp [Field.validate, Field.reasons, Field.reasonsPresent, Field.Accepts]
  | string name required rules =>
      cases value with
      | null => exact Field.validate_null_eq_nil_iff _
      | string text =>
          have hallow := rules.reasons_eq_nil_iff text
          simp [Field.validate, Field.reasons, Field.reasonsPresent, Field.Accepts, hallow]
      | _ => simp [Field.validate, Field.reasons, Field.reasonsPresent, Field.Accepts]
  | boolean name required expected =>
      cases value with
      | null => exact Field.validate_null_eq_nil_iff _
      | bool b =>
          cases expected <;>
            simp [Field.validate, Field.reasons, Field.reasonsPresent, Field.Accepts]
      | _ => simp [Field.validate, Field.reasons, Field.reasonsPresent, Field.Accepts]
  | list name required lengths item ih =>
      cases value with
      | null => exact Field.validate_null_eq_nil_iff _
      | array items =>
          have hlengths := lengths.reasons_eq_nil_iff items.length
          have hitems : _ ↔ ∀ x ∈ items, item.Accepts x :=
            (flatMap_below_eq_nil_iff item.validate items 0).trans
              (forall₂_congr fun x _ => ih x)
          rw [Field.validate, List.append_eq_nil_iff, hitems, Field.Accepts]
          · simp [Field.reasons, Field.reasonsPresent, hlengths]
          · simp
      | _ => simp [Field.validate, Field.reasons, Field.reasonsPresent, Field.Accepts]
  | tuple name required lengths fields ih =>
      cases value with
      | null => exact Field.validate_null_eq_nil_iff _
      | array items => simp [Field.Accepts, Field.validate_tuple_eq_nil_iff ih]
      | _ => simp [Field.validate, Field.reasons, Field.reasonsPresent, Field.Accepts]
  | object name required schema ih =>
      by_cases hnull : value = .null
      · rw [hnull]
        exact Field.validate_null_eq_nil_iff _
      · rw [Field.validate_object_eq_nil_iff ih hnull, Field.Accepts]
        exact hnull
  | null name =>
      cases value with
      | null => exact Field.validate_null_eq_nil_iff _
      | _ => simp [Field.validate, Field.reasons, Field.reasonsPresent, Field.Accepts]

/-- **Conformance**: a document has no violation exactly when it conforms to the schema. -/
theorem Schema.validate_eq_nil_iff_admits (schema : Schema) (document : Json) :
    schema.validate document = [] ↔ schema.Admits document :=
  Schema.validate_eq_nil_iff_of_fields (fun field _ => field.validate_eq_nil_iff) document

end SchemaCheck
