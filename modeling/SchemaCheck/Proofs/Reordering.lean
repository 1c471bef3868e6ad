import Mathlib.Data.List.Forall2
import Mathlib.Data.List.Perm.Basic
import Mathlib.Tactic.Common
import SchemaCheck.Proofs.Json.Reordered
import SchemaCheck.Proofs.Spec.Description

/-!
# The order of fields and members

Neither the order of the fields of a schema nor that of the members of a document changes what is
found, but only the order in which it is reported.

* `Json.Reordered.rel_validate`, by induction on the moves: documents that differ in the order of
  members have related violations, for any relation that the violations below hand on, and that
  forgets order where strict schemas list undeclared keys.
* `Field.Reordered` and `Schema.Reordered`: the fields of any schemas in a tree may be moved.
* `Field.Reordered.perm_validate`, by induction on the field: moved fields have the same violations
  up to order.
* `Schema.perm_validate_of_reordered`: both moves together, and when they leave even the order of
  the violations as it is.
-/

namespace SchemaCheck

open Violation (Additive additive_eq)

/-! ### Members of documents -/

/-- A relation between lists of violations that is kept when lists are put together or seen from
above. -/
structure Violation.Congruent (R : List Violation → List Violation → Prop) : Prop extends
    Additive R where
  below (segment : Segment) {violations violations' : List Violation} :
    R violations violations' → R (below segment violations) (below segment violations')

namespace Violation

lemma congruent_eq : Congruent Eq := ⟨additive_eq, fun segment _ _ h => by rw [h]⟩

lemma congruent_perm : Congruent List.Perm := ⟨⟨.refl, .append⟩, fun _ _ _ h => h.map _⟩

end Violation

open Violation (Congruent congruent_eq congruent_perm)

section Members

variable {R : List Violation → List Violation → Prop}

/-- The relation forgets the order of what a strict schema reports. -/
def Field.OrderFree (R : List Violation → List Violation → Prop) : Field → Prop
  | .object _ _ schema =>
    schema.strict = true → ∀ violations violations', violations.Perm violations' →
      R violations violations'
  | _ => True

/-- What holds everywhere in a field of arrays holds everywhere in the fields of the items. -/
lemma Field.Everywhere.item {P : Field → Prop} {field item : Field} {count i : Nat}
    (h : field.Everywhere P) (hitem : field.itemField? count i = some item) :
    item.Everywhere P := by
  cases field with
  | list name required lengths only =>
      obtain rfl : only = item := Option.some.inj hitem
      exact h.2
  | tuple name required lengths items =>
      obtain ⟨-, hitem⟩ := Option.ite_none_right_eq_some.1 hitem
      exact everyField_iff.1 h.2 item (List.mem_of_getElem? hitem)
  | _ => cases hitem

lemma Field.Everywhere.field {P : Field → Prop} {name : String} {required : Bool}
    {schema : Schema} (h : (Field.object name required schema).Everywhere P) {field : Field}
    (hmem : field ∈ schema.fields) : field.Everywhere P := by
  obtain ⟨fields, strict⟩ := schema
  exact everyField_iff.1 h.2 field hmem

lemma Schema.perm_strayKeys (schema : Schema) {members members' : List (String × Json)}
    (h : (members.map Prod.fst).Perm (members'.map Prod.fst)) :
    (schema.strayKeys (.object members)).Perm (schema.strayKeys (.object members')) := by
  rw [strayKeys, strayKeys]
  split
  · exact h.filter _
  · exact .nil

/-- **A field relates what it finds** before and after members have been moved. -/
theorem Json.Reordered.rel_validate (hR : Congruent R) {value value' : Json}
    (h : value.Reordered value') (field : Field) (hfree : field.Everywhere (Field.OrderFree R)) :
    R (field.validate value) (field.validate value') := by
  induction h generalizing field with
  | same value => exact hR.refl _
  | array hlength _ ih =>
      refine field.rel_validate_array hR.toAdditive rfl (field.reasons_array_congr hlength) hlength
        fun i x y hx hy => hR.below _ ?_
      rw [Field.validateItem, Field.validateItem, ← hlength]
      cases hitem : field.itemField? _ i with
      | none => exact hR.refl _
      | some item => exact ih i x y hx hy item (hfree.item hitem)
  | @object members moved members' hkeys hmoved hfst _ ih =>
      refine field.rel_validate_object hR.toAdditive ?_
      rintro name required schema rfl
      have hperm := schema.perm_strayKeys ((hmoved.map Prod.fst).trans (.of_eq hfst))
      refine Schema.rel_validate hperm ?_ fun _ =>
        Schema.rel_memberViolations hR.toAdditive fun field hfield => hR.below _ ?_
      · cases hstrict : schema.strict with
        | true => exact hfree.1 hstrict _ _ (hperm.map _)
        | false =>
            simp only [Schema.strayKeys, hstrict]
            exact hR.refl _
      · exact rel_valueAt (fun _ _ => hR.refl _) (rel_lookup hkeys hmoved hfst ih field.name) field
          (hfree.field hfield)

/-- **So does a schema.** -/
theorem Json.Reordered.rel_schema_validate (hR : Congruent R) {document document' : Json}
    (h : document.Reordered document') (schema : Schema)
    (hfree : (Field.object "" false schema).Everywhere (Field.OrderFree R)) :
    R (schema.validate document) (schema.validate document') := by
  cases h with
  | same => exact hR.refl _
  | @array items items' hlength hitems =>
      have heq : schema.validate (.array items) = schema.validate (.array items') :=
        schema.validate_eq_of_not_object (by simp) (by simp)
      rw [heq]
      exact hR.refl _
  | object hkeys hmoved hfst hmembers =>
      have hfield := rel_validate hR (.object hkeys hmoved hfst hmembers)
        (.object "" false schema) hfree
      rwa [Field.validate_object (by simp), Field.validate_object (by simp)] at hfield

end Members

/-! ### Fields of schemas -/

mutual

/-- **Moving fields in a field.**  The fields of any schemas in it are in another order; those of a
tuple stay in their places. -/
def Field.Reordered : Field → Field → Prop
  | .list name required lengths item, field' =>
    ∃ item', field' = .list name required lengths item' ∧ item.Reordered item'
  | .tuple name required lengths fields, field' =>
    ∃ fields', field' = .tuple name required lengths fields' ∧ reorderedEach fields fields'
  | .object name required schema, field' =>
    ∃ schema', field' = .object name required schema' ∧ schema.Reordered schema'
  | field, field' => field' = field

/-- **Moving fields in a schema.**  After moves in each of them, the fields are put in another
order. -/
def Schema.Reordered : Schema → Schema → Prop
  | ⟨fields, strict⟩, schema' =>
    schema'.strict = strict ∧ ∃ fields', reorderedEach fields fields' ∧
      fields'.Perm schema'.fields

/-- There are moves in each field of a list, which stays in its place. -/
def reorderedEach : List Field → List Field → Prop
  | [], [] => True
  | field :: fields, field' :: fields' => field.Reordered field' ∧ reorderedEach fields fields'
  | _, _ => False

end

lemma reorderedEach_iff {fields fields' : List Field} :
    reorderedEach fields fields' ↔ List.Forall₂ Field.Reordered fields fields' := by
  induction fields generalizing fields' with
  | nil => cases fields' <;> simp [reorderedEach]
  | cons field fields ih => cases fields' <;> simp [reorderedEach, ih]

namespace Field

/-- Reordering what is in a field leaves its name. -/
lemma Reordered.name_eq {field field' : Field} (h : field.Reordered field') :
    field'.name = field.name := by
  cases field with
  | list name required lengths item =>
      obtain ⟨item', rfl, -⟩ := h
      rfl
  | tuple name required lengths fields =>
      obtain ⟨fields', rfl, -⟩ := h
      rfl
  | object name required schema =>
      obtain ⟨schema', rfl, -⟩ := h
      rfl
  | _ => rw [show field' = _ from h]

end Field

/-- A reordered schema has the same names, in another order. -/
lemma Schema.perm_names {schema schema' : Schema} (h : schema.Reordered schema') :
    (schema.fields.map Field.name).Perm (schema'.fields.map Field.name) := by
  obtain ⟨fields, strict⟩ := schema
  obtain ⟨-, moved, heach, hmoved⟩ := h
  have hnames : fields.map Field.name = moved.map Field.name := by
    rw [← List.forall₂_eq_eq_eq, List.forall₂_map_left_iff, List.forall₂_map_right_iff]
    exact (reorderedEach_iff.1 heach).imp fun _ _ hfield => hfield.name_eq.symm
  exact hnames ▸ hmoved.map Field.name

lemma Schema.strayKeys_of_reordered {schema schema' : Schema} (h : schema.Reordered schema')
    (document : Json) : schema.strayKeys document = schema'.strayKeys document := by
  have hnames := perm_names h
  obtain ⟨fields, strict⟩ := schema
  obtain ⟨rfl, -⟩ := h
  cases document with
  | object members => simp only [strayKeys, hnames.mem_iff]
  | _ => rfl

/-- A schema keeps its violations up to order, once its fields do. -/
lemma Schema.perm_validate_of_fields {schema schema' : Schema} (h : schema.Reordered schema')
    (hfields : ∀ field ∈ schema.fields, ∀ field', field.Reordered field' →
      ∀ value, (field.validate value).Perm (field'.validate value)) (document : Json) :
    (schema.validate document).Perm (schema'.validate document) := by
  have hstray := strayKeys_of_reordered h document
  refine rel_validate (.of_eq hstray) (.of_eq (congrArg _ hstray)) fun _ => ?_
  obtain ⟨fields, strict⟩ := schema
  obtain ⟨-, moved, heach, hmoved⟩ := h
  refine (congruent_perm.flatMap ?_).trans (hmoved.flatMap_right _)
  have hboth := (List.forall₂_and_left _ _).2 ⟨hfields, reorderedEach_iff.1 heach⟩
  refine hboth.imp fun field field' hfield => ?_
  rw [hfield.2.name_eq]
  exact congruent_perm.below _ (hfield.1 field' hfield.2 _)

/-- An array field looks into arrays alone. -/
lemma Field.validate_of_not_array {field : Field} (hkind : field.kind = .array) {value : Json}
    (hvalue : ∀ items, value ≠ .array items) :
    field.validate value = (field.reasons value).map (Violation.here field.name) := by
  cases field with
  | list name required lengths item =>
      cases value with
      | array items => exact absurd rfl (hvalue items)
      | _ => simp [validate]
  | tuple name required lengths items =>
      cases value with
      | array items => exact absurd rfl (hvalue items)
      | _ => simp [validate]
  | _ => cases hkind

/-- An array field keeps its violations up to order, once those of its items are kept. -/
lemma Field.perm_validate_of_items (field field' : Field) (hkind : field.kind = .array)
    (hkind' : field'.kind = .array) (hname : field'.name = field.name)
    (hreasons : field'.reasons = field.reasons)
    (hitems : ∀ count i, Option.Rel (fun item item' : Field =>
      ∀ value, (item.validate value).Perm (item'.validate value)) (field.itemField? count i)
        (field'.itemField? count i))
    (value : Json) : (field.validate value).Perm (field'.validate value) := by
  cases value with
  | array items =>
      refine rel_validate_array congruent_perm.toAdditive hname.symm (by rw [hreasons]) rfl
        fun i x y hx hy => congruent_perm.below _ ?_
      obtain rfl : x = y := Option.some.inj (hx.symm.trans hy)
      have hitem := hitems items.length i
      rw [validateItem, validateItem]
      revert hitem
      generalize field.itemField? items.length i = item
      generalize field'.itemField? items.length i = item'
      rintro (hperm | _)
      · exact hperm x
      · exact .refl _
  | _ =>
      rw [validate_of_not_array hkind (by simp), validate_of_not_array hkind' (by simp), hreasons,
        hname]

lemma rel_getElem? {α β : Type} {R : α → β → Prop} {xs : List α} {ys : List β}
    (h : List.Forall₂ R xs ys) (i : Nat) : Option.Rel R xs[i]? ys[i]? := by
  induction h generalizing i with
  | nil => exact .none
  | cons hfirst _ ih =>
      cases i with
      | zero => exact .some hfirst
      | succ i => exact ih i

/-- **A field keeps its violations up to order** when fields in it are moved. -/
theorem Field.Reordered.perm_validate {field field' : Field} (h : field.Reordered field')
    (value : Json) : (field.validate value).Perm (field'.validate value) := by
  induction field using Field.ind generalizing field' value with
  | list name required lengths item ih =>
      obtain ⟨item', rfl, hitem⟩ := h
      refine perm_validate_of_items (.list name required lengths item)
        (.list name required lengths item') rfl rfl rfl ?_ (fun _ _ => .some (ih hitem)) value
      funext value
      cases value <;> rfl
  | tuple name required lengths fields ih =>
      obtain ⟨fields', rfl, heach⟩ := h
      rw [reorderedEach_iff] at heach
      have hlength := heach.length_eq
      refine perm_validate_of_items (.tuple name required lengths fields)
        (.tuple name required lengths fields') rfl rfl rfl ?_ (fun count i => ?_) value
      · funext value
        cases value with
        | null => rfl
        | _ => simp [reasons, reasonsPresent, hlength]
      · have hitems := ((List.forall₂_and_left _ _).2 ⟨ih, heach⟩).imp
          fun item item' hitem => hitem.1 hitem.2
        simp only [itemField?, hlength]
        split
        · exact rel_getElem? hitems i
        · exact .none
  | object name required schema ih =>
      obtain ⟨schema', rfl, hschema⟩ := h
      by_cases hnull : value = .null
      · rw [hnull, validate_null, validate_null]
        exact .refl _
      · rw [validate_object hnull, validate_object hnull]
        cases embedded value with
        | ok document =>
            exact Schema.perm_validate_of_fields hschema
              (fun field hmem _ hfield => ih field hmem hfield) document
        | error reason => exact .refl _
  | _ =>
      rw [show field' = _ from h]

/-! ### Both moves -/

/-- The field is no object field with a strict schema. -/
def Field.NotStrict : Field → Prop
  | .object _ _ schema => schema.strict = false
  | _ => True

/-- Neither the schema nor any schema in it is strict. -/
def Schema.NowhereStrict (schema : Schema) : Prop :=
  schema.strict = false ∧ schema.Everywhere Field.NotStrict

/-- **Order does not matter.**  Where members of a document are moved, and fields of a schema, there
are the same violations, each as often as before, and so the same verdict.  With the same schema,
and no schema strict, they are also reported in the same order. -/
theorem Schema.perm_validate_of_reordered (schema : Schema) {document document' : Json}
    (h : document.Reordered document') :
    (∀ schema', schema.Reordered schema' →
      (schema.validate document).Perm (schema'.validate document') ∧
        (schema.validate document = [] ↔ schema'.validate document' = [])) ∧
      (schema.NowhereStrict → schema.validate document = schema.validate document') := by
  constructor
  · intro schema' hschema
    have hmembers : (schema.validate document).Perm (schema.validate document') := by
      refine h.rel_schema_validate congruent_perm schema
        (Field.everywhere_of_forall fun field => ?_)
      cases field with
      | object name required schema => exact fun _ _ _ hperm => hperm
      | _ => trivial
    have hfields : (schema.validate document').Perm (schema'.validate document') :=
      perm_validate_of_fields hschema (fun _ _ _ hfield => hfield.perm_validate) document'
    have hperm := hmembers.trans hfields
    exact ⟨hperm, fun hnil => List.nil_perm.1 (hnil ▸ hperm),
      fun hnil => List.perm_nil.1 (hnil ▸ hperm)⟩
  · intro hstrict
    have himp : (Field.object "" false schema).Everywhere fun field =>
        field.NotStrict → field.OrderFree Eq := by
      refine Field.everywhere_of_forall fun field => ?_
      cases field with
      | object name required schema =>
          exact fun hnot hyes => absurd (hnot.symm.trans hyes) (by simp)
      | _ => exact fun _ => trivial
    exact h.rel_schema_validate congruent_eq schema (himp.mp hstrict)

/-- Members and fields are moved at two levels, with two undeclared keys below. -/
theorem Schema.perm_validate_of_reordered_levels :
    let zip : Field := .integer "zip" true {}
    let street : Field := .string "street" true {}
    let active : Field := .boolean "active" true none
    let schema (strict : Bool) : Schema :=
      ⟨[.object "home" false ⟨[zip, street], strict⟩, active], false⟩
    let schema' (strict : Bool) : Schema :=
      ⟨[active, .object "home" false ⟨[street, zip], strict⟩], false⟩
    let document : Json :=
      .object [("home", .object [("note", .null), ("colour", .null)]), ("active", .null)]
    let document' : Json :=
      .object [("active", .null), ("home", .object [("colour", .null), ("note", .null)])]
    document.Reordered document' ∧ (schema true).Reordered (schema' true) ∧
      ((schema true).validate document).Perm ((schema' true).validate document') ∧
      (schema false).NowhereStrict ∧
      (schema false).validate document = (schema false).validate document' := by
  intro zip street active schema schema' document document'
  have hhome : (Json.object [("note", .null), ("colour", .null)]).Reordered
      (.object [("colour", .null), ("note", .null)]) := by
    refine .object (by decide) (.swap _ _ _) rfl ?_
    rintro i key x y hx hy
    obtain rfl : x = y := congrArg Prod.snd (Option.some.inj (hx.symm.trans hy))
    exact .same x
  have hdocument : document.Reordered document' := by
    refine .object (by decide) (.swap _ _ _) rfl ?_
    rintro (_ | _ | i) key x y hx hy <;> cases hx <;> cases hy
    · exact .same .null
    · exact hhome
  have hschema : (schema true).Reordered (schema' true) :=
    ⟨rfl, [.object "home" false ⟨[street, zip], true⟩, active],
      ⟨⟨_, rfl, rfl, [zip, street], ⟨rfl, rfl, trivial⟩, .swap _ _ _⟩, rfl, trivial⟩,
      .swap _ _ _⟩
  have hstrict : (schema false).NowhereStrict :=
    ⟨rfl, ⟨rfl, trivial, trivial, trivial⟩, trivial, trivial⟩
  exact ⟨hdocument, hschema,
    ((perm_validate_of_reordered (schema true) hdocument).1 _ hschema).1, hstrict,
    (perm_validate_of_reordered (schema false) hdocument).2 hstrict⟩

end SchemaCheck
