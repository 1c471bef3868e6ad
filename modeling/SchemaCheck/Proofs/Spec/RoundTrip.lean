import Mathlib.Tactic.Common
import SchemaCheck.Proofs.Spec.Structure
import SchemaCheck.Proofs.Spec.Written

/-!
# Reading back fields and schemas

Which fields and schemas come back from the documents that describe them.

* `Field.Everywhere`: a property holds of a field and of all fields below it.
* `Field.Representable` and `Schema.Representable`: everywhere in the tree a document can say what a
  field sets (`Field.Writable`).
* `Field.restores_toSpec`, by induction on the field: its spec is read as the field itself where
  that is representable, and otherwise not at all.  `Schema.restores_toSpec` says so of schemas.
* `Field.same_self`: a representable field equals itself, which it need not where a limit is a NaN.
* `ofSpec_toSpec_eq_ok_iff`: both together, for fields and schemas.
-/

namespace SchemaCheck

/-! ### Trees that a document can describe -/

mutual

/-- The property holds of the field and of every field below it. -/
def Field.Everywhere (P : Field → Prop) : Field → Prop
  | .list name required lengths item => P (.list name required lengths item) ∧ item.Everywhere P
  | .tuple name required lengths items =>
    P (.tuple name required lengths items) ∧ everyField P items
  | .object name required schema => P (.object name required schema) ∧ schema.Everywhere P
  | field => P field

/-- The property holds of every field in the schema. -/
def Schema.Everywhere (P : Field → Prop) : Schema → Prop
  | ⟨fields, _⟩ => everyField P fields

/-- The property holds of every one of the fields and of every field below them. -/
def everyField (P : Field → Prop) : List Field → Prop
  | [] => True
  | field :: fields => field.Everywhere P ∧ everyField P fields

end

lemma everyField_iff {P : Field → Prop} {fields : List Field} :
    everyField P fields ↔ ∀ field ∈ fields, field.Everywhere P := by
  induction fields with
  | nil => simp [everyField]
  | cons field fields ih => rw [everyField, ih, List.forall_mem_cons]

/-- What holds of every field holds everywhere in one. -/
lemma Field.everywhere_of_forall {P : Field → Prop} (h : ∀ field, P field) {field : Field} :
    field.Everywhere P := by
  induction field using Field.ind with
  | list name required lengths item ih => exact ⟨h _, ih⟩
  | tuple name required lengths items ih => exact ⟨h _, everyField_iff.2 ih⟩
  | object name required schema ih =>
      obtain ⟨fields, strict⟩ := schema
      exact ⟨h _, everyField_iff.2 ih⟩
  | _ => exact h _

/-- What the field itself sets can be written: a name that is not empty, limits that are finite,
numbers of characters and items that fit in 64 bits, and at least one item for a tuple. -/
def Field.Writable (field : Field) : Prop :=
  field.name ≠ "" ∧
    match field with
    | .float _ _ rules => rules.All Binary64.IsFinite
    | .string _ _ rules => rules.Fit
    | .list _ _ lengths _ => lengths.Fit
    | .tuple _ _ lengths items => lengths.Fit ∧ items ≠ []
    | _ => True

/-- **Fields that a spec can describe.** -/
def Field.Representable (field : Field) : Prop := field.Everywhere Field.Writable

/-- **Schemas that a document can describe.** -/
def Schema.Representable (schema : Schema) : Prop := schema.Everywhere Field.Writable

lemma Schema.representable_iff {schema : Schema} :
    schema.Representable ↔ ∀ field ∈ schema.fields, field.Representable := by
  obtain ⟨fields, strict⟩ := schema
  exact everyField_iff

/-! ### The keys of every spec -/

namespace Field

open Checked

variable (field : Field) (rest : Members)

lemma kind_commonMembers_append : Members.kind (field.commonMembers ++ rest) = .ok field.kind := by
  have htype : (field.commonMembers ++ rest).lookup "type" = some (.string field.kind.name) := by
    simp [commonMembers, List.lookup_cons]
  rw [Members.kind, htype]
  simp only [Kind.ofName?_eq_some_iff.2 rfl]

/-- Name and requirement are restored unless the field has no name. -/
lemma restores_head {rest : Members} (h : rest.lookup "required" = none) {α : Type}
    (make : String → Bool → α) :
    ((build make |>.ap (Members.name (field.commonMembers ++ rest))).ap
      (Members.flag (field.commonMembers ++ rest) "required")).Restores
        (field.name ≠ "") (make field.name field.required) := by
  have hname : (field.commonMembers ++ rest).lookup "name" = some (.string field.name) := by
    simp [commonMembers]
  have hrequired : (field.commonMembers ++ rest).lookup "required" =
      if field.required then some (.bool true) else none := by
    cases hrequired : field.required <;> simp [commonMembers, List.lookup_cons, hrequired, h]
  exact (((restores_build make).ap (Members.restores_name hname)).ap
    (Members.restores_flag hrequired)).congr (by simp)

lemma lookup_commonMembers_append {key : String} (h : key ∉ ["name", "type", "required"]) :
    (field.commonMembers ++ rest).lookup key = rest.lookup key := by
  have hcommon : field.commonMembers.lookup key = none := by
    cases hrequired : field.required <;> simp_all [commonMembers]
  rw [List.lookup_append, hcommon, Option.none_or]

end Field

/-! ### Reading a tree back -/

/-- The spec of the field is read as the field where that is representable, and not at all
otherwise. -/
def Field.ComesBack (field : Field) : Prop :=
  (Field.ofSpec field.toSpec).Restores field.Representable field

/-- Fields come back as a list exactly if each of them can be written. -/
lemma restores_fieldsOfSpecs {fields : List Field} (h : ∀ field ∈ fields, field.ComesBack)
    (index : Nat) :
    (fieldsOfSpecs index (fieldSpecs fields)).Restores (∀ field ∈ fields, field.Representable)
      fields := by
  induction fields generalizing index with
  | nil =>
      rw [fieldSpecs, fieldsOfSpecs_nil]
      exact (Checked.restores_ok []).congr (by simp)
  | cons field fields ih =>
      obtain ⟨hfield, hfields⟩ := List.forall_mem_cons.1 h
      rw [fieldSpecs, fieldsOfSpecs]
      refine ((Checked.restores_build _).ap (hfield.within _)).ap (ih hfields _) |>.congr ?_
      rw [List.forall_mem_cons, true_and]

/-- A schema comes back exactly if its fields can be written. -/
lemma Schema.restores_toSpec_of_fields {schema : Schema}
    (h : ∀ field ∈ schema.fields, field.ComesBack) :
    (Schema.ofSpec schema.toSpec).Restores schema.Representable schema := by
  obtain ⟨fields, strict⟩ := schema
  rw [Schema.toSpec, Schema.ofSpec_object]
  generalize hmembers : (if strict then [("strict", Json.bool true)] else []) ++
    [("fields", Json.array (fieldSpecs fields))] = members
  have hstrict : members.lookup "strict" = if strict then some (.bool true) else none := by
    subst hmembers
    cases strict <;> simp [List.lookup_cons]
  have hfields : members.lookup "fields" = some (.array (fieldSpecs fields)) := by
    subst hmembers
    cases strict <;> simp [List.lookup_cons]
  rw [hfields]
  refine (((Checked.restores_build _).ap (Members.restores_flag hstrict)).ap
    (restores_fieldsOfSpecs h 0)).congr ?_
  rw [Schema.representable_iff, true_and, true_and]

namespace Field

open Checked

variable {name : String} {required : Bool}

/-- An integer field always comes back, if it has a name. -/
lemma comesBack_integer (rules : Rules Int64) : (Field.integer name required rules).ComesBack := by
  have hfree : rules.members.lookup "required" = none := by
    simp [Rules.members, List.lookup_append, lookup_optionalMember]
  rw [ComesBack, toSpec, ofSpec_object, kind_commonMembers_append]
  refine ((restores_head _ hfree Field.integer).ap
    (Members.restores_rules Json.inverts_int64 fun key => lookup_commonMembers_append _ _)).congr ?_
  simp [Representable, Everywhere, Writable, Rules.all_true]

/-- A float field comes back exactly if its limits are finite. -/
lemma comesBack_float (rules : Rules Binary64) : (Field.float name required rules).ComesBack := by
  have hfree : rules.members.lookup "required" = none := by
    simp [Rules.members, List.lookup_append, lookup_optionalMember]
  rw [ComesBack, toSpec, ofSpec_object, kind_commonMembers_append]
  exact (restores_head _ hfree Field.float).ap
    (Members.restores_rules Json.inverts_binary64 fun key => lookup_commonMembers_append _ _)

/-- A string field comes back exactly if its lengths fit into 64 bits. -/
lemma comesBack_string (rules : TextRules) : (Field.string name required rules).ComesBack := by
  have hfree : rules.members.lookup "required" = none := by
    simp [TextRules.members, List.lookup_append, lookup_optionalMember]
  rw [ComesBack, toSpec, ofSpec_object, kind_commonMembers_append]
  exact (restores_head _ hfree Field.string).ap
    (Members.restores_textRules fun key => lookup_commonMembers_append _ _)

/-- A boolean field always comes back, if it has a name. -/
lemma comesBack_boolean (expected : Option Bool) :
    (Field.boolean name required expected).ComesBack := by
  have hfree : (optionalMember "value" expected .bool).lookup "required" = none := by
    simp [lookup_optionalMember]
  rw [ComesBack, toSpec, ofSpec_object, kind_commonMembers_append]
  refine (restores_head _ hfree Field.boolean).ap (Members.restores_bool ?_)
  rw [lookup_commonMembers_append _ _ (by decide), lookup_optionalMember, if_pos rfl]

lemma comesBack_null : (Field.null name).ComesBack := by
  rw [ComesBack, toSpec, ofSpec_object, kind_commonMembers_append]
  refine (restores_head _ rfl fun name _ => Field.null name).congr ?_
  simp [Representable, Everywhere, Writable]

/-- What an array field writes besides the keys of every spec: the limits on the number of items,
and the specs of the items under one of two keys. -/
structure WritesArray (rest : Members) (lengths : Lengths) (item : Option Json)
    (specs : Option (List Json)) : Prop where
  required : rest.lookup "required" = none
  min : rest.lookup "min_length" = lengths.min.map lengthJson
  max : rest.lookup "max_length" = lengths.max.map lengthJson
  item : rest.lookup "items" = item
  specs : rest.lookup "fix_items" = specs.map .array

lemma writesArray_list (lengths : Lengths) (item : Json) :
    WritesArray (lengths.members ++ [("items", item)]) lengths (some item) none := by
  constructor <;>
    simp [Lengths.members, List.lookup_append, lookup_optionalMember, List.lookup_cons]

lemma writesArray_tuple (lengths : Lengths) (specs : List Json) :
    WritesArray (lengths.members ++ [("fix_items", .array specs)]) lengths none (some specs) := by
  constructor <;>
    simp [Lengths.members, List.lookup_append, lookup_optionalMember, List.lookup_cons]

/-- An array field is restored with its items, where its limits can be written. -/
lemma restores_arrayField (field : Field) {rest : Members} {lengths : Lengths} {item : Option Json}
    {specs : Option (List Json)} (h : WritesArray rest lengths item specs)
    {items : Checked Members.ArrayOf} {make : Members.ArrayOf} {p : Prop}
    (hitems : items.Restores p make) :
    (Members.arrayField (field.commonMembers ++ rest) items).Restores
      (field.name ≠ "" ∧ lengths.Fit ∧ p) (make field.name field.required lengths) := by
  have hmin := (lookup_commonMembers_append field rest (by decide)).trans h.min
  have hmax := (lookup_commonMembers_append field rest (by decide)).trans h.max
  have hspecs := (lookup_commonMembers_append field rest (by decide)).trans h.specs
  refine ((((restores_head field h.required _).ap (Members.restores_tupleSpecs hspecs)).ap
    (Members.restores_lengths hmin hmax)).ap hitems).congr ?_
  simp only [and_true, and_assoc]

namespace WritesArray

variable {rest : Members} {lengths : Lengths} {item : Option Json} {specs : Option (List Json)}

lemma lookup_items (h : WritesArray rest lengths item specs) (field : Field) :
    (field.commonMembers ++ rest).lookup "items" = item :=
  (lookup_commonMembers_append field rest (by decide)).trans h.item

lemma tupleItems_eq (h : WritesArray rest lengths item specs) (field : Field) :
    Members.tupleItems (field.commonMembers ++ rest) = specs.getD [] := by
  rw [Members.tupleItems, lookup_commonMembers_append _ _ (by decide), h.specs]
  cases specs <;> rfl

end WritesArray

/-- **A field for all items comes back** if the field of the items does. -/
lemma comesBack_list {item : Field} (lengths : Lengths) (h : item.ComesBack) :
    (Field.list name required lengths item).ComesBack := by
  have hwrites := writesArray_list lengths item.toSpec
  have hitems : (itemsOfSpec ((Field.list name required lengths item).commonMembers ++
      (lengths.members ++ [("items", item.toSpec)]))).Restores item.Representable
        fun name required lengths => .list name required lengths item := by
    rw [itemsOfSpec_eq, hwrites.lookup_items, hwrites.tupleItems_eq]
    exact (h.within _).map _
  rw [ComesBack, toSpec, ofSpec_object, kind_commonMembers_append]
  refine (restores_arrayField _ hwrites hitems).congr ?_
  simp only [Representable, Everywhere, Writable, and_assoc]

/-- **Fields for single items come back** if each of them does, and there is one at least. -/
lemma comesBack_tuple {items : List Field} (lengths : Lengths)
    (h : ∀ item ∈ items, item.ComesBack) : (Field.tuple name required lengths items).ComesBack := by
  have hwrites := writesArray_tuple lengths (fieldSpecs items)
  have hitems : (itemsOfSpec ((Field.tuple name required lengths items).commonMembers ++
      (lengths.members ++ [("fix_items", .array (fieldSpecs items))]))).Restores
        (items ≠ [] ∧ ∀ item ∈ items, item.Representable)
        fun name required lengths => .tuple name required lengths items := by
    have hfields := restores_fieldsOfSpecs h 0
    rw [itemsOfSpec_eq, hwrites.lookup_items, hwrites.tupleItems_eq, Option.getD_some]
    cases items with
    | nil =>
        -- An empty list of specs counts as none, so that there are no items at all.
        rw [fieldSpecs]
        exact (restores_error _ _).congr (by simp)
    | cons item items =>
        rw [fieldSpecs] at hfields ⊢
        exact ((hfields.within _).map _).congr (by simp)
  rw [ComesBack, toSpec, ofSpec_object, kind_commonMembers_append]
  refine (restores_arrayField _ hwrites hitems).congr ?_
  simp only [Representable, Everywhere, Writable, and_assoc, everyField_iff]

/-- **An object field comes back** if the fields of its schema do. -/
lemma comesBack_object {schema : Schema} (h : ∀ field ∈ schema.fields, field.ComesBack) :
    (Field.object name required schema).ComesBack := by
  have hschema : (Members.ofSchemaKey ((Field.object name required schema).commonMembers ++
      [("schema", schema.toSpec)])).Restores schema.Representable schema := by
    rw [Members.ofSchemaKey, lookup_commonMembers_append _ _ (by decide), List.lookup_cons_self]
    exact (Schema.restores_toSpec_of_fields h).within _
  have hfree : [("schema", schema.toSpec)].lookup "required" = none := rfl
  rw [ComesBack, toSpec, ofSpec_object, kind_commonMembers_append]
  refine ((restores_head _ hfree Field.object).ap hschema).congr ?_
  simp [Representable, Everywhere, Writable, Schema.Representable]

/-- **A spec is read as the field that it was written for**, where that is representable, and
otherwise not at all. -/
theorem restores_toSpec (field : Field) :
    (Field.ofSpec field.toSpec).Restores field.Representable field := by
  induction field using Field.ind with
  | integer name required rules => exact comesBack_integer rules
  | float name required rules => exact comesBack_float rules
  | string name required rules => exact comesBack_string rules
  | boolean name required expected => exact comesBack_boolean expected
  | list name required lengths item ih => exact comesBack_list lengths ih
  | tuple name required lengths items ih => exact comesBack_tuple lengths ih
  | object name required schema ih => exact comesBack_object ih
  | null name => exact comesBack_null

end Field

/-- **A document is read as the schema that it was written for**, where that is representable, and
otherwise not at all. -/
theorem Schema.restores_toSpec (schema : Schema) :
    (Schema.ofSpec schema.toSpec).Restores schema.Representable schema :=
  Schema.restores_toSpec_of_fields fun field _ => field.restores_toSpec

/-! ### Equality of fields -/

lemma Binary64.same_self {x : Binary64} (h : x.IsFinite) : Limit.same x x = true := by
  obtain ⟨y, rfl⟩ := h
  change (some (compare y.grains y.grains) == some .eq) = true
  simp

/-- Rules are the same as themselves if their limits are. -/
lemma Rules.same_self {α : Type} [Limit α] {P : α → Prop} (h : ∀ x, P x → Limit.same x x = true)
    {rules : Rules α} (hrules : rules.All P) : rules.same rules = true := by
  obtain ⟨min, max, sign, ranges⟩ := rules
  obtain ⟨hmin, hmax, hranges⟩ := hrules
  have hpair : ∀ ranges', ranges = some ranges' → ∀ a b, (a, b) ∈ ranges'.zip ranges' →
      Limit.same a.start b.start = true ∧ Limit.same a.stop b.stop = true := by
    intro ranges' hranges' a b hmem
    rw [List.zip, List.zipWith_self] at hmem
    obtain ⟨range, hrange, heq⟩ := List.mem_map.1 hmem
    obtain ⟨rfl, rfl⟩ := Prod.mk.inj heq
    obtain ⟨hstart, hstop⟩ := hranges ranges' hranges' range hrange
    exact ⟨h _ hstart, h _ hstop⟩
  cases min <;> cases max <;> cases ranges <;> simp_all [same]

/-- Fields are the same as themselves one by one. -/
lemma sameFields_self {fields : List Field} (h : ∀ field ∈ fields, field.same field = true) :
    sameFields fields fields = true := by
  induction fields with
  | nil => rfl
  | cons field fields ih =>
      obtain ⟨hfield, hfields⟩ := List.forall_mem_cons.1 h
      rw [sameFields, hfield, ih hfields, Bool.and_self]

/-- A field that can be written equals itself: none of its limits is a NaN. -/
lemma Field.same_self {field : Field} (h : field.Representable) : field.same field = true := by
  induction field using Field.ind with
  | integer name required rules =>
      have hrules := Rules.same_self (fun x _ => beq_self_eq_true (α := Int64) x) rules.all_true
      simp [Field.same, hrules]
  | float name required rules =>
      have hrules := Rules.same_self (fun _ => Binary64.same_self) h.2
      simp [Field.same, hrules]
  | string name required rules => simp [Field.same]
  | boolean name required expected => simp [Field.same]
  | list name required lengths item ih => simp [Field.same, ih h.2]
  | tuple name required lengths items ih =>
      have hitems := sameFields_self fun item hitem =>
        ih item hitem (everyField_iff.1 h.2 item hitem)
      simp [Field.same, hitems]
  | object name required schema ih =>
      obtain ⟨fields, strict⟩ := schema
      have hfields := sameFields_self fun field hfield =>
        ih field hfield (everyField_iff.1 h.2 field hfield)
      simp [Field.same, Schema.same, hfields]
  | null name => simp [Field.same]

lemma Schema.same_self {schema : Schema} (h : schema.Representable) :
    schema.same schema = true := by
  obtain ⟨fields, strict⟩ := schema
  have hfields := sameFields_self fun field hfield =>
    Field.same_self (everyField_iff.1 h field hfield)
  simp [Schema.same, hfields]

/-! ### The round trip -/

/-- **The round trip.**  What is written for a field can be read exactly when the field is
representable, and is read as the same field; and so for a schema. -/
theorem ofSpec_toSpec_eq_ok_iff :
    (∀ field back : Field, Field.ofSpec field.toSpec = .ok back ↔
      field.Representable ∧ back = field ∧ back.same field = true) ∧
    ∀ schema back : Schema, Schema.ofSpec schema.toSpec = .ok back ↔
      schema.Representable ∧ back = schema ∧ back.same schema = true := by
  constructor
  · intro field back
    rw [field.restores_toSpec back]
    refine and_congr_right fun h => ⟨?_, fun hback => hback.1⟩
    rintro rfl
    exact ⟨rfl, Field.same_self h⟩
  · intro schema back
    rw [schema.restores_toSpec back]
    refine and_congr_right fun h => ⟨?_, fun hback => hback.1⟩
    rintro rfl
    exact ⟨rfl, Schema.same_self h⟩

end SchemaCheck
