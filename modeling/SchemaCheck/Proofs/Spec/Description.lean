import Mathlib.Data.List.Forall2
import Mathlib.Tactic.Common
import SchemaCheck.Document
import SchemaCheck.Proofs.Spec.Listing
import SchemaCheck.Proofs.Spec.RoundTrip

/-!
# What a spec describes

The parts that a field or a schema is put together from where its spec can be read.

* `Members.parts_of_rules`, `parts_of_lengths`, `parts_of_textRules`: the limits and rules that keys
  give, one by one.
* `Members.Describe`: the members of a spec describe a field, whose parts are read from them one by
  one.  The field specs and schema documents below are read as wholes.
* `Field.describe_of_ofSpec`: a spec is read as a field that its members describe.
* `Schema.parts_of_ofSpec`: a document is read as the schema of the fields under its key.
* `Schema.everywhere_of_ofSpec`, by induction on the field: what holds of every field that its
  members describe holds everywhere in the schema that is read.
* `Schema.representable_of_ofSpec`: a schema that was read can be written and read again, where its
  limits are finite.
-/

namespace SchemaCheck

/-! ### Keys that are read -/

section Lists

variable {α β : Type} {convert : α → Option β} {values : List α} {xs : List β}

/-- Values that are converted together are converted one by one. -/
lemma forall₂_of_mapM (h : values.mapM convert = some xs) :
    List.Forall₂ (fun value x => convert value = some x) values xs := by
  induction values generalizing xs with
  | nil =>
      obtain rfl := Option.some.inj h
      exact .nil
  | cons value values ih =>
      rw [List.mapM_cons] at h
      obtain ⟨x, hx, hrest⟩ := Option.bind_eq_some_iff.1 h
      obtain ⟨xs', hxs, hcons⟩ := Option.bind_eq_some_iff.1 hrest
      obtain rfl := Option.some.inj hcons
      exact .cons hx (ih hxs)

/-- Each result is converted from one of the values. -/
lemma exists_of_mapM (h : values.mapM convert = some xs) :
    ∀ x ∈ xs, ∃ value ∈ values, convert value = some x := by
  replace h := forall₂_of_mapM h
  induction h with
  | nil => exact List.forall_mem_nil _
  | cons hx _ ih =>
      refine List.forall_mem_cons.2 ⟨⟨_, List.mem_cons_self, hx⟩, fun x hmem => ?_⟩
      obtain ⟨value, hvalue, hx⟩ := ih x hmem
      exact ⟨value, List.mem_cons_of_mem _ hvalue, hx⟩

end Lists

namespace Members

variable {α : Type} {members : Members} {key expected : String} {convert : Json → Option α}

/-- What is read under a key was converted from the value there, or there is none. -/
lemma lookup_of_read {value : Option α} (h : members.read key expected convert = .ok value) :
    (members.lookup key = none ∧ value = none) ∨
      ∃ json x, members.lookup key = some json ∧ convert json = some x ∧ value = some x := by
  rw [read] at h
  split at h
  · next hlookup => exact .inl ⟨hlookup, (Except.ok.inj h).symm⟩
  · next json hlookup =>
      split at h
      · next x hx => exact .inr ⟨json, x, hlookup, hx, (Except.ok.inj h).symm⟩
      · cases h

/-- A name that is read is under its key, and not empty. -/
lemma lookup_of_name {name : String} (h : Members.name members = .ok name) :
    members.lookup "name" = some (.string name) ∧ name ≠ "" := by
  rw [Members.name, Members.name?] at h
  split at h
  · next hname =>
      obtain rfl := Except.ok.inj h
      split at hname
      · next text hlookup =>
          split at hname
          · cases hname
          · next hempty =>
              obtain rfl := Option.some.inj hname
              exact ⟨hlookup, mt String.isEmpty_iff.2 hempty⟩
      · cases hname
  · cases h

/-- The ends of a range are converted from the values under their keys. -/
lemma lookup_of_range? [Limit α] {value : Json} {range : Range α} (h : range? value = some range) :
    ∃ ends first last, value = .object ends ∧
      ends.lookup "start" = some first ∧ Limit.ofJson? first = some range.start ∧
      ends.lookup "end" = some last ∧ Limit.ofJson? last = some range.stop := by
  cases value with
  | object ends =>
      obtain ⟨first, hfirst, hrest⟩ := Option.bind_eq_some_iff.1 h
      obtain ⟨start, hstart, hrest⟩ := Option.bind_eq_some_iff.1 hrest
      obtain ⟨last, hlast, hrest⟩ := Option.bind_eq_some_iff.1 hrest
      obtain ⟨stop, hstop, hends⟩ := Option.bind_eq_some_iff.1 hrest
      obtain rfl := Option.some.inj hends
      exact ⟨ends, first, last, rfl, hfirst, hstart, hlast, hstop⟩
  | _ => cases h

/-- The limits on a number are read key by key. -/
lemma parts_of_rules [Limit α] {rules : Rules α} (h : Members.rules members = .ok rules) :
    members.read "min" (Limit.expected α) Limit.ofJson? = .ok rules.min ∧
      members.read "max" (Limit.expected α) Limit.ofJson? = .ok rules.max ∧
      (∃ positive, members.bool "positive" = .ok positive ∧
        rules.sign = positive.map fun b => if b then .positive else .negative) ∧
      ∃ expected, members.read "ranges" expected
        (fun value => do (← value.items?).mapM range?) = .ok rules.ranges := by
  obtain ⟨_, ranges, hbefore, hranges, rfl⟩ := Checked.ap_eq_ok_iff.1 h
  obtain ⟨_, positive, hbefore', hpositive, rfl⟩ := Checked.ap_eq_ok_iff.1 hbefore
  obtain ⟨_, max, hbuild, hmax, rfl⟩ := Checked.ap_eq_ok_iff.1 hbefore'
  obtain ⟨_, min, hmake, hmin, rfl⟩ := Checked.ap_eq_ok_iff.1 hbuild
  obtain rfl := Except.ok.inj hmake
  exact ⟨hmin, hmax, ⟨positive, hpositive, rfl⟩, _, hranges⟩

/-- The limits on a number of items are read key by key. -/
lemma parts_of_lengths {lengths : Lengths} (h : Members.lengths members = .ok lengths) :
    members.length "min_length" = .ok lengths.min ∧
      members.length "max_length" = .ok lengths.max := by
  obtain ⟨_, max, hbuild, hmax, rfl⟩ := Checked.ap_eq_ok_iff.1 h
  obtain ⟨_, min, hmake, hmin, rfl⟩ := Checked.ap_eq_ok_iff.1 hbuild
  obtain rfl := Except.ok.inj hmake
  exact ⟨hmin, hmax⟩

/-- The rules for a text are read key by key. -/
lemma parts_of_textRules {rules : TextRules} (h : Members.textRules members = .ok rules) :
    members.length "min_length" = .ok rules.minLength ∧
      members.length "max_length" = .ok rules.maxLength ∧
      Members.format members = .ok rules.format ∧
      ∃ expected, members.read "choices" expected
        (fun value => do (← value.items?).mapM Json.string?) = .ok rules.choices := by
  obtain ⟨_, choices, hbefore, hchoices, rfl⟩ := Checked.ap_eq_ok_iff.1 h
  obtain ⟨_, format, hbefore', hformat, rfl⟩ := Checked.ap_eq_ok_iff.1 hbefore
  obtain ⟨_, max, hbuild, hmax, rfl⟩ := Checked.ap_eq_ok_iff.1 hbefore'
  obtain ⟨_, min, hmake, hmin, rfl⟩ := Checked.ap_eq_ok_iff.1 hbuild
  obtain rfl := Except.ok.inj hmake
  exact ⟨hmin, hmax, hformat, _, hchoices⟩

end Members

/-! ### Fields -/

/-- The specs are read as the fields, one by one. -/
abbrev ReadAs (specs : List Json) (fields : List Field) : Prop :=
  List.Forall₂ (fun spec field => Field.ofSpec spec = .ok field) specs fields

/-- A list of specs is read as fields exactly if each spec is read as its field. -/
lemma fieldsOfSpecs_eq_ok_iff {index : Nat} {specs : List Json} {fields : List Field} :
    fieldsOfSpecs index specs = .ok fields ↔ ReadAs specs fields := by
  induction specs generalizing index fields with
  | nil =>
      rw [fieldsOfSpecs_nil, ReadAs, List.forall₂_nil_left_iff, Except.ok.injEq, eq_comm]
  | cons spec specs ih =>
      rw [fieldsOfSpecs, Checked.ap_eq_ok_iff, ReadAs, List.forall₂_cons_left_iff]
      constructor
      · rintro ⟨make, fields, hmake, hfields, rfl⟩
        obtain ⟨make', field, hmake', hfield, rfl⟩ := Checked.ap_eq_ok_iff.1 hmake
        obtain rfl := Except.ok.inj hmake'
        exact ⟨field, fields, Checked.within_eq_ok_iff.1 hfield, ih.1 hfields, rfl⟩
      · rintro ⟨field, fields, hfield, hfields, rfl⟩
        exact ⟨_, _, Checked.ap_eq_ok_iff.2 ⟨_, _, rfl, Checked.within_eq_ok_iff.2 hfield, rfl⟩,
          ih.2 hfields, rfl⟩

namespace Members

/-- The members of a spec give the name of a field, and whether a value is required. -/
def Head (members : Members) (name : String) (required : Bool) : Prop :=
  Members.name members = .ok name ∧ members.flag "required" = .ok required

/-- **What the members of a spec describe**: the field of their kind whose parts are read from
them. -/
inductive Describe (members : Members) : Field → Prop
  | integer {name required rules} (kind : members.kind? = some .integer)
    (head : members.Head name required) (rules_eq : Members.rules members = .ok rules) :
    Describe members (.integer name required rules)
  | float {name required rules} (kind : members.kind? = some .float)
    (head : members.Head name required) (rules_eq : Members.rules members = .ok rules) :
    Describe members (.float name required rules)
  | string {name required rules} (kind : members.kind? = some .string)
    (head : members.Head name required) (rules_eq : Members.textRules members = .ok rules) :
    Describe members (.string name required rules)
  | boolean {name required expected} (kind : members.kind? = some .boolean)
    (head : members.Head name required) (expected_eq : members.bool "value" = .ok expected) :
    Describe members (.boolean name required expected)
  | list {name required lengths spec item} (kind : members.kind? = some .array)
    (head : members.Head name required) (lengths_eq : Members.lengths members = .ok lengths)
    (spec_eq : members.lookup "items" = some spec) (tuple : members.tupleItems = [])
    (item_eq : Field.ofSpec spec = .ok item) :
    Describe members (.list name required lengths item)
  | tuple {name required lengths items} (kind : members.kind? = some .array)
    (head : members.Head name required) (lengths_eq : Members.lengths members = .ok lengths)
    (item : members.lookup "items" = none) (tuple : members.tupleItems ≠ [])
    (items_eq : ReadAs members.tupleItems items) :
    Describe members (.tuple name required lengths items)
  | object {name required document schema} (kind : members.kind? = some .object)
    (head : members.Head name required) (document_eq : members.lookup "schema" = some document)
    (schema_eq : Schema.ofSpec document = .ok schema) :
    Describe members (.object name required schema)
  | null {name required} (kind : members.kind? = some .null)
    (head : members.Head name required) : Describe members (.null name)

lemma kind?_of_kind {members : Members} {kind : Kind} (h : Members.kind members = .ok kind) :
    members.kind? = some kind := by
  rw [kind_eq] at h
  split at h
  · next hkind => rw [hkind, Except.ok.inj h]
  · cases h

/-- Name and requirement come first in every field. -/
lemma head_of_build {members : Members} {α : Type} {make : String → Bool → α} {a : α}
    (h : ((Checked.build make).ap (Members.name members)).ap (members.flag "required") = .ok a) :
    ∃ name required, members.Head name required ∧ make name required = a := by
  obtain ⟨make', required, hmake, hrequired, rfl⟩ := Checked.ap_eq_ok_iff.1 h
  obtain ⟨make'', name, hmake', hname, rfl⟩ := Checked.ap_eq_ok_iff.1 hmake
  obtain rfl := Except.ok.inj hmake'
  exact ⟨name, required, ⟨hname, hrequired⟩, rfl⟩

variable {members : Members} {field : Field}

/-- Members that are read as an array field describe it. -/
lemma describe_of_itemsOfSpec (hkind : members.kind? = some .array)
    (h : members.arrayField (itemsOfSpec members) = .ok field) : members.Describe field := by
  obtain ⟨_, items, hmake, hitems, rfl⟩ := Checked.ap_eq_ok_iff.1 h
  obtain ⟨_, lengths, hspecs, hlengths, rfl⟩ := Checked.ap_eq_ok_iff.1 hmake
  obtain ⟨_, specs, hrequired, -, rfl⟩ := Checked.ap_eq_ok_iff.1 hspecs
  obtain ⟨name, required, hhead, rfl⟩ := head_of_build hrequired
  rw [itemsOfSpec_eq] at hitems
  -- Exactly one of the two keys gives items.
  split at hitems
  · cases hitems
  · next hitem hne =>
      obtain ⟨fields, hfields, rfl⟩ := Checked.map_eq_ok_iff.1 hitems
      rw [Checked.within_eq_ok_iff, fieldsOfSpecs_eq_ok_iff] at hfields
      exact .tuple hkind hhead hlengths hitem hne hfields
  · next hitem htuple =>
      obtain ⟨item, hread, rfl⟩ := Checked.map_eq_ok_iff.1 hitems
      exact .list hkind hhead hlengths hitem htuple (Checked.within_eq_ok_iff.1 hread)
  · cases hitems

lemma describe_of_ofSchemaKey (hkind : members.kind? = some .object)
    (h : members.objectField members.ofSchemaKey = .ok field) : members.Describe field := by
  obtain ⟨make, schema, hmake, hschema, rfl⟩ := Checked.ap_eq_ok_iff.1 h
  obtain ⟨name, required, hhead, rfl⟩ := head_of_build hmake
  rw [ofSchemaKey] at hschema
  split at hschema
  · cases hschema
  · next hdocument => exact .object hkind hhead hdocument (Checked.within_eq_ok_iff.1 hschema)

/-- Members that are read as any other field describe it. -/
lemma describe_of_simpleField {kind : Kind} (hkind : members.kind? = some kind)
    (harray : kind ≠ .array) (hobject : kind ≠ .object)
    (h : members.simpleField kind = .ok field) : members.Describe field := by
  cases kind with
  | integer =>
      obtain ⟨make, rules, hmake, hrules, rfl⟩ := Checked.ap_eq_ok_iff.1 h
      obtain ⟨name, required, hhead, rfl⟩ := head_of_build hmake
      exact .integer hkind hhead hrules
  | float =>
      obtain ⟨make, rules, hmake, hrules, rfl⟩ := Checked.ap_eq_ok_iff.1 h
      obtain ⟨name, required, hhead, rfl⟩ := head_of_build hmake
      exact .float hkind hhead hrules
  | string =>
      obtain ⟨make, rules, hmake, hrules, rfl⟩ := Checked.ap_eq_ok_iff.1 h
      obtain ⟨name, required, hhead, rfl⟩ := head_of_build hmake
      exact .string hkind hhead hrules
  | boolean =>
      obtain ⟨make, expected, hmake, hexpected, rfl⟩ := Checked.ap_eq_ok_iff.1 h
      obtain ⟨name, required, hhead, rfl⟩ := head_of_build hmake
      exact .boolean hkind hhead hexpected
  | null =>
      obtain ⟨name, required, hhead, rfl⟩ := head_of_build h
      exact .null hkind hhead
  | array => exact absurd rfl harray
  | object => exact absurd rfl hobject

end Members

/-- **A spec is read as a field that its members describe.** -/
theorem Field.describe_of_ofSpec {members : Members} {field : Field}
    (h : Field.ofSpec (.object members) = .ok field) : members.Describe field := by
  rw [ofSpec_object] at h
  split at h
  · cases h
  · next hkind => exact Members.describe_of_itemsOfSpec (Members.kind?_of_kind hkind) h
  · next hkind => exact Members.describe_of_ofSchemaKey (Members.kind?_of_kind hkind) h
  · next kind harray hobject hkind =>
      exact Members.describe_of_simpleField (Members.kind?_of_kind hkind) harray hobject h

lemma Field.exists_members_of_ofSpec {spec : Json} {field : Field}
    (h : Field.ofSpec spec = .ok field) : ∃ members, spec = .object members := by
  by_contra hspec
  rw [ofSpec_of_not_object (not_exists.1 hspec)] at h
  cases h

/-! ### Documents -/

/-- The field specs of a schema document; none where the key is absent or holds no list. -/
def Members.fieldItems (members : Members) : List Json :=
  match members.lookup "fields" with
  | some (.array specs) => specs
  | _ => []

lemma Members.lookup_of_mem_fieldItems {members : Members} {spec : Json}
    (h : spec ∈ members.fieldItems) :
    ∃ specs, members.lookup "fields" = some (.array specs) ∧ spec ∈ specs := by
  rw [fieldItems] at h
  split at h
  · next specs hlookup => exact ⟨specs, hlookup, h⟩
  · cases h

/-- **A document is read as the schema of its field specs.** -/
theorem Schema.parts_of_ofSpec {members : Members} {schema : Schema}
    (h : Schema.ofSpec (.object members) = .ok schema) :
    members.flag "strict" = .ok schema.strict ∧ ReadAs members.fieldItems schema.fields := by
  rw [ofSpec_object] at h
  rw [Members.fieldItems]
  split at h
  · next hlookup =>
      obtain ⟨strict, hstrict, rfl⟩ := Checked.map_eq_ok_iff.1 h
      rw [hlookup]
      exact ⟨hstrict, .nil⟩
  · next specs hlookup =>
      obtain ⟨_, fields, hmake, hfields, rfl⟩ := Checked.ap_eq_ok_iff.1 h
      obtain ⟨_, strict, hbuild, hstrict, rfl⟩ := Checked.ap_eq_ok_iff.1 hmake
      obtain rfl := Except.ok.inj hbuild
      rw [hlookup]
      exact ⟨hstrict, fieldsOfSpecs_eq_ok_iff.1 hfields⟩
  · cases h

lemma Schema.exists_members_of_ofSpec {document : Json} {schema : Schema}
    (h : Schema.ofSpec document = .ok schema) : ∃ members, document = .object members := by
  by_contra hdocument
  rw [ofSpec_of_not_object (not_exists.1 hdocument)] at h
  cases h

/-! ### Properties of all fields that are read -/

/-- Arrays and objects hand the property on to the values in them. -/
structure Json.Hereditary (Q : Json → Prop) : Prop where
  item : ∀ {items : List Json}, Q (.array items) → ∀ item ∈ items, Q item
  member : ∀ {members : Members} {key : String} {value : Json}, Q (.object members) →
    members.lookup key = some value → Q value

section Everywhere

variable {P : Field → Prop} {Q : Json → Prop}

/-- A property that passes from specs to their fields passes to all fields of a list. -/
lemma everyField_of_readAs {specs : List Json} {fields : List Field} (h : ReadAs specs fields)
    (hspecs : ∀ spec ∈ specs, Q spec)
    (hfields : ∀ field ∈ fields, ∀ spec, Q spec → Field.ofSpec spec = .ok field →
      field.Everywhere P) : everyField P fields := by
  induction h with
  | nil => trivial
  | cons hread hrest ih =>
      obtain ⟨hspec, hspecs⟩ := List.forall_mem_cons.1 hspecs
      obtain ⟨hfield, hfields⟩ := List.forall_mem_cons.1 hfields
      exact ⟨hfield _ hspec hread, ih hspecs hfields⟩

lemma Schema.everywhere_of_fields {schema : Schema} (hQ : Json.Hereditary Q)
    (hfields : ∀ field ∈ schema.fields, ∀ spec, Q spec → Field.ofSpec spec = .ok field →
      field.Everywhere P) {document : Json} (hdocument : Q document)
    (h : Schema.ofSpec document = .ok schema) : schema.Everywhere P := by
  obtain ⟨members, rfl⟩ := exists_members_of_ofSpec h
  obtain ⟨fields, strict⟩ := schema
  refine everyField_of_readAs (parts_of_ofSpec h).2 (fun spec hspec => ?_) hfields
  obtain ⟨specs, hlookup, hmem⟩ := Members.lookup_of_mem_fieldItems hspec
  exact hQ.item (hQ.member hdocument hlookup) spec hmem

/-- **A property of what members describe** holds of every field that is read. -/
theorem Field.everywhere_of_ofSpec (hQ : Json.Hereditary Q)
    (hP : ∀ (members : Members) field, Q (.object members) → members.Describe field → P field)
    {field : Field} : ∀ spec, Q spec → Field.ofSpec spec = .ok field → field.Everywhere P := by
  induction field using Field.ind with
  | list name required lengths item ih =>
      intro spec hspec h
      obtain ⟨members, rfl⟩ := exists_members_of_ofSpec h
      have hself := hP members _ hspec (describe_of_ofSpec h)
      cases describe_of_ofSpec h with
      | list _ _ _ hlookup _ hread =>
          exact ⟨hself, ih _ (hQ.member hspec hlookup) hread⟩
  | tuple name required lengths items ih =>
      intro spec hspec h
      obtain ⟨members, rfl⟩ := exists_members_of_ofSpec h
      have hself := hP members _ hspec (describe_of_ofSpec h)
      cases describe_of_ofSpec h with
      | tuple _ _ _ _ _ hread =>
          refine ⟨hself, everyField_of_readAs hread (fun spec hmem => ?_) ih⟩
          obtain ⟨specs, hlookup, hmem⟩ := Members.lookup_of_mem_tupleItems hmem
          exact hQ.item (hQ.member hspec hlookup) spec hmem
  | object name required schema ih =>
      intro spec hspec h
      obtain ⟨members, rfl⟩ := exists_members_of_ofSpec h
      have hself := hP members _ hspec (describe_of_ofSpec h)
      cases describe_of_ofSpec h with
      | object _ _ hlookup hread =>
          exact ⟨hself, Schema.everywhere_of_fields hQ ih (hQ.member hspec hlookup) hread⟩
  | _ =>
      intro spec hspec h
      obtain ⟨members, rfl⟩ := exists_members_of_ofSpec h
      exact hP members _ hspec (describe_of_ofSpec h)

/-- **What the members of a spec make true of its field** holds everywhere in a schema that is read.
-/
theorem Schema.everywhere_of_ofSpec (hQ : Json.Hereditary Q)
    (hP : ∀ (members : Members) field, Q (.object members) → members.Describe field → P field)
    {document : Json} {schema : Schema} (hdocument : Q document)
    (h : Schema.ofSpec document = .ok schema) : schema.Everywhere P :=
  Schema.everywhere_of_fields hQ (fun _ _ => Field.everywhere_of_ofSpec hQ hP) hdocument h

end Everywhere

/-! ### What is read can be written -/

/-- Bounds and ends of ranges of a float field are finite. -/
def Field.FiniteLimits : Field → Prop
  | .float _ _ rules => rules.All Binary64.IsFinite
  | _ => True

namespace Members

variable {members : Members}

/-- A length that is read can be written. -/
lemma fitsInt64_of_length {key : String} {n : Nat} (h : members.length key = .ok (some n)) :
    FitsInt64 n := by
  obtain ⟨value, -, hvalue⟩ := Checked.map_eq_ok_iff.1 h
  obtain ⟨k, -, hk⟩ := Option.bind_eq_some_iff.1 hvalue
  split at hk
  · next hpos =>
      have hmax := k.toInt_le
      rw [FitsInt64, ← Option.some.inj hk, Int.toNat_of_nonneg hpos]
      exact hmax
  · cases hk

lemma fit_of_lengths {lengths : Lengths} (h : Members.lengths members = .ok lengths) :
    lengths.Fit := by
  obtain ⟨hmin, hmax⟩ := parts_of_lengths h
  constructor
  · intro n hn
    exact fitsInt64_of_length (hn ▸ hmin)
  · intro n hn
    exact fitsInt64_of_length (hn ▸ hmax)

lemma fit_of_textRules {rules : TextRules} (h : Members.textRules members = .ok rules) :
    rules.Fit := by
  obtain ⟨hmin, hmax, -⟩ := parts_of_textRules h
  constructor
  · intro n hn
    exact fitsInt64_of_length (hn ▸ hmin)
  · intro n hn
    exact fitsInt64_of_length (hn ▸ hmax)

/-- A field that is read can be written, but for limits that are not finite. -/
lemma Describe.writable {field : Field} (h : members.Describe field)
    (hlimits : field.FiniteLimits) : field.Writable := by
  cases h with
  | integer _ hhead _ => exact ⟨(lookup_of_name hhead.1).2, trivial⟩
  | float _ hhead _ => exact ⟨(lookup_of_name hhead.1).2, hlimits⟩
  | string _ hhead hrules => exact ⟨(lookup_of_name hhead.1).2, fit_of_textRules hrules⟩
  | boolean _ hhead _ => exact ⟨(lookup_of_name hhead.1).2, trivial⟩
  | list _ hhead hlengths => exact ⟨(lookup_of_name hhead.1).2, fit_of_lengths hlengths⟩
  | tuple _ hhead hlengths _ hne hread =>
      refine ⟨(lookup_of_name hhead.1).2, fit_of_lengths hlengths, ?_⟩
      rintro rfl
      exact hne (List.forall₂_nil_right_iff.1 hread)
  | object _ hhead _ => exact ⟨(lookup_of_name hhead.1).2, trivial⟩
  | null _ hhead => exact ⟨(lookup_of_name hhead.1).2, trivial⟩

end Members

lemma everyField_mp {P P' : Field → Prop} {fields : List Field}
    (h : ∀ field ∈ fields, field.Everywhere (fun field => P field → P' field) →
      field.Everywhere P → field.Everywhere P')
    (himp : everyField (fun field => P field → P' field) fields) (hP : everyField P fields) :
    everyField P' fields :=
  everyField_iff.2 fun field hmem =>
    h field hmem (everyField_iff.1 himp field hmem) (everyField_iff.1 hP field hmem)

/-- What follows in every field below holds in all of them, if the premise does. -/
lemma Field.Everywhere.mp {P P' : Field → Prop} {field : Field}
    (himp : field.Everywhere fun field => P field → P' field) (hP : field.Everywhere P) :
    field.Everywhere P' := by
  induction field using Field.ind with
  | list name required lengths item ih => exact ⟨himp.1 hP.1, ih himp.2 hP.2⟩
  | tuple name required lengths items ih => exact ⟨himp.1 hP.1, everyField_mp ih himp.2 hP.2⟩
  | object name required schema ih =>
      obtain ⟨fields, strict⟩ := schema
      exact ⟨himp.1 hP.1, everyField_mp ih himp.2 hP.2⟩
  | _ => exact himp hP

lemma Json.hereditary_true : Json.Hereditary fun _ => True :=
  ⟨fun _ _ _ => trivial, fun _ _ => trivial⟩

/-- The field can be written where its limits can. -/
def Field.WritableBut (field : Field) : Prop := field.FiniteLimits → field.Writable

/-- Of a schema that was read, limits of float fields are all that might not be written. -/
lemma Schema.writableBut_of_ofSpec {document : Json} {schema : Schema}
    (h : Schema.ofSpec document = .ok schema) : schema.Everywhere Field.WritableBut :=
  everywhere_of_ofSpec Json.hereditary_true
    (fun _ _ _ hdescribe hlimits => hdescribe.writable hlimits) trivial h

/-- **A schema that was read can be written**, where the limits of its float fields can. -/
theorem Schema.representable_of_ofSpec {P : Field → Prop}
    (hP : ∀ field : Field, P field → field.FiniteLimits) {document : Json} {schema : Schema}
    (h : Schema.ofSpec document = .ok schema) (hlimits : schema.Everywhere P) :
    schema.Representable := by
  have himp : schema.Everywhere fun field => P field → field.Writable :=
    everywhere_of_ofSpec Json.hereditary_true
      (fun members field _ hdescribe hfield => hdescribe.writable (hP field hfield)) trivial h
  obtain ⟨fields, strict⟩ := schema
  exact everyField_mp (fun _ _ => Field.Everywhere.mp) himp hlimits

/-! ### Schemas of texts -/

/-- What is said of failures does not touch success. -/
lemma mapError_eq_ok_iff {ε ε' α : Type} {x : Except ε α} {f : ε → ε'} {a : α} :
    x.mapError f = .ok a ↔ x = .ok a := by
  cases x with
  | error error => simp [Except.mapError]
  | ok b => simp [Except.mapError]

lemma Schema.ofJson_eq_ok_iff {document : Json} {schema : Schema} :
    Schema.ofJson document = .ok schema ↔ Schema.ofSpec document = .ok schema :=
  mapError_eq_ok_iff

lemma Schema.exists_document_of_ofBytes {bytes : Json.Bytes} {schema : Schema}
    (h : Schema.ofBytes bytes = .ok schema) :
    ∃ document, Json.read bytes = .ok document ∧ Schema.ofSpec document = .ok schema := by
  rw [ofBytes] at h
  split at h
  · next document hdocument => exact ⟨document, hdocument, ofJson_eq_ok_iff.1 h⟩
  · cases h

end SchemaCheck
