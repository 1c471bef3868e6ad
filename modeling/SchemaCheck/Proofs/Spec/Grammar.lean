import SchemaCheck.Proofs.Spec.Listing
import SchemaCheck.Proofs.Spec.Refusal

/-!
# The grammar of schema documents

Which values are schema documents, said by productions, and the agreement of reading with it.

* `IsFieldSpec` and `IsSchemaDocument`: the sentences of the grammar.  `Members.IsHead` is the part
  that all field specs share, and `Members.SimpleKeys` the keys of the kinds without specs below.
* The lemmas `*_eq_nil_iff`: a key has no defects exactly when the grammar admits its value.
* `Field.exists_ofSpec_eq_ok_iff` and `Schema.exists_ofSpec_eq_ok_iff_isSchemaDocument`, by
  induction on specs: what can be read is what the grammar produces.
-/

namespace SchemaCheck

/-! ### Productions -/

/-- A string that can be read as a pattern. -/
def Json.IsPattern (value : Json) : Prop :=
  ∃ source, value = .string source ∧ (Pattern.ofSource? source).isSome = true

namespace Members

/-- What a field spec of any kind has: a name that is not empty, its kind, and perhaps whether a
value is required. -/
structure IsHead (members : Members) (kind : Kind) : Prop where
  name : ∃ name, members.lookup "name" = some (.string name) ∧ name ≠ ""
  type : members.lookup "type" = some (.string kind.name)
  required : members.Optional "required" Json.IsBoolean

/-- The keys for limits on a number. -/
structure HasLimits (members : Members) (P : Json → Prop) : Prop where
  min : members.Optional "min" P
  max : members.Optional "max" P
  positive : members.Optional "positive" Json.IsBoolean
  ranges : members.Optional "ranges" (Json.IsListOf (Json.IsRangeOf P))

/-- The keys for limits on a number of characters or items. -/
structure HasLengths (members : Members) : Prop where
  min : members.Optional "min_length" Json.IsInt64
  max : members.Optional "max_length" Json.IsInt64

/-- The keys of a kind whose specs have no other specs below them. -/
def SimpleKeys (members : Members) : Kind → Prop
  | .integer => members.HasLimits Json.IsInt64
  | .float => members.HasLimits Json.IsNumber
  | .string =>
    members.HasLengths ∧ members.Optional "format" Json.IsPattern ∧
      members.Optional "choices" (Json.IsListOf Json.IsString)
  | .boolean => members.Optional "value" Json.IsBoolean
  | .null => True
  | .array | .object => False

end Members

mutual

/-- **Field specs.**  The spec of an array field has a spec for all items or a list of specs, one
for each, but not both, though an empty list may stand beside the former. -/
inductive IsFieldSpec : Json → Prop
  | simple {members : Members} {kind : Kind} :
      members.IsHead kind → members.SimpleKeys kind → IsFieldSpec (.object members)
  | list {members : Members} {item : Json} :
      members.IsHead .array → members.HasLengths →
      members.lookup "items" = some item → IsFieldSpec item →
      members.Optional "fix_items" (· = .array []) → IsFieldSpec (.object members)
  | tuple {members : Members} {specs : List Json} :
      members.IsHead .array → members.HasLengths →
      members.lookup "items" = none → members.lookup "fix_items" = some (.array specs) →
      specs ≠ [] → (∀ spec ∈ specs, IsFieldSpec spec) → IsFieldSpec (.object members)
  | object {members : Members} {document : Json} :
      members.IsHead .object →
      members.lookup "schema" = some document → IsSchemaDocument document →
      IsFieldSpec (.object members)

/-- **Schema documents.** -/
inductive IsSchemaDocument : Json → Prop
  | bare {members : Members} :
      members.Optional "strict" Json.IsBoolean → members.lookup "fields" = none →
      IsSchemaDocument (.object members)
  | fields {members : Members} {specs : List Json} :
      members.Optional "strict" Json.IsBoolean → members.lookup "fields" = some (.array specs) →
      (∀ spec ∈ specs, IsFieldSpec spec) → IsSchemaDocument (.object members)

end

/-! ### Keys without defects -/

namespace Members

variable {members : Members}

lemma misfit_eq_nil_iff {key expected : String} {P : Json → Prop} [DecidablePred P] :
    members.misfit key expected P = [] ↔ members.Optional key P := by
  rw [misfit, Optional]
  cases members.lookup key <;> simp

/-- A spec has a kind exactly if it names it. -/
lemma kind?_eq_some_iff {kind : Kind} :
    members.kind? = some kind ↔ members.lookup "type" = some (.string kind.name) := by
  rw [kind?]
  generalize members.lookup "type" = value
  rcases value with _ | (_ | _ | _ | word | _ | _) <;> try simp
  exact Kind.ofName?_eq_some_iff

lemma nameDefects_eq_nil_iff :
    members.nameDefects = [] ↔
      ∃ name, members.lookup "name" = some (.string name) ∧ name ≠ "" := by
  rw [nameDefects]
  generalize members.lookup "name" = value
  rcases value with _ | (_ | _ | _ | name | _ | _) <;> simp

/-- Limits are in order exactly if each key of them is. -/
lemma limitDefects_eq_nil_iff {expected : String} {P : Json → Prop} [DecidablePred P] :
    members.limitDefects expected P = [] ↔ members.HasLimits P := by
  simp only [limitDefects, List.append_eq_nil_iff, misfit_eq_nil_iff]
  constructor
  · rintro ⟨⟨⟨hmin, hmax⟩, hpositive⟩, hranges⟩
    exact ⟨hmin, hmax, hpositive, hranges⟩
  · rintro ⟨hmin, hmax, hpositive, hranges⟩
    exact ⟨⟨⟨hmin, hmax⟩, hpositive⟩, hranges⟩

lemma lengthDefects_eq_nil_iff : members.lengthDefects = [] ↔ members.HasLengths := by
  simp only [lengthDefects, List.append_eq_nil_iff, misfit_eq_nil_iff]
  exact ⟨fun h => ⟨h.1, h.2⟩, fun h => ⟨h.min, h.max⟩⟩

lemma formatDefects_eq_nil_iff :
    members.formatDefects = [] ↔ members.Optional "format" Json.IsPattern := by
  rw [formatDefects, Optional]
  generalize members.lookup "format" = value
  rcases value with _ | (_ | _ | _ | source | _ | _) <;>
    simp [Json.IsPattern, Option.isSome_iff_ne_none]

lemma kindDefects_eq_nil_iff {kind : Kind} (harray : kind ≠ .array) (hobject : kind ≠ .object) :
    members.kindDefects kind = [] ↔ members.SimpleKeys kind := by
  cases kind <;> try contradiction
  all_goals
    simp only [kindDefects, SimpleKeys, List.append_eq_nil_iff, misfit_eq_nil_iff,
      limitDefects_eq_nil_iff, lengthDefects_eq_nil_iff, formatDefects_eq_nil_iff, and_assoc]

lemma isHead_iff {kind : Kind} (hkind : members.kind? = some kind) :
    members.IsHead kind ↔
      members.nameDefects = [] ∧ members.Optional "required" Json.IsBoolean := by
  rw [nameDefects_eq_nil_iff]
  exact ⟨fun h => ⟨h.name, h.required⟩, fun h => ⟨h.1, kind?_eq_some_iff.1 hkind, h.2⟩⟩

lemma optional_fix_items_iff :
    members.Optional "fix_items" (· = .array []) ↔
      members.Optional "fix_items" Json.IsArray ∧ members.tupleItems = [] := by
  simp only [Optional, tupleItems]
  generalize members.lookup "fix_items" = value
  rcases value with _ | (_ | _ | _ | _ | _ | _) <;> simp [Json.IsArray]

lemma lookup_fix_items (h : members.tupleItems ≠ []) :
    members.lookup "fix_items" = some (.array members.tupleItems) := by
  rw [tupleItems] at h ⊢
  generalize members.lookup "fix_items" = value at h ⊢
  rcases value with _ | (_ | _ | _ | _ | _ | _) <;> simp_all

end Members

/-! ### Sentences have no defects, and nothing else -/

namespace Members

variable {members : Members}

/-- Items are described without defects exactly if in one of the two ways, by specs without defects.
-/
lemma errors_itemsOfSpec_eq_nil_iff :
    (itemsOfSpec members).errors = [] ↔
      members.itemsDefects = [] ∧
        (∀ item, members.lookup "items" = some item → (Field.ofSpec item).errors = []) ∧
        ∀ spec ∈ members.tupleItems, (Field.ofSpec spec).errors = [] := by
  rw [errors_itemsOfSpec, List.append_eq_nil_iff, List.append_eq_nil_iff, List.map_eq_nil_iff,
    Checked.errors_within, List.map_eq_nil_iff, errors_fieldsOfSpecs_eq_nil_iff, and_assoc]
  cases members.lookup "items" <;> simp [itemOfSpec]

/-- The keys of a field spec are without defects when they are those of its kind. -/
lemma errors_simpleField_eq_nil_iff {kind : Kind} (hkind : members.kind? = some kind)
    (harray : kind ≠ .array) (hobject : kind ≠ .object) :
    (members.simpleField kind).errors = [] ↔ members.IsHead kind ∧ members.SimpleKeys kind := by
  rw [errors_simpleField members harray hobject, List.map_eq_nil_iff, List.append_eq_nil_iff,
    List.append_eq_nil_iff, misfit_eq_nil_iff, kindDefects_eq_nil_iff harray hobject,
    isHead_iff hkind]

/-- An object field has no defects exactly if its head is in order and its schema has none. -/
lemma errors_objectField_eq_nil_iff (hkind : members.kind? = some .object) :
    (members.objectField members.ofSchemaKey).errors = [] ↔
      members.IsHead .object ∧
        ∃ document, members.lookup "schema" = some document ∧
          (Schema.ofSpec document).errors = [] := by
  rw [errors_objectField, List.append_eq_nil_iff, List.map_eq_nil_iff, List.append_eq_nil_iff,
    misfit_eq_nil_iff, isHead_iff hkind]
  refine and_congr_right fun _ => ?_
  rw [ofSchemaKey]
  cases members.lookup "schema" <;> simp

/-- An array field is without defects when its specs are of one of the two sorts. -/
lemma errors_arrayField_eq_nil_iff (hkind : members.kind? = some .array) :
    (members.arrayField (itemsOfSpec members)).errors = [] ↔
      (members.IsHead .array ∧ members.HasLengths) ∧
        ((∃ item, members.lookup "items" = some item ∧ (Field.ofSpec item).errors = [] ∧
            members.Optional "fix_items" (· = .array [])) ∨
          ∃ specs, members.lookup "items" = none ∧
            members.lookup "fix_items" = some (.array specs) ∧ specs ≠ [] ∧
              ∀ spec ∈ specs, (Field.ofSpec spec).errors = []) := by
  simp only [errors_arrayField, List.append_eq_nil_iff, List.map_eq_nil_iff, misfit_eq_nil_iff,
    lengthDefects_eq_nil_iff, errors_itemsOfSpec_eq_nil_iff, isHead_iff hkind]
  constructor
  · -- Which of the two sorts it is shows in whether there is a spec for all items.
    rintro ⟨⟨⟨hhead, hlist⟩, hlengths⟩, hsorts, hitem, hspecs⟩
    refine ⟨⟨hhead, hlengths⟩, ?_⟩
    rw [itemsDefects] at hsorts
    cases hlookup : members.lookup "items" with
    | none =>
        have hne : members.tupleItems ≠ [] := by
          intro hnil
          simp [hlookup, hnil] at hsorts
        exact .inr ⟨_, rfl, lookup_fix_items hne, hne, hspecs⟩
    | some item =>
        have hnil : members.tupleItems = [] := by
          cases htuple : members.tupleItems with
          | nil => rfl
          | cons spec specs => simp [hlookup, htuple] at hsorts
        exact .inl ⟨item, rfl, hitem item hlookup, optional_fix_items_iff.2 ⟨hlist, hnil⟩⟩
  · rintro ⟨⟨hhead, hlengths⟩, ⟨item, hlookup, hitem, hfix⟩ | ⟨specs, hlookup, hfix, hne, hspecs⟩⟩
    · obtain ⟨hlist, hnil⟩ := optional_fix_items_iff.1 hfix
      refine ⟨⟨⟨hhead, hlist⟩, hlengths⟩, ?_, ?_, ?_⟩
      · simp [itemsDefects, hlookup, hnil]
      · intro item' hlookup'
        obtain rfl : item = item' := Option.some.inj (hlookup.symm.trans hlookup')
        exact hitem
      · simp [hnil]
    · have htuple : members.tupleItems = specs := by
        simp [tupleItems, hfix]
      refine ⟨⟨⟨hhead, ?_⟩, hlengths⟩, ?_, ?_, ?_⟩
      · intro value hvalue
        exact ⟨specs, (Option.some.inj (hfix.symm.trans hvalue)).symm⟩
      · cases specs with
        | nil => contradiction
        | cons spec specs => simp [itemsDefects, hlookup, htuple]
      · simp [hlookup]
      · rwa [htuple]

end Members

/-- The value has no defects as a field spec exactly when it is one. -/
def FieldSpecIff (value : Json) : Prop := (Field.ofSpec value).errors = [] ↔ IsFieldSpec value

/-- The value has no defects as a schema document exactly when it is one. -/
def DocumentIff (value : Json) : Prop := (Schema.ofSpec value).errors = [] ↔ IsSchemaDocument value

lemma Members.IsHead.kind?_eq {members : Members} {kind : Kind} (h : members.IsHead kind) :
    members.kind? = some kind :=
  Members.kind?_eq_some_iff.2 h.type

/-- Every field spec begins with a head of some kind. -/
lemma IsFieldSpec.exists_isHead {members : Members} (h : IsFieldSpec (.object members)) :
    ∃ kind, members.IsHead kind := by
  cases h with
  | simple hhead => exact ⟨_, hhead⟩
  | list hhead => exact ⟨_, hhead⟩
  | tuple hhead => exact ⟨_, hhead⟩
  | object hhead => exact ⟨_, hhead⟩

/-- What makes a spec of an array field: a head, lengths, and items in one of two ways. -/
lemma isFieldSpec_array_iff {members : Members} (hkind : members.kind? = some .array) :
    IsFieldSpec (.object members) ↔
      (members.IsHead .array ∧ members.HasLengths) ∧
        ((∃ item, members.lookup "items" = some item ∧ IsFieldSpec item ∧
            members.Optional "fix_items" (· = .array [])) ∨
          ∃ specs, members.lookup "items" = none ∧
            members.lookup "fix_items" = some (.array specs) ∧ specs ≠ [] ∧
              ∀ spec ∈ specs, IsFieldSpec spec) := by
  constructor
  · intro h
    cases h with
    | simple hhead hkeys =>
        obtain rfl := Option.some.inj (hkind.symm.trans hhead.kind?_eq)
        exact hkeys.elim
    | list hhead hlengths hlookup hitem hfix =>
        exact ⟨⟨hhead, hlengths⟩, .inl ⟨_, hlookup, hitem, hfix⟩⟩
    | tuple hhead hlengths hlookup hfix hne hspecs =>
        exact ⟨⟨hhead, hlengths⟩, .inr ⟨_, hlookup, hfix, hne, hspecs⟩⟩
    | object hhead => exact nomatch hkind.symm.trans hhead.kind?_eq
  · rintro ⟨⟨hhead, hlengths⟩, ⟨item, hlookup, hitem, hfix⟩ | ⟨specs, hlookup, hfix, hne, hspecs⟩⟩
    · exact .list hhead hlengths hlookup hitem hfix
    · exact .tuple hhead hlengths hlookup hfix hne hspecs

/-- What makes a spec of an object field: a head and a schema document. -/
lemma isFieldSpec_object_iff {members : Members} (hkind : members.kind? = some .object) :
    IsFieldSpec (.object members) ↔
      members.IsHead .object ∧
        ∃ document, members.lookup "schema" = some document ∧ IsSchemaDocument document := by
  constructor
  · intro h
    cases h with
    | simple hhead hkeys =>
        obtain rfl := Option.some.inj (hkind.symm.trans hhead.kind?_eq)
        exact hkeys.elim
    | list hhead | tuple hhead => exact nomatch hkind.symm.trans hhead.kind?_eq
    | object hhead hlookup hdocument => exact ⟨hhead, _, hlookup, hdocument⟩
  · rintro ⟨hhead, document, hlookup, hdocument⟩
    exact .object hhead hlookup hdocument

/-- What makes a spec of any other field: a head and the keys of its kind. -/
lemma isFieldSpec_simple_iff {members : Members} {kind : Kind} (hkind : members.kind? = some kind)
    (harray : kind ≠ .array) (hobject : kind ≠ .object) :
    IsFieldSpec (.object members) ↔ members.IsHead kind ∧ members.SimpleKeys kind := by
  constructor
  · intro h
    cases h with
    | simple hhead hkeys =>
        obtain rfl := Option.some.inj (hkind.symm.trans hhead.kind?_eq)
        exact ⟨hhead, hkeys⟩
    | list hhead | tuple hhead =>
        exact absurd (Option.some.inj (hkind.symm.trans hhead.kind?_eq)) harray
    | object hhead => exact absurd (Option.some.inj (hkind.symm.trans hhead.kind?_eq)) hobject
  · rintro ⟨hhead, hkeys⟩
    exact .simple hhead hkeys

/-- **One level of specs**: a field spec is in the grammar exactly if it has no defects, where that
holds of the specs below. -/
lemma fieldSpecIff_object {members : Members}
    (hitems : ∀ item, members.lookup "items" = some item → FieldSpecIff item)
    (hfix : ∀ specs, members.lookup "fix_items" = some (.array specs) →
      ∀ spec ∈ specs, FieldSpecIff spec)
    (hschema : ∀ document, members.lookup "schema" = some document → DocumentIff document) :
    FieldSpecIff (.object members) := by
  rw [FieldSpecIff, Field.ofSpec_object, Members.kind_eq]
  cases hkind : members.kind? with
  | none =>
      refine iff_of_false ?_ fun h => ?_
      · simp [members.typeDefects_ne_nil hkind]
      · obtain ⟨kind, hhead⟩ := h.exists_isHead
        exact nomatch hkind.symm.trans hhead.kind?_eq
  | some kind =>
      cases kind with
      | array =>
          rw [isFieldSpec_array_iff hkind]
          refine (Members.errors_arrayField_eq_nil_iff hkind).trans (and_congr_right fun _ => ?_)
          refine or_congr (exists_congr fun item => ?_) (exists_congr fun specs => ?_)
          · exact and_congr_right fun hlookup => and_congr_left fun _ => hitems item hlookup
          · refine and_congr_right fun _ => and_congr_right fun hlookup => ?_
            refine and_congr_right fun _ => ?_
            exact forall₂_congr fun spec hspec => hfix specs hlookup spec hspec
      | object =>
          rw [isFieldSpec_object_iff hkind]
          refine (Members.errors_objectField_eq_nil_iff hkind).trans (and_congr_right fun _ => ?_)
          exact exists_congr fun document => and_congr_right fun hlookup => hschema document hlookup
      | _ =>
          rw [isFieldSpec_simple_iff hkind nofun nofun]
          exact Members.errors_simpleField_eq_nil_iff hkind nofun nofun

/-- **One level of documents**: a document is in the grammar exactly if it has no defects, where
that holds of its specs. -/
lemma documentIff_object {members : Members}
    (hfields : ∀ specs, members.lookup "fields" = some (.array specs) →
      ∀ spec ∈ specs, FieldSpecIff spec) :
    DocumentIff (.object members) := by
  have hstrict : (members.flag "strict").errors = [] ↔
      members.Optional "strict" Json.IsBoolean := by
    rw [Members.errors_flag, List.map_eq_nil_iff, Members.misfit_eq_nil_iff]
  rw [DocumentIff, Schema.ofSpec_object]
  constructor
  · intro h
    cases hlookup : members.lookup "fields" with
    | none =>
        rw [hlookup, Checked.errors_map, hstrict] at h
        exact .bare h hlookup
    | some value =>
        cases value with
        | array specs =>
            simp only [hlookup, Checked.errors_ap, Checked.errors_build, List.nil_append,
              List.append_eq_nil_iff, hstrict, errors_fieldsOfSpecs_eq_nil_iff] at h
            exact .fields h.1 hlookup fun spec hspec =>
              (hfields specs hlookup spec hspec).1 (h.2 spec hspec)
        | _ => simp [hlookup] at h
  · intro h
    cases h with
    | bare h hlookup => rwa [hlookup, Checked.errors_map, hstrict]
    | fields h hlookup hspecs =>
        simp only [hlookup, Checked.errors_ap, Checked.errors_build, List.nil_append,
          List.append_eq_nil_iff, hstrict, errors_fieldsOfSpecs_eq_nil_iff]
        exact ⟨h, fun spec hspec => (hfields _ hlookup spec hspec).2 (hspecs spec hspec)⟩

/-- **The grammar is what reads without defects**, for field specs and schema documents alike. -/
theorem fieldSpecIff_and_documentIff (value : Json) : FieldSpecIff value ∧ DocumentIff value := by
  refine value.spec_induction (P := FieldSpecIff) (Q := DocumentIff) ?_ ?_ ?_ ?_
  · exact fun members => fieldSpecIff_object
  · intro value hvalue
    rw [FieldSpecIff, Field.ofSpec_of_not_object hvalue]
    refine iff_of_false (by simp) fun h => ?_
    cases h <;> exact hvalue _ rfl
  · exact fun members => documentIff_object
  · intro value hvalue
    rw [DocumentIff, Schema.ofSpec_of_not_object hvalue]
    refine iff_of_false (by simp) fun h => ?_
    cases h <;> exact hvalue _ rfl

/-- A field can be read from a value exactly when it is a field spec. -/
theorem Field.exists_ofSpec_eq_ok_iff (value : Json) :
    (∃ field, Field.ofSpec value = .ok field) ↔ IsFieldSpec value :=
  (told value).1.exists_ok_iff.trans (fieldSpecIff_and_documentIff value).1

/-- **A schema can be read from a document** exactly when the grammar produces it. -/
theorem Schema.exists_ofSpec_eq_ok_iff_isSchemaDocument (document : Json) :
    (∃ schema, Schema.ofSpec document = .ok schema) ↔ IsSchemaDocument document :=
  (told document).2.exists_ok_iff.trans (fieldSpecIff_and_documentIff document).2

end SchemaCheck
