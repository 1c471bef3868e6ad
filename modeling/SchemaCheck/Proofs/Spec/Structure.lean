import Mathlib.Tactic.Common
import SchemaCheck.Spec.Reading

/-!
# The structure of specs

The equations of reading a spec, and induction along them.

* `Field.ofSpec_object`, `itemsOfSpec_eq`, `Members.ofSchemaKey` and `Schema.ofSpec_object`: what is
  read from an object.
* `errors_fieldsOfSpecs`: specs in a list are read one by one, each from its own step.
* `Json.spec_induction`: a property of specs and one of schema documents hold of all values once
  they are inherited from the specs and documents below.
-/

namespace SchemaCheck

/-! ### Equations -/

/-- The schema of an object field. -/
def Members.ofSchemaKey (members : Members) : Checked Schema :=
  match members.lookup "schema" with
  | none => .defect .missingSchema
  | some document => (Schema.ofSpec document).within [.key "schema"]

/-- The item field under `items`. -/
def itemOfSpec (spec : Json) : Checked Field :=
  (Field.ofSpec spec).within (.key "items" :: (nameSegment? spec).toList)

/-- The specs for the items of a tuple; none where the key is absent or holds no list. -/
def Members.tupleItems (members : Members) : List Json :=
  match members.lookup "fix_items" with
  | some (.array specs) => specs
  | _ => []

lemma Members.lookup_of_mem_tupleItems {members : Members} {spec : Json}
    (h : spec ∈ members.tupleItems) :
    ∃ specs, members.lookup "fix_items" = some (.array specs) ∧ spec ∈ specs := by
  rw [tupleItems] at h
  split at h
  · next specs hlookup => exact ⟨specs, hlookup, h⟩
  · cases h

/-- An object is read as a field of the kind that it names. -/
lemma Field.ofSpec_object (members : Members) :
    Field.ofSpec (.object members) =
      match Members.kind members with
      | .error errors =>
        .error (errors ++ (Members.name members).errors ++
          (Members.flag members "required").errors)
      | .ok .array => Members.arrayField members (itemsOfSpec members)
      | .ok .object => Members.objectField members (Members.ofSchemaKey members)
      | .ok kind => Members.simpleField members kind := by
  rw [Field.ofSpec]
  cases hkind : Members.kind members with
  | error errors => rfl
  | ok kind =>
      cases kind <;> try rfl
      case object =>
        simp only [Members.ofSchemaKey]
        generalize members.lookup "schema" = document
        cases document <;> rfl

lemma Field.ofSpec_of_not_object {spec : Json} (h : ∀ members, spec ≠ .object members) :
    Field.ofSpec spec = .defect (.fieldNotObject spec.kind) := by
  rw [Field.ofSpec]
  exact h

/-- An empty list of specs is read as none. -/
lemma Members.tupleSpecs_of_nil {members : Members} (h : members.tupleItems = []) :
    (∃ errors, members.tupleSpecs = .error errors) ∨ members.tupleSpecs = .ok none := by
  rw [tupleItems] at h
  rw [tupleSpecs, read]
  generalize members.lookup "fix_items" = value at *
  rcases value with _ | (_ | _ | _ | _ | _ | _) <;> try exact .inl ⟨_, rfl⟩
  · exact .inr rfl
  · next specs =>
      obtain rfl : specs = [] := h
      exact .inr rfl

/-- A list of specs is read as it is. -/
lemma Members.tupleSpecs_of_ne_nil {members : Members} (h : members.tupleItems ≠ []) :
    members.tupleSpecs = .ok (some members.tupleItems) := by
  rw [tupleItems] at h ⊢
  rw [tupleSpecs, read]
  generalize members.lookup "fix_items" = value at *
  rcases value with _ | (_ | _ | _ | _ | specs | _) <;> try exact absurd rfl h
  cases specs with
  | nil => exact absurd rfl h
  | cons spec specs => rfl

/-- Items are asked for under one of two keys.  Whatever is under both of them is read. -/
lemma itemsOfSpec_eq (members : Members) :
    itemsOfSpec members =
      match members.lookup "items", members.tupleItems with
      | none, [] => .defect .missingItems
      | none, specs =>
        ((fieldsOfSpecs 0 specs).within [.key "fix_items"]).map
          fun fields name required lengths => .tuple name required lengths fields
      | some spec, [] =>
        (itemOfSpec spec).map fun item name required lengths => .list name required lengths item
      | some spec, specs =>
        .error (.here .conflictingItems :: (itemOfSpec spec).errors ++
          ((fieldsOfSpecs 0 specs).within [.key "fix_items"]).errors) := by
  rw [itemsOfSpec]
  simp only [itemOfSpec]
  generalize members.lookup "items" = item
  cases hitems : members.tupleItems with
  | nil =>
      rcases Members.tupleSpecs_of_nil hitems with ⟨errors, htuple⟩ | htuple <;>
        generalize members.tupleSpecs = tuple at htuple <;> subst htuple <;> cases item <;> rfl
  | cons spec specs =>
      have htuple := @Members.tupleSpecs_of_ne_nil members (by simp [hitems])
      rw [hitems] at htuple
      generalize members.tupleSpecs = tuple at htuple
      subst htuple
      cases item <;> rfl

/-- A document is read as a schema of the fields that it lists. -/
lemma Schema.ofSpec_object (members : Members) :
    Schema.ofSpec (.object members) =
      match members.lookup "fields" with
      | none => (Members.flag members "strict").map fun strict => ⟨[], strict⟩
      | some (.array specs) =>
        Checked.build (fun strict fields => (⟨fields, strict⟩ : Schema))
          |>.ap (Members.flag members "strict") |>.ap (fieldsOfSpecs 0 specs)
      | some _ => .error ((Members.flag members "strict").errors ++ [.here .fieldsNotArray]) := by
  rw [Schema.ofSpec]
  simp only
  generalize members.lookup "fields" = specs
  rcases specs with _ | (_ | _ | _ | _ | _ | _) <;> rfl

lemma Schema.ofSpec_of_not_object {document : Json} (h : ∀ members, document ≠ .object members) :
    Schema.ofSpec document = .defect (.documentNotObject document.kind) := by
  rw [Schema.ofSpec]
  exact h

lemma fieldsOfSpecs_nil (index : Nat) : fieldsOfSpecs index [] = .ok [] := by
  rw [fieldsOfSpecs]

/-- The defects of a list of specs are those of each, under its name or its index. -/
lemma errors_fieldsOfSpecs (index : Nat) (specs : List Json) :
    (fieldsOfSpecs index specs).errors = (specs.zipIdx index).flatMap fun x =>
      (Field.ofSpec x.1).errors.map (SpecError.within [specSegment x.1 x.2]) := by
  induction specs generalizing index with
  | nil => rw [fieldsOfSpecs_nil, Checked.errors_ok, List.zipIdx_nil, List.flatMap_nil]
  | cons spec specs ih =>
      rw [fieldsOfSpecs, Checked.errors_ap, Checked.errors_ap, ih, List.zipIdx_cons,
        List.flatMap_cons, Checked.errors_within, Checked.errors_build, List.nil_append]

/-- A list of specs has no defects exactly if none of them has. -/
lemma errors_fieldsOfSpecs_eq_nil_iff {index : Nat} {specs : List Json} :
    (fieldsOfSpecs index specs).errors = [] ↔ ∀ spec ∈ specs, (Field.ofSpec spec).errors = [] := by
  induction specs generalizing index with
  | nil =>
      rw [fieldsOfSpecs_nil]
      exact iff_of_true rfl (List.forall_mem_nil _)
  | cons spec specs ih =>
      rw [fieldsOfSpecs, Checked.errors_ap, Checked.errors_ap, Checked.errors_build,
        List.nil_append, Checked.errors_within, List.append_eq_nil_iff, List.map_eq_nil_iff, ih,
        List.forall_mem_cons]

/-! ### Induction -/

/-- **Induction on specs**: the property `P` of field specs and the property `Q` of schema documents
hold of every value once an object inherits them from the specs and documents under its keys. -/
theorem Json.spec_induction {P Q : Json → Prop}
    (field : ∀ members : Members,
      (∀ spec, members.lookup "items" = some spec → P spec) →
      (∀ specs, members.lookup "fix_items" = some (.array specs) → ∀ spec ∈ specs, P spec) →
      (∀ document, members.lookup "schema" = some document → Q document) → P (.object members))
    (notField : ∀ value, (∀ members, value ≠ .object members) → P value)
    (document : ∀ members : Members,
      (∀ specs, members.lookup "fields" = some (.array specs) → ∀ spec ∈ specs, P spec) →
      Q (.object members))
    (notDocument : ∀ value, (∀ members, value ≠ .object members) → Q value) (value : Json) :
    P value ∧ Q value := by
  -- By size: the specs below are values of keys, or in lists that are.
  induction hsize : sizeOf value using Nat.strongRecOn generalizing value with
  | _ size ih =>
      subst hsize
      cases value with
      | object members =>
          have hbelow : ∀ {key : String} {below : Json}, members.lookup key = some below →
              sizeOf below < sizeOf (Json.object members) := by
            intro key below h
            have hlt := sizeOf_lookup_lt h
            simp only [Json.object.sizeOf_spec]
            omega
          have hlist : ∀ {key : String} {specs : List Json},
              members.lookup key = some (.array specs) → ∀ spec ∈ specs, P spec := by
            intro key specs h spec hspec
            have hlt := hbelow h
            have hmem := List.sizeOf_lt_of_mem hspec
            simp only [Json.array.sizeOf_spec] at hlt
            exact (ih _ (by omega) spec rfl).1
          exact ⟨field members (fun spec h => (ih _ (hbelow h) spec rfl).1) (fun _ h => hlist h)
            (fun doc h => (ih _ (hbelow h) doc rfl).2), document members fun _ h => hlist h⟩
      | _ => exact ⟨notField _ (by simp), notDocument _ (by simp)⟩

end SchemaCheck
