import Mathlib.Data.List.Forall2
import Mathlib.Tactic.Common
import SchemaCheck.Proofs.Spec.Description
import SchemaCheck.Proofs.Spec.Refusal

/-!
# All or nothing

A spec that is read gives everything that is described in it, and a spec that is not says why.

* `SchemaPart`: a field or a schema, which is what specs are read as.  `SchemaPart.preorder` lists a
  part and all parts below it, as `SpecSite.preorder` lists specs.
* `SpecSite.outcome`: what a spec is read as, or what is wrong with it.  That is its own defects and
  those of the specs right below it (`SpecSite.errors_outcome`), so that none of these is refused
  alone (`SpecSite.refused_iff`).
* `Checked.Accounted`: where a part is missing, the whole is refused, and for what is wrong with the
  part.  The items of an array field and the schema of an object field are such parts.
* `fieldsOfSpecs_eq_ite`: a list of specs may be judged by its defects alone.
* `SpecSite.forall₂_children`: the specs right below a spec are read as the parts right below its
  part.  From it, by induction on specs, `SpecSite.forall₂_preorder`: all specs below it are read as
  all the parts below its part, one by one.
* `SpecSite.whole_or_refused`: what this comes to, for every spec.
-/

namespace SchemaCheck

/-! ### Parts of a schema -/

/-- A part of a schema: a field, or the whole schema of an object. -/
inductive SchemaPart
  | field (field : Field)
  | schema (schema : Schema)

namespace SchemaPart

/-- The parts right below a part. -/
def children : SchemaPart → List SchemaPart
  | .field (.list _ _ _ item) => [.field item]
  | .field (.tuple _ _ _ items) => items.map .field
  | .field (.object _ _ inner) => [.schema inner]
  | .field _ => []
  | .schema inner => inner.fields.map .field

/-- A part is smaller than what it is a part of. -/
lemma sizeOf_lt_of_mem_children {part child : SchemaPart} (h : child ∈ part.children) :
    sizeOf child < sizeOf part := by
  unfold children at h
  split at h
  · obtain rfl := List.mem_singleton.1 h
    simp only [field.sizeOf_spec, Field.list.sizeOf_spec]
    omega
  · next items =>
      obtain ⟨item, hitem, rfl⟩ := List.mem_map.1 h
      have hlt : sizeOf item < sizeOf items := List.sizeOf_lt_of_mem hitem
      simp only [field.sizeOf_spec, Field.tuple.sizeOf_spec]
      omega
  · obtain rfl := List.mem_singleton.1 h
    simp only [field.sizeOf_spec, schema.sizeOf_spec, Field.object.sizeOf_spec]
    omega
  · cases h
  · next inner =>
      obtain ⟨fields, strict⟩ := inner
      obtain ⟨item, hitem, rfl⟩ := List.mem_map.1 h
      have hlt : sizeOf item < sizeOf fields := List.sizeOf_lt_of_mem hitem
      simp only [field.sizeOf_spec, schema.sizeOf_spec, Schema.mk.sizeOf_spec]
      omega

/-- A part and all parts below it, each before those below it. -/
def preorder (part : SchemaPart) : List SchemaPart :=
  part :: part.children.attach.flatMap fun child => preorder child.1
termination_by sizeOf part
decreasing_by exact sizeOf_lt_of_mem_children child.2

lemma preorder_eq_cons (part : SchemaPart) :
    part.preorder = part :: part.children.flatMap preorder := by
  rw [preorder, List.flatMap_subtype fun _ _ => rfl, List.unattach_attach]

end SchemaPart

/-! ### What a spec is read as -/

namespace SpecSite

/-- The part that a spec is read as, or what is wrong with the spec. -/
def outcome : SpecSite → Checked SchemaPart
  | ⟨_, .field, spec⟩ => (Field.ofSpec spec).map .field
  | ⟨_, .document, document⟩ => (Schema.ofSpec document).map .schema

/-- The spec is read as the part. -/
def Gives (site : SpecSite) (part : SchemaPart) : Prop := site.outcome = .ok part

/-- The spec is not read. -/
def Refused (site : SpecSite) : Prop := ∃ errors, site.outcome = .error errors

lemma told_outcome (site : SpecSite) : site.outcome.Told := by
  obtain ⟨path, role, value⟩ := site
  cases role with
  | field => exact (told value).1.map _
  | document => exact (told value).2.map _

lemma refused_iff_errors_ne_nil {site : SpecSite} : site.Refused ↔ site.outcome.errors ≠ [] := by
  rw [Refused, ne_eq, ← site.told_outcome.exists_ok_iff]
  cases site.outcome <;> simp

lemma errors_eq_outcome (site : SpecSite) :
    site.errors = site.outcome.errors.map (SpecError.within site.path) := by
  obtain ⟨path, role, value⟩ := site
  cases role with
  | field => rw [outcome, Checked.errors_map, (lists value).1 path]
  | document => rw [outcome, Checked.errors_map, (lists value).2 path]

/-- **What is wrong with a spec** is what is wrong with it alone, and then what is wrong with the
specs right below it, one after the other. -/
lemma errors_outcome (site : SpecSite) :
    site.outcome.errors.map (SpecError.within site.path) =
      site.defects.map (SpecError.mk site.path) ++ site.children.flatMap fun child =>
        child.outcome.errors.map (SpecError.within child.path) := by
  rw [← errors_eq_outcome, errors_eq]
  simp only [← errors_eq_outcome]

/-- **A spec is refused** for a defect of its own, or because one right below it is. -/
theorem refused_iff {site : SpecSite} :
    site.Refused ↔ site.defects ≠ [] ∨ ∃ child ∈ site.children, child.Refused := by
  have herrors : site.outcome.errors = [] ↔
      site.defects = [] ∧ ∀ child ∈ site.children, child.outcome.errors = [] := by
    rw [← List.map_eq_nil_iff, errors_outcome, List.append_eq_nil_iff, List.map_eq_nil_iff,
      List.flatMap_eq_nil_iff]
    simp only [List.map_eq_nil_iff]
  simp only [refused_iff_errors_ne_nil, ne_eq, herrors, not_and_or, not_forall, exists_prop]

end SpecSite

/-! ### Parts that are accounted for -/

namespace Checked

variable {α β : Type}

/-- A part is there; or it is not, something is wrong with it, and the whole is refused for that
too. -/
def Accounted (part : Checked α) (whole : Checked β) : Prop :=
  (∃ a, part = .ok a) ∨
    ∃ errors others, errors ≠ [] ∧ part = .error errors ∧ whole = .error (others ++ errors)

lemma Told.accounted_ap {part : Checked α} (h : part.Told) (make : Checked (α → β)) :
    part.Accounted (make.ap part) := by
  obtain ⟨hne⟩ := h
  cases part with
  | ok a => exact .inl ⟨a, rfl⟩
  | error errors =>
      refine .inr ⟨errors, make.errors, fun hnil => hne (hnil ▸ rfl), rfl, ?_⟩
      cases make <;> rfl

end Checked

namespace Members

/-- An array field without items is refused. -/
lemma accounted_items (members : Members) :
    (itemsOfSpec members).Accounted (members.arrayField (itemsOfSpec members)) :=
  (told_itemsOfSpec (fun spec _ => (told spec).1) fun _ _ spec _ => (told spec).1).accounted_ap _

lemma told_ofSchemaKey (members : Members) : members.ofSchemaKey.Told := by
  rw [ofSchemaKey]
  split
  · exact Checked.told_error _ _
  · exact (told _).2.within _

/-- An object field without a schema is refused. -/
lemma accounted_schema (members : Members) :
    members.ofSchemaKey.Accounted (members.objectField members.ofSchemaKey) :=
  members.told_ofSchemaKey.accounted_ap _

end Members

/-! ### Lists judged by their defects -/

/-- What is wrong with the specs of a list, each in its place. -/
def defectsOfSpecs (index : Nat) (specs : List Json) : List SpecError :=
  (specs.zipIdx index).flatMap fun x =>
    (Field.ofSpec x.1).errors.map (SpecError.within [specSegment x.1 x.2])

/-- The fields of those specs of a list that can be read. -/
def fieldsAmongSpecs (specs : List Json) : List Field :=
  specs.filterMap fun spec => (Field.ofSpec spec).toOption

lemma fieldsAmongSpecs_eq {specs : List Json} {fields : List Field} (h : ReadAs specs fields) :
    fieldsAmongSpecs specs = fields := by
  induction h with
  | nil => rfl
  | cons hfield _ ih =>
      rw [fieldsAmongSpecs] at ih ⊢
      rw [List.filterMap_cons_some (by rw [hfield]; rfl), ih]

/-- **Where a list has no defects, no spec of it is passed over**: whether there are any is all that
has to be asked of a list before the fields that could be read are taken for those of all specs. -/
theorem fieldsOfSpecs_eq_ite (index : Nat) (specs : List Json) :
    fieldsOfSpecs index specs =
      if defectsOfSpecs index specs = [] then .ok (fieldsAmongSpecs specs)
      else .error (defectsOfSpecs index specs) := by
  rw [defectsOfSpecs, ← errors_fieldsOfSpecs]
  have htold := told_fieldsOfSpecs (fun spec (_ : spec ∈ specs) => (told spec).1) index
  cases hread : fieldsOfSpecs index specs with
  | ok fields =>
      rw [if_pos (Checked.errors_ok _), fieldsAmongSpecs_eq (fieldsOfSpecs_eq_ok_iff.1 hread)]
  | error errors =>
      have hne : errors ≠ [] := fun hnil => htold.ne_nil (hnil ▸ hread)
      rw [Checked.errors_error, if_neg hne]

/-! ### Nothing is left out -/

namespace SpecSite

lemma forall₂_sitesInList {specs : List Json} {fields : List Field} (h : ReadAs specs fields)
    (path : Path) : List.Forall₂ Gives (sitesInList path specs) (fields.map .field) := by
  rw [sitesInList]
  generalize 0 = i
  induction h generalizing i with
  | nil => exact .nil
  | cons hfield _ ih => exact .cons (Checked.map_eq_ok_iff.2 ⟨_, hfield, rfl⟩) (ih (i + 1))

/-- The specs below a field spec give the fields below its field. -/
lemma forall₂_specSites {members : Members} {field : Field} (h : members.Describe field)
    (path : Path) :
    List.Forall₂ Gives (members.specSites path) (SchemaPart.field field).children := by
  cases h with
  | list hkind _ _ hitem htuple hread =>
      simp only [Members.specSites, hkind, Members.itemSites, hitem, htuple, sitesInList]
      exact .cons (Checked.map_eq_ok_iff.2 ⟨_, hread, rfl⟩) .nil
  | tuple hkind _ _ hitem _ hread =>
      simp only [Members.specSites, hkind, Members.itemSites, hitem]
      exact forall₂_sitesInList hread _
  | object hkind _ hdocument hread =>
      simp only [Members.specSites, hkind, hdocument]
      exact .cons (Checked.map_eq_ok_iff.2 ⟨_, hread, rfl⟩) .nil
  | integer hkind | float hkind | string hkind | boolean hkind | null hkind =>
      simp only [Members.specSites, hkind]
      exact .nil

/-- The specs of a document give the fields of its schema. -/
lemma forall₂_documentSites {members : Members} {schema : Schema}
    (h : Schema.ofSpec (.object members) = .ok schema) (path : Path) :
    List.Forall₂ Gives (members.documentSites path) (SchemaPart.schema schema).children := by
  have hsites : members.documentSites path = sitesInList path members.fieldItems := by
    rw [Members.documentSites, Members.fieldItems]
    generalize members.lookup "fields" = value
    rcases value with _ | (_ | _ | _ | _ | _ | _) <;> rfl
  rw [hsites]
  exact forall₂_sitesInList (Schema.parts_of_ofSpec h).2 path

/-- **One step**: the specs right below a spec are read as the parts right below its part. -/
theorem forall₂_children {site : SpecSite} {part : SchemaPart} (h : site.Gives part) :
    List.Forall₂ Gives site.children part.children := by
  obtain ⟨path, role, value⟩ := site
  cases role with
  | field =>
      obtain ⟨field, hfield, rfl⟩ := Checked.map_eq_ok_iff.1 h
      obtain ⟨members, rfl⟩ := Field.exists_members_of_ofSpec hfield
      exact forall₂_specSites (Field.describe_of_ofSpec hfield) path
  | document =>
      obtain ⟨schema, hschema, rfl⟩ := Checked.map_eq_ok_iff.1 h
      obtain ⟨members, rfl⟩ := Schema.exists_members_of_ofSpec hschema
      exact forall₂_documentSites hschema path

/-- **The whole tree**: a spec and all specs below it are read as a part and all parts below it. -/
theorem forall₂_preorder {site : SpecSite} {part : SchemaPart} (h : site.Gives part) :
    List.Forall₂ Gives site.preorder part.preorder := by
  induction hsize : sizeOf site.value using Nat.strongRecOn generalizing site part with
  | _ size ih =>
      rw [preorder_eq, SchemaPart.preorder_eq_cons]
      refine .cons h ?_
      have hbelow : ∀ child ∈ site.children, sizeOf child.value < size := fun child hchild =>
        hsize ▸ sizeOf_lt_of_mem_children hchild
      have hchildren := (List.forall₂_and_left _ _).2 ⟨hbelow, forall₂_children h⟩
      exact List.rel_flatMap hchildren fun child part hchild => ih _ hchild.1 hchild.2 rfl

/-- **All or nothing.**  Of whatever is read as a field spec or as a schema document, at the top or
in another,

* either it is read, and then it and all specs below it, in their order, are read as a part and all
  parts below that; or it is refused, and then for a defect at least;
* it is refused exactly if it has a defect of its own, or a spec right below it is refused;
* where an array field has no items, or an object field no schema, there are defects of these, and
  they are among those that the field is refused for;
* the fields of a list are those that could be read, if there are no defects in the list. -/
theorem whole_or_refused (site : SpecSite) (members : Members) (index : Nat) (specs : List Json) :
    ((∃ part, site.outcome = .ok part ∧
        List.Forall₂ (fun site part => site.outcome = .ok part) site.preorder part.preorder) ∨
      ∃ errors, site.outcome = .error errors ∧ errors ≠ []) ∧
    ((∃ errors, site.outcome = .error errors) ↔
      site.defects ≠ [] ∨ ∃ child ∈ site.children, ∃ errors, child.outcome = .error errors) ∧
    (itemsOfSpec members).Accounted (members.arrayField (itemsOfSpec members)) ∧
    members.ofSchemaKey.Accounted (members.objectField members.ofSchemaKey) ∧
    fieldsOfSpecs index specs =
      if defectsOfSpecs index specs = [] then .ok (fieldsAmongSpecs specs)
      else .error (defectsOfSpecs index specs) := by
  refine ⟨?_, refused_iff, members.accounted_items, members.accounted_schema,
    fieldsOfSpecs_eq_ite index specs⟩
  cases houtcome : site.outcome with
  | ok part => exact .inl ⟨part, rfl, forall₂_preorder houtcome⟩
  | error errors =>
      refine .inr ⟨errors, rfl, fun hnil => ?_⟩
      rw [hnil] at houtcome
      exact site.told_outcome.ne_nil houtcome

end SpecSite

end SchemaCheck
