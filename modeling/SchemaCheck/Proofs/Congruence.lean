import Mathlib.Data.List.Forall2
import Mathlib.Data.List.Perm.Basic
import Mathlib.Tactic.Common
import SchemaCheck.Proofs.Visits

/-!
# What validation depends on

Two values have the same violations when whatever validation looks at in them has.

* `Violation.Additive`: a relation between lists of violations that is kept when lists are put
  together.  Equality is one; others are equality up to order, and equality of the violations at
  certain places.
* `Schema.rel_validate`, `Field.rel_validate_array` and `Field.rel_validate_object`: violations are
  related where those of the members or items are, and those of undeclared keys.
* `Schema.validate_congr`: a document matters only by its undeclared keys, where the schema is
  strict, and by the values that the fields look at.
* `Schema.validate_eq_of_members`: where two objects have the same keys, their members may be looked
  at one by one.
* `Field.validate_array_congr`: an array matters only by the number of its items and by the items
  themselves.
* `Field.validate_object_congr`: a value of an object field matters only by the object that it
  holds.
-/

namespace SchemaCheck

/-! ### Lists of violations put together -/

namespace Violation

/-- A relation between lists of violations that is kept when lists are put together. -/
structure Additive (R : List Violation → List Violation → Prop) : Prop where
  refl (violations : List Violation) : R violations violations
  append {first first' rest rest' : List Violation} :
    R first first' → R rest rest' → R (first ++ rest) (first' ++ rest')

lemma additive_eq : Additive Eq := ⟨fun _ => rfl, fun hfirst hrest => by rw [hfirst, hrest]⟩

section

variable {R : List Violation → List Violation → Prop} {α β : Type} {xs : List α} {ys : List β}

lemma Additive.flatMap (hR : Additive R) {f : α → List Violation} {g : β → List Violation}
    (h : List.Forall₂ (fun x y => R (f x) (g y)) xs ys) : R (xs.flatMap f) (ys.flatMap g) := by
  induction h with
  | nil => exact hR.refl []
  | cons hfirst _ ih =>
      rw [List.flatMap_cons, List.flatMap_cons]
      exact hR.append hfirst ih

/-- The violations of elements that are looked at one by one, each in its place. -/
lemma Additive.flatMap_zipIdx (hR : Additive R) {f : Nat → α → List Violation}
    {g : Nat → β → List Violation} (hlength : xs.length = ys.length)
    (h : ∀ i x y, xs[i]? = some x → ys[i]? = some y → R (f i x) (g i y)) :
    R (xs.zipIdx.flatMap fun x => f x.2 x.1) (ys.zipIdx.flatMap fun y => g y.2 y.1) := by
  refine hR.flatMap (List.forall₂_iff_get.2 ⟨by simpa using hlength, fun i hi hi' => ?_⟩)
  have hxs : i < xs.length := by simpa using hi
  have hys : i < ys.length := by simpa using hi'
  simpa using h i _ _ (List.getElem?_eq_getElem hxs) (List.getElem?_eq_getElem hys)

end

/-- The report of a key that a strict schema does not know. -/
def stray (key : String) : Violation := ⟨[.key key], key, .unknownField⟩

end Violation

open Violation (Additive additive_eq)

/-! ### Documents -/

namespace Schema

variable {R : List Violation → List Violation → Prop} {schema schema' : Schema}
  {document document' : Json}

/-- The violations of all fields, each at the member of its name. -/
def memberViolations (schema : Schema) (document : Json) : List Violation :=
  schema.fields.flatMap fun field =>
    below (.key field.name) (field.validate (document.valueAt field.name))

lemma validate_eq (schema : Schema) (document : Json) :
    schema.validate document =
      if schema.strayKeys document = [] then schema.memberViolations document
      else (schema.strayKeys document).map Violation.stray := by
  rw [strayKeys_eq]
  obtain ⟨fields, strict⟩ := schema
  rw [Schema.validate]
  cases Schema.unknownKeys ⟨fields, strict⟩ document with
  | nil => exact validateMembers_eq_flatMap fields document
  | cons key keys => rfl

/-- **Documents** have related violations where they have the same undeclared keys, in any order
that does not matter to the reports of them; and where there are none, the fields find related
violations. -/
theorem rel_validate (hkeys : (schema.strayKeys document).Perm (schema'.strayKeys document'))
    (hstray : R ((schema.strayKeys document).map Violation.stray)
      ((schema'.strayKeys document').map Violation.stray))
    (hmembers : schema.strayKeys document = [] →
      R (schema.memberViolations document) (schema'.memberViolations document')) :
    R (schema.validate document) (schema'.validate document') := by
  rw [validate_eq, validate_eq]
  by_cases hnone : schema.strayKeys document = []
  · have hnone' : schema'.strayKeys document' = [] := List.perm_nil.1 (hnone ▸ hkeys.symm)
    rw [if_pos hnone, if_pos hnone']
    exact hmembers hnone
  · have hsome : schema'.strayKeys document' ≠ [] := fun hnone' =>
      hnone (List.perm_nil.1 (hnone' ▸ hkeys))
    rw [if_neg hnone, if_neg hsome]
    exact hstray

lemma rel_memberViolations (hR : Additive R)
    (h : ∀ field ∈ schema.fields,
      R (below (.key field.name) (field.validate (document.valueAt field.name)))
        (below (.key field.name) (field.validate (document'.valueAt field.name)))) :
    R (schema.memberViolations document) (schema.memberViolations document') :=
  hR.flatMap (List.forall₂_same.2 h)

end Schema

/-- **Documents** have the same violations where they have the same undeclared keys, and where there
are none, the fields find the same. -/
theorem Schema.validate_congr {fields : List Field} {strict : Bool} {document document' : Json}
    (hkeys : Schema.unknownKeys ⟨fields, strict⟩ document =
      Schema.unknownKeys ⟨fields, strict⟩ document')
    (h : Schema.unknownKeys ⟨fields, strict⟩ document = [] → ∀ field ∈ fields,
      field.validate (document.valueAt field.name) =
        field.validate (document'.valueAt field.name)) :
    Schema.validate ⟨fields, strict⟩ document = Schema.validate ⟨fields, strict⟩ document' := by
  rw [← strayKeys_eq, ← strayKeys_eq] at hkeys
  rw [← strayKeys_eq] at h
  refine rel_validate (.of_eq hkeys) (congrArg _ hkeys) fun hnone => ?_
  exact rel_memberViolations additive_eq fun field hfield => congrArg _ (h hnone field hfield)

/-- A document that is no object has no members to look at. -/
lemma Schema.validate_eq_of_not_object (schema : Schema) {document document' : Json}
    (h : ∀ members, document ≠ .object members) (h' : ∀ members, document' ≠ .object members) :
    schema.validate document = schema.validate document' := by
  have hbare : ∀ document : Json, (∀ members, document ≠ .object members) →
      schema.unknownKeys document = [] ∧ ∀ key, document.valueAt key = .null := by
    intro document h
    cases document with
    | object members => exact absurd rfl (h members)
    | _ => exact ⟨by simp [unknownKeys], fun _ => rfl⟩
  obtain ⟨hkeys, hvalues⟩ := hbare document h
  obtain ⟨hkeys', hvalues'⟩ := hbare document' h'
  obtain ⟨fields, strict⟩ := schema
  refine validate_congr (hkeys.trans hkeys'.symm) fun _ field _ => ?_
  rw [hvalues, hvalues']

/-! ### Members under the same keys -/

/-- Where two objects have the same keys, a key is in neither, or leads to values at one place. -/
lemma lookup_of_keys_eq {members members' : List (String × Json)}
    (hkeys : members.map Prod.fst = members'.map Prod.fst) (key : String) :
    (members.lookup key = none ∧ members'.lookup key = none) ∨
      ∃ (i : Nat) (x y : Json), members[i]? = some (key, x) ∧ members'[i]? = some (key, y) ∧
        members.lookup key = some x ∧ members'.lookup key = some y := by
  induction members generalizing members' with
  | nil =>
      obtain rfl := List.map_eq_nil_iff.1 hkeys.symm
      exact .inl ⟨rfl, rfl⟩
  | cons member members ih =>
      obtain ⟨⟨k, y⟩, members', rfl, hfst, hrest⟩ := List.map_eq_cons_iff.1 hkeys.symm
      obtain ⟨k', x⟩ := member
      obtain rfl : k = k' := hfst
      by_cases hkey : key = k
      · subst hkey
        exact .inr ⟨0, x, y, rfl, rfl, List.lookup_cons_self, List.lookup_cons_self⟩
      · have hne : (key == k) = false := by simpa using hkey
        simp only [List.lookup_cons, hne]
        rcases ih hrest.symm with hnone | ⟨i, x, y, hx, hy, hfound⟩
        · exact .inl hnone
        · exact .inr ⟨i + 1, x, y, hx, hy, hfound⟩

lemma Schema.strayKeys_congr (schema : Schema) {members members' : List (String × Json)}
    (hkeys : members.map Prod.fst = members'.map Prod.fst) :
    schema.strayKeys (.object members) = schema.strayKeys (.object members') := by
  rw [strayKeys, strayKeys, hkeys]

/-- **Objects with the same keys** have the same violations where the fields find the same in their
members, one by one. -/
theorem Schema.validate_eq_of_members {schema : Schema} {members members' : List (String × Json)}
    (hkeys : members.map Prod.fst = members'.map Prod.fst)
    (h : schema.strayKeys (.object members) = [] → ∀ field ∈ schema.fields, ∀ (i : Nat) x y,
      members[i]? = some (field.name, x) → members'[i]? = some (field.name, y) →
      field.validate x = field.validate y) :
    schema.validate (.object members) = schema.validate (.object members') := by
  have hstray := schema.strayKeys_congr hkeys
  obtain ⟨fields, strict⟩ := schema
  rw [strayKeys_eq, strayKeys_eq] at hstray
  rw [strayKeys_eq] at h
  refine validate_congr hstray fun hnone field hfield => ?_
  rcases lookup_of_keys_eq hkeys field.name with ⟨hx, hy⟩ | ⟨i, x, y, hi, hi', hx, hy⟩
  · simp [Json.valueAt, Json.member?, hx, hy]
  · simp only [Json.valueAt, Json.member?, hx, hy, Option.getD_some]
    exact h hnone field hfield i x y hi hi'

/-! ### Fields -/

namespace Field

variable {R : List Violation → List Violation → Prop} {items items' : List Json}

/-- The field that looks at an item of an array, given the number of items and the place of the
item.  A tuple with more or fewer fields looks at none, and so does a field that asks for no
array. -/
def itemField? : Field → Nat → Nat → Option Field
  | .list _ _ _ item, _, _ => some item
  | .tuple _ _ _ fields, count, i => if fields.length = count then fields[i]? else none
  | _, _, _ => none

/-- The violations of an item of an array, given the number of items and the place of the item. -/
def validateItem (field : Field) (count i : Nat) (item : Json) : List Violation :=
  match field.itemField? count i with
  | some field => field.validate item
  | none => []

/-- The violations of an array are those of its length and those of its items. -/
lemma validate_array (field : Field) (items : List Json) :
    field.validate (.array items) =
      (field.reasons (.array items)).map (Violation.here field.name) ++
        items.zipIdx.flatMap fun x =>
          below (.index x.2) (field.validateItem items.length x.2 x.1) := by
  have hnone : (∀ i, field.itemField? items.length i = none) →
      (items.zipIdx.flatMap fun x =>
        below (.index x.2) (field.validateItem items.length x.2 x.1)) = [] := by
    intro h
    refine List.flatMap_eq_nil_iff.2 fun x _ => ?_
    rw [validateItem, h]
    rfl
  cases field with
  | list name required lengths item => rfl
  | tuple name required lengths fields =>
      rw [validate]
      refine congrArg _ ?_
      by_cases hcount : fields.length = items.length
      · rw [if_pos hcount, validateItems_eq_flatMap]
        refine additive_eq.flatMap_zipIdx
          (f := fun i (pair : Field × Json) => below (.index i) (pair.1.validate pair.2))
          (g := fun i => below (.index i) ∘ validateItem _ items.length i)
          (by simp [hcount]) fun i pair item hpair hitem => ?_
        obtain ⟨hfield, hpair⟩ := List.getElem?_zip_eq_some.1 hpair
        rw [hitem] at hpair
        simp [validateItem, itemField?, hcount, hfield, Option.some.inj hpair]
      · rw [if_neg hcount, hnone fun _ => if_neg hcount]
  | object name required schema =>
      rw [hnone fun _ => rfl]
      simp [validate, embedded]
  | _ =>
      rw [hnone fun _ => rfl]
      simp [validate]

/-- **Arrays of one length** have related violations where their items have, place by place. -/
theorem rel_validate_array (hR : Additive R) {field field' : Field}
    (hname : field.name = field'.name)
    (hreasons : field.reasons (.array items) = field'.reasons (.array items'))
    (hlength : items.length = items'.length)
    (h : ∀ i x y, items[i]? = some x → items'[i]? = some y →
      R (below (.index i) (field.validateItem items.length i x))
        (below (.index i) (field'.validateItem items'.length i y))) :
    R (field.validate (.array items)) (field'.validate (.array items')) := by
  rw [validate_array, validate_array, hreasons, hname]
  exact hR.append (hR.refl _) (hR.flatMap_zipIdx
    (f := fun i => below (.index i) ∘ field.validateItem items.length i)
    (g := fun i => below (.index i) ∘ field'.validateItem items'.length i) hlength h)

/-- What is wrong with an array, apart from its items, depends on their number alone. -/
lemma reasons_array_congr (field : Field) (hlength : items.length = items'.length) :
    field.reasons (.array items) = field.reasons (.array items') := by
  cases field <;>
    simp [reasons, reasonsPresent, wrongKind, Json.kind, embedded, hlength]

/-- **Arrays of one length** have the same violations where their items have, place by place. -/
theorem validate_array_congr (field : Field) (hlength : items.length = items'.length)
    (h : ∀ i item x y, field.itemField? items.length i = some item → items[i]? = some x →
      items'[i]? = some y → item.validate x = item.validate y) :
    field.validate (.array items) = field.validate (.array items') := by
  refine rel_validate_array additive_eq rfl (field.reasons_array_congr hlength) hlength
    fun i x y hx hy => congrArg _ ?_
  rw [validateItem, validateItem, ← hlength]
  cases hitem : field.itemField? items.length i with
  | none => rfl
  | some item => exact h i item x y hitem hx hy

/-- What is wrong with an object, apart from its members, does not depend on them. -/
lemma reasons_object_eq (field : Field) (members members' : List (String × Json)) :
    field.reasons (.object members) = field.reasons (.object members') := by
  cases field <;> simp [reasons, reasonsPresent, wrongKind, Json.kind, embedded]

/-- **Objects** have related violations where they have for the schema of an object field. -/
theorem rel_validate_object (hR : Additive R) (field : Field)
    {members members' : List (String × Json)}
    (h : ∀ name required schema, field = .object name required schema →
      R (schema.validate (.object members)) (schema.validate (.object members'))) :
    R (field.validate (.object members)) (field.validate (.object members')) := by
  have hreasons := field.reasons_object_eq members members'
  cases field with
  | object name required schema =>
      rw [validate_object (by simp), validate_object (by simp)]
      exact h name required schema rfl
  | _ =>
      simp only [validate, hreasons]
      exact hR.refl _

/-- **Objects** have the same violations where they have the same ones for the schema of an object
field. -/
theorem validate_object_congr (field : Field) {members members' : List (String × Json)}
    (h : ∀ name required schema, field = .object name required schema →
      schema.validate (.object members) = schema.validate (.object members')) :
    field.validate (.object members) = field.validate (.object members') :=
  rel_validate_object additive_eq field h

end Field

end SchemaCheck
