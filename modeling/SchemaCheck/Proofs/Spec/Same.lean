import Mathlib.Data.List.Forall2
import Mathlib.Tactic.Common
import SchemaCheck.Proofs.Spec.Alike
import SchemaCheck.Proofs.Spec.Reread

/-!
# Equal documents of schemas

Equality of values as numbers and as maps, and what it has to do with the equality of schemas.

* `Json.Same`: values that are equal though zeros may differ in sign and members in their order.
* `Limit.Respects`: limits that are equal as numbers are compared, shown and written alike.
* `Field.same_ind`: induction on the equality of fields.
* `Field.toSpec_of_same`: equal fields are written as equal specs.
* `Json.Same.simulation`: equal values are read alike.
* `Schema.same_of_toSpec`: so schemas that documents can describe are equal if their documents are.
-/

namespace SchemaCheck

/-! ### Equality of values -/

/-- **Equality of values**: numbers are equal as numbers, but not an integer and a binary number;
and the members of an object may be in any order. -/
inductive Json.Same : Json → Json → Prop
  | null : Same .null .null
  | bool (b : Bool) : Same (.bool b) (.bool b)
  | whole (k : Int) : Same (.number (.whole k)) (.number (.whole k))
  | float {x y : Binary64.Finite} :
      x.grains = y.grains → Same (.number (.float x)) (.number (.float y))
  | string (text : String) : Same (.string text) (.string text)
  | array {items items' : List Json} :
      items.length = items'.length →
      (∀ (i : Nat) x y, items[i]? = some x → items'[i]? = some y → Same x y) →
      Same (.array items) (.array items')
  | object {members members' : List (String × Json)} :
      (members.map Prod.fst).Perm (members'.map Prod.fst) →
      (∀ key x y, members.lookup key = some x → members'.lookup key = some y → Same x y) →
      Same (.object members) (.object members')

/-- Members under the same keys, in the same order, with equal values. -/
def Members.Same (members members' : Members) : Prop :=
  List.Forall₂ (fun member member' => member.1 = member'.1 ∧ member.2.Same member'.2)
    members members'

namespace Json.Same

variable {value value' : Json}

/-- Every value is the same as itself. -/
lemma refl (value : Json) : value.Same value := by
  induction value using Json.ind with
  | null => exact .null
  | bool b => exact .bool b
  | number n =>
      cases n with
      | whole k => exact .whole k
      | float x => exact .float rfl
  | string text => exact .string text
  | array items ih =>
      refine .array rfl fun i x y hx hy => ?_
      obtain rfl : x = y := Option.some.inj (hx.symm.trans hy)
      exact ih x (List.mem_of_getElem? hx)
  | object members ih =>
      refine .object (.refl _) fun key x y hx hy => ?_
      obtain rfl : x = y := Option.some.inj (hx.symm.trans hy)
      exact ih _ (mem_of_lookup hx)

/-- Arrays are the same if their items are. -/
lemma array_of_forall₂ {items items' : List Json} (h : List.Forall₂ Same items items') :
    (Json.array items).Same (.array items') := by
  refine .array h.length_eq fun i x y hx hy => ?_
  obtain ⟨hi, rfl⟩ := List.getElem?_eq_some_iff.1 hx
  obtain ⟨hi', rfl⟩ := List.getElem?_eq_some_iff.1 hy
  exact h.get hi hi'

/-- Objects are the same if their members are. -/
lemma object_of_members {members members' : Members} (h : members.Same members') :
    (Json.object members).Same (.object members') := by
  refine .object (.of_eq ?_) fun key x y hx hy => ?_
  · exact List.forall₂_eq_eq_eq ▸ List.forall₂_map_left_iff.2
      (List.forall₂_map_right_iff.2 (h.imp fun _ _ hmember => hmember.1))
  · induction h with
    | nil => cases hx
    | @cons member member' _ _ hfirst _ ih =>
        obtain ⟨k, a⟩ := member
        obtain ⟨k', b⟩ := member'
        obtain ⟨rfl, hab⟩ := hfirst
        rw [List.lookup_cons] at hx hy
        by_cases hkey : key == k
        · simp only [hkey] at hx hy
          exact Option.some.inj hx ▸ Option.some.inj hy ▸ hab
        · simp only [hkey] at hx hy
          exact ih hx hy

end Json.Same

/-! ### Limits -/

/-- Limits that are equal as numbers are compared, shown and written alike. -/
structure Limit.Respects (α : Type) [Limit α] : Prop where
  order? {x y : α} : Limit.same x y = true → ∀ n, Limit.order? n x = Limit.order? n y
  toBound {x y : α} : Limit.same x y = true → (Limit.toBound x == Limit.toBound y) = true
  toJson {x y : α} : Limit.same x y = true → (Limit.toJson x).Same (Limit.toJson y)

lemma Limit.respects_int64 : Limit.Respects Int64 := by
  have heq {x y : Int64} (h : Limit.same x y = true) : x = y := eq_of_beq h
  refine ⟨fun h n => heq h ▸ rfl, fun h => ?_, fun h => heq h ▸ .refl _⟩
  rw [heq h]
  exact beq_self_eq_true (α := Int) _

/-- Binary numbers that are equal are finite and the same number, or the same infinity. -/
lemma Binary64.cases_of_same {x y : Binary64} (h : Limit.same x y = true) :
    (∃ a b : Finite, x = .finite a ∧ y = .finite b ∧ a.grains = b.grains) ∨
      ∃ negative, x = .infinite negative ∧ y = .infinite negative := by
  have horder : x.order? y = some .eq := eq_of_beq h
  cases x with
  | finite a =>
      cases y with
      | finite b =>
          rw [order?, Option.some.injEq, Int.compare_eq_eq] at horder
          exact .inl ⟨a, b, rfl, rfl, horder⟩
      | infinite negative => cases negative <;> cases horder
      | nan => cases horder
  | infinite negative =>
      cases y with
      | finite b => cases negative <;> cases horder
      | infinite negative' =>
          cases negative <;> cases negative' <;>
            first | exact .inr ⟨_, rfl, rfl⟩ | cases horder
      | nan => cases horder
  | nan => cases y <;> cases horder

/-- Binary limits that are the same differ at most in the sign of zero. -/
lemma Limit.respects_binary64 : Limit.Respects Binary64 := by
  refine ⟨fun {x y} h n => ?_, fun {x y} h => h, fun {x y} h => ?_⟩
  · change n.toBinary64.order? x = n.toBinary64.order? y
    rcases Binary64.cases_of_same h with ⟨a, b, rfl, rfl, hgrains⟩ | ⟨negative, rfl, rfl⟩
    · cases n.toBinary64 <;> simp only [Binary64.order?, hgrains]
    · rfl
  · rcases Binary64.cases_of_same h with ⟨a, b, rfl, rfl, hgrains⟩ | ⟨negative, rfl, rfl⟩
    · exact .float hgrains
    · exact .refl _

/-! ### What is written -/

lemma Members.same_refl (members : Members) : members.Same members :=
  List.forall₂_same.2 fun _ _ => ⟨rfl, .refl _⟩

lemma Members.Same.append {members members' more more' : Members} (h : members.Same members')
    (hmore : more.Same more') : Members.Same (members ++ more) (members' ++ more') :=
  List.rel_append h hmore

lemma same_optionalMember {α : Type} {S : α → α → Prop} {key : String} {toJson : α → Json}
    (hS : ∀ x y, S x y → (toJson x).Same (toJson y)) {x y : Option α} (h : Option.Rel S x y) :
    Members.Same (optionalMember key x toJson) (optionalMember key y toJson) := by
  cases h with
  | none => exact .nil
  | some hxy => exact .cons ⟨rfl, hS _ _ hxy⟩ .nil

/-- Rules that are the same are written the same. -/
lemma Rules.same_members {α : Type} [Limit α] (hα : Limit.Respects α) {rules rules' : Rules α}
    (h : rules.same rules' = true) : Members.Same rules.members rules'.members := by
  obtain ⟨hmin, hmax, hsign, hranges⟩ := same_iff_rel.1 h
  have hlimit (x y : α) (h : Limit.same x y = true) := hα.toJson h
  refine (((same_optionalMember hlimit hmin).append (same_optionalMember hlimit hmax)).append
    ?_).append (same_optionalMember (fun ranges ranges' hsame => ?_) hranges)
  · rw [hsign]
    exact Members.same_refl _
  · refine .array_of_forall₂ (List.forall₂_map_left_iff.2 (List.forall₂_map_right_iff.2 ?_))
    refine hsame.imp fun range range' hends => .object_of_members ?_
    exact .cons ⟨rfl, hlimit _ _ hends.1⟩ (.cons ⟨rfl, hlimit _ _ hends.2⟩ .nil)

/-! ### Equality of fields -/

/-- Induction on the equality of fields. -/
@[elab_as_elim]
theorem Field.same_ind {P : Field → Field → Prop}
    (integer : ∀ name required (rules rules' : Rules Int64), rules.same rules' = true →
      P (.integer name required rules) (.integer name required rules'))
    (float : ∀ name required (rules rules' : Rules Binary64), rules.same rules' = true →
      P (.float name required rules) (.float name required rules'))
    (string : ∀ name required rules, P (.string name required rules) (.string name required rules))
    (boolean : ∀ name required expected,
      P (.boolean name required expected) (.boolean name required expected))
    (list : ∀ name required lengths item item', P item item' →
      P (.list name required lengths item) (.list name required lengths item'))
    (tuple : ∀ name required lengths items items', List.Forall₂ P items items' →
      P (.tuple name required lengths items) (.tuple name required lengths items'))
    (object : ∀ name required strict fields fields', List.Forall₂ P fields fields' →
      P (.object name required ⟨fields, strict⟩) (.object name required ⟨fields', strict⟩))
    (null : ∀ name, P (.null name) (.null name)) {field field' : Field}
    (h : field.same field' = true) : P field field' := by
  have heach {fields fields' : List Field}
      (ih : ∀ field ∈ fields, ∀ field', field.same field' = true → P field field')
      (h : sameFields fields fields' = true) : List.Forall₂ P fields fields' := by
    rw [sameFields_iff_forall₂] at h
    induction h with
    | nil => exact .nil
    | cons hfirst _ ihrest =>
        rw [List.forall_mem_cons] at ih
        exact .cons (ih.1 _ hfirst) (ihrest ih.2)
  induction field using Field.ind generalizing field' with
  | integer name required rules =>
      cases field' with
      | integer name' required' rules' =>
          simp only [same, Bool.and_eq_true, beq_iff_eq] at h
          obtain ⟨⟨rfl, rfl⟩, h⟩ := h
          exact integer _ _ _ _ h
      | _ => simp [same] at h
  | float name required rules =>
      cases field' with
      | float name' required' rules' =>
          simp only [same, Bool.and_eq_true, beq_iff_eq] at h
          obtain ⟨⟨rfl, rfl⟩, h⟩ := h
          exact float _ _ _ _ h
      | _ => simp [same] at h
  | string name required rules =>
      cases field' with
      | string name' required' rules' =>
          simp only [same, Bool.and_eq_true, beq_iff_eq] at h
          obtain ⟨⟨rfl, rfl⟩, rfl⟩ := h
          exact string _ _ _
      | _ => simp [same] at h
  | boolean name required expected =>
      cases field' with
      | boolean name' required' expected' =>
          simp only [same, Bool.and_eq_true, beq_iff_eq] at h
          obtain ⟨⟨rfl, rfl⟩, rfl⟩ := h
          exact boolean _ _ _
      | _ => simp [same] at h
  | list name required lengths item ih =>
      cases field' with
      | list name' required' lengths' item' =>
          simp only [same, Bool.and_eq_true, beq_iff_eq] at h
          obtain ⟨⟨⟨rfl, rfl⟩, rfl⟩, h⟩ := h
          exact list _ _ _ _ _ (ih h)
      | _ => simp [same] at h
  | tuple name required lengths items ih =>
      cases field' with
      | tuple name' required' lengths' items' =>
          simp only [same, Bool.and_eq_true, beq_iff_eq] at h
          obtain ⟨⟨⟨rfl, rfl⟩, rfl⟩, h⟩ := h
          exact tuple _ _ _ _ _ (heach (fun item hitem _ => ih item hitem) h)
      | _ => simp [same] at h
  | object name required schema ih =>
      obtain ⟨fields, strict⟩ := schema
      cases field' with
      | object name' required' schema' =>
          obtain ⟨fields', strict'⟩ := schema'
          simp only [same, Schema.same, Bool.and_eq_true, beq_iff_eq] at h
          obtain ⟨⟨rfl, rfl⟩, rfl, h⟩ := h
          exact object _ _ _ _ _ (heach (fun field hfield _ => ih field hfield) h)
      | _ => simp [same] at h
  | null name =>
      cases field' with
      | null name' =>
          simp only [same, beq_iff_eq] at h
          exact h ▸ null name
      | _ => simp [same] at h

lemma fieldSpecs_of_forall₂ {fields fields' : List Field}
    (h : List.Forall₂ (fun field field' => field.toSpec.Same field'.toSpec) fields fields') :
    (Json.array (fieldSpecs fields)).Same (.array (fieldSpecs fields')) := by
  rw [fieldSpecs_eq_map, fieldSpecs_eq_map]
  exact .array_of_forall₂ (List.forall₂_map_left_iff.2 (List.forall₂_map_right_iff.2 h))

lemma Schema.toSpec_of_forall₂ {fields fields' : List Field} (strict : Bool)
    (h : List.Forall₂ (fun field field' => field.toSpec.Same field'.toSpec) fields fields') :
    (Schema.toSpec ⟨fields, strict⟩).Same (Schema.toSpec ⟨fields', strict⟩) := by
  rw [toSpec, toSpec]
  exact .object_of_members
    ((Members.same_refl _).append (.cons ⟨rfl, fieldSpecs_of_forall₂ h⟩ .nil))

/-- **Equal fields are written as equal specs.** -/
theorem Field.toSpec_of_same {field field' : Field} (h : field.same field' = true) :
    field.toSpec.Same field'.toSpec := by
  refine Field.same_ind ?integer ?float ?string ?boolean ?list ?tuple ?object ?null h
  case integer =>
      intro name required rules rules' hrules
      rw [toSpec, toSpec]
      exact .object_of_members
        ((Members.same_refl _).append (Rules.same_members Limit.respects_int64 hrules))
  case float =>
      intro name required rules rules' hrules
      rw [toSpec, toSpec]
      exact .object_of_members
        ((Members.same_refl _).append (Rules.same_members Limit.respects_binary64 hrules))
  case list =>
      intro name required lengths item item' ih
      rw [toSpec, toSpec]
      exact .object_of_members
        ((Members.same_refl _).append ((Members.same_refl _).append (.cons ⟨rfl, ih⟩ .nil)))
  case tuple =>
      intro name required lengths items items' ih
      rw [toSpec, toSpec]
      exact .object_of_members ((Members.same_refl _).append
        ((Members.same_refl _).append (.cons ⟨rfl, fieldSpecs_of_forall₂ ih⟩ .nil)))
  case object =>
      intro name required strict fields fields' ih
      rw [toSpec, toSpec]
      exact .object_of_members
        ((Members.same_refl _).append (.cons ⟨rfl, Schema.toSpec_of_forall₂ strict ih⟩ .nil))
  case string => exact fun _ _ _ => .refl _
  case boolean => exact fun _ _ _ => .refl _
  case null => exact fun _ => .refl _

/-! ### What is read -/

namespace Json.Same

variable {value value' : Json}

/-- Binary numbers that are equal differ in the sign of zero at most, and so in their writing. -/
lemma alike_float {x y : Binary64.Finite} (h : x.grains = y.grains) :
    (Json.number (.float x)).Alike (.number (.float y)) :=
  .number h

lemma kind_eq (h : value.Same value') : value.kind = value'.kind := by
  cases h with
  | float hgrains => exact (alike_float hgrains).kind_eq
  | _ => rfl

/-- Values that are the same are read as the same scalars. -/
lemma sameScalar (h : value.Same value') : value.SameScalar value' := by
  have hself (value : Json) : value.SameScalar value :=
    Alike.simulation.scalar (Alike.refl value)
  cases h with
  | float hgrains => exact Alike.simulation.scalar (alike_float hgrains)
  | array => exact ⟨rfl, rfl, rfl, .none⟩
  | object => exact ⟨rfl, rfl, rfl, .none⟩
  | _ => exact hself _

/-- Values that are the same have the same items, in their order. -/
lemma rel_items? (h : value.Same value') :
    Option.Rel (List.Forall₂ Same) value.items? value'.items? := by
  cases h with
  | array hlength hitems =>
      refine .some (List.forall₂_iff_get.2 ⟨hlength, fun i hi hi' => ?_⟩)
      exact hitems i _ _ (List.getElem?_eq_getElem hi) (List.getElem?_eq_getElem hi')
  | _ => exact .none

/-- Objects that are the same have the same members under a key. -/
lemma rel_lookup {members members' : Members}
    (h : (Json.object members).Same (.object members')) (key : String) :
    Option.Rel Same (members.lookup key) (members'.lookup key) := by
  cases h with
  | object hkeys hvalues =>
      have hsome (members : Members) :
          (members.lookup key).isSome ↔ key ∈ members.map Prod.fst := by
        rw [List.lookup_isSome_iff, List.mem_map]
        exact exists_congr fun _ => and_congr_right fun _ => beq_iff_eq.trans eq_comm
      have hboth := (hsome members).trans (hkeys.mem_iff.trans (hsome members').symm)
      cases hx : members.lookup key with
      | none =>
          rw [hx, Option.isSome_none, Bool.false_eq_true, false_iff, Bool.not_eq_true,
            Option.isSome_eq_false_iff, Option.isNone_iff_eq_none] at hboth
          rw [hboth]
          exact .none
      | some x =>
          obtain ⟨y, hy⟩ := Option.isSome_iff_exists.1 (hboth.1 (by rw [hx]; rfl))
          rw [hy]
          exact .some (hvalues key x y hx hy)

end Json.Same

/-- **Equal values simulate each other**, whatever they are read as. -/
theorem Json.Same.simulation : Json.Simulation fun _ => Json.Same where
  kind_eq h := h.kind_eq
  scalar h := h.sameScalar
  items h _ := h.rel_items?
  members h _ pair _ := h.rel_lookup pair.1

/-- **Schemas are told apart by their documents**, once a document can describe them. -/
theorem Schema.same_of_toSpec {schema schema' : Schema} (h : schema.Representable)
    (h' : schema'.Representable) (hsame : schema.toSpec.Same schema'.toSpec) :
    schema.same schema' = true := by
  have hread : Schema.ofSpec schema.toSpec = .ok schema :=
    (ofSpec_toSpec_eq_ok_iff.2 schema schema).2 ⟨h, rfl, Schema.same_self h⟩
  have hread' : Schema.ofSpec schema'.toSpec = .ok schema' :=
    (ofSpec_toSpec_eq_ok_iff.2 schema' schema').2 ⟨h', rfl, Schema.same_self h'⟩
  have hrelated := (Json.Same.simulation.related_ofSpec schema.toSpec).2 _ hsame
  rw [DocumentAlike, hread, hread'] at hrelated
  cases hrelated with
  | ok hschemas => exact hschemas

end SchemaCheck
