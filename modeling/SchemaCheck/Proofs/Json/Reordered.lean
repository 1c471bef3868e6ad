import Mathlib.Data.List.Perm.Basic
import Mathlib.Tactic.Common
import SchemaCheck.Proofs.Congruence
import SchemaCheck.Proofs.Json.Values

/-!
# Values that differ in the order of members

* `Json.Reordered`: the members of any objects in a value may be moved.
* `Json.lookup_perm`: where no key occurs twice, moving members does not change what is under a key.
* `Json.rel_lookup`: the values under a key of both objects are related, once members in the same
  place are.
* `Json.Reordered.rel_member?` and `Json.Reordered.rel_items?`: what is inside values after members
  have been moved.
-/

namespace SchemaCheck

namespace Json

/-- **Moving members.**  An object, in which no key occurs twice, has its members in another order,
after which there may be other orders in their values.  The items of an array stay in their
places. -/
inductive Reordered : Json → Json → Prop
  | same (value : Json) : Reordered value value
  | array {items items' : List Json} :
      items.length = items'.length →
      (∀ (i : Nat) x y, items[i]? = some x → items'[i]? = some y → Reordered x y) →
      Reordered (.array items) (.array items')
  | object {members moved members' : List (String × Json)} :
      (members.map Prod.fst).Nodup →
      members.Perm moved →
      moved.map Prod.fst = members'.map Prod.fst →
      (∀ (i : Nat) key x y, moved[i]? = some (key, x) → members'[i]? = some (key, y) →
        Reordered x y) →
      Reordered (.object members) (.object members')

variable {members moved members' : List (String × Json)}

lemma lookup_perm (hkeys : (members.map Prod.fst).Nodup) (hmoved : members.Perm moved)
    (key : String) : members.lookup key = moved.lookup key := by
  refine Option.ext fun value => ?_
  rw [lookup_eq_some_iff_mem hkeys, lookup_eq_some_iff_mem ((hmoved.map Prod.fst).nodup hkeys),
    hmoved.mem_iff]

/-- Moved members have related values under every key, once those in the same place have. -/
lemma rel_lookup {R : Json → Json → Prop} (hkeys : (members.map Prod.fst).Nodup)
    (hmoved : members.Perm moved) (hfst : moved.map Prod.fst = members'.map Prod.fst)
    (h : ∀ (i : Nat) key x y, moved[i]? = some (key, x) → members'[i]? = some (key, y) → R x y)
    (key : String) : Option.Rel R (members.lookup key) (members'.lookup key) := by
  rw [lookup_perm hkeys hmoved]
  rcases lookup_of_keys_eq hfst key with ⟨hx, hy⟩ | ⟨i, x, y, hi, hi', hx, hy⟩
  · rw [hx, hy]
    exact .none
  · rw [hx, hy]
    exact .some (h i key x y hi hi')

/-- Values are related under a key where the members are, or where both are missing. -/
lemma rel_valueAt {R : Json → Json → Prop} (hnull : R .null .null) {key : String}
    (h : Option.Rel R (members.lookup key) (members'.lookup key)) :
    R ((Json.object members).valueAt key) ((Json.object members').valueAt key) := by
  rw [valueAt, valueAt, member?, member?]
  revert h
  generalize members.lookup key = value
  generalize members'.lookup key = value'
  rintro (hvalue | _)
  · exact hvalue
  · exact hnull

end Json

namespace Json.Reordered

variable {value value' : Json}

lemma kind_eq (h : value.Reordered value') : value.kind = value'.kind := by
  cases h <;> rfl

/-- Moved values have moved items, in their order. -/
lemma rel_items? (h : value.Reordered value') :
    Option.Rel (List.Forall₂ Reordered) value.items? value'.items? := by
  cases h with
  | same =>
      cases value with
      | array items => exact .some (List.forall₂_same.2 fun item _ => .same item)
      | _ => exact .none
  | array hlength hitems =>
      refine .some (List.forall₂_iff_get.2 ⟨hlength, fun i hi hi' => ?_⟩)
      exact hitems i _ _ (List.getElem?_eq_getElem hi) (List.getElem?_eq_getElem hi')
  | object => exact .none

/-- Moved values have moved members under the same keys. -/
lemma rel_member? (h : value.Reordered value') (key : String) :
    Option.Rel Reordered (value.member? key) (value'.member? key) := by
  cases h with
  | same =>
      cases value.member? key with
      | none => exact .none
      | some value => exact .some (.same value)
  | array => exact .none
  | object hkeys hmoved hfst hvalues => exact rel_lookup hkeys hmoved hfst hvalues key

end Json.Reordered

end SchemaCheck
