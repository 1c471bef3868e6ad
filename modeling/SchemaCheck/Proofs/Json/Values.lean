import Mathlib.Algebra.Group.Int.Defs
import Mathlib.Algebra.Group.Nat.Defs
import Mathlib.Tactic.Common
import SchemaCheck.Json.Basic

/-!
# Values within values

* `Json.Everywhere`: a property holds of a value and of all values in it.
* `Json.depth`: how many arrays and objects are nested.
* `Json.ind`: induction on values.
* `Json.Number.InWords`: the integers that a reader finds, which take at most 64 bits.  The binary
  number nearest to one is finite (`exists_toBinary64_eq_finite`).
-/

namespace SchemaCheck

namespace Json

/-- Induction on values: a property holds of every value once an array inherits it from its items,
and an object from the values of its members. -/
@[elab_as_elim]
theorem ind {P : Json → Prop} (null : P .null) (bool : ∀ b, P (.bool b))
    (number : ∀ n, P (.number n)) (string : ∀ text, P (.string text))
    (array : ∀ items, (∀ item ∈ items, P item) → P (.array items))
    (object : ∀ members, (∀ member ∈ members, P member.2) → P (.object members))
    (value : Json) : P value :=
  @Json.rec P (fun items => ∀ item ∈ items, P item) (fun members => ∀ member ∈ members, P member.2)
    (fun member => P member.2)
    null bool number string array object
    (fun _ h => absurd h List.not_mem_nil)
    (fun _ _ first rest _ h => (List.mem_cons.1 h).elim (fun e => e ▸ first) (rest _))
    (fun _ h => absurd h List.not_mem_nil)
    (fun _ _ first rest _ h => (List.mem_cons.1 h).elim (fun e => e ▸ first) (rest _))
    (fun _ _ h => h)
    value

section Lookup

variable {α : Type} {members : List (String × α)} {key : String} {value : α}

lemma mem_of_lookup (h : members.lookup key = some value) : (key, value) ∈ members := by
  obtain ⟨before, behind, rfl, -⟩ := List.lookup_eq_some_iff.1 h
  exact List.mem_append_right before List.mem_cons_self

/-- Where no key occurs twice, the value under a key is the one that it occurs with. -/
lemma lookup_eq_some_iff_mem (hkeys : (members.map Prod.fst).Nodup) :
    members.lookup key = some value ↔ (key, value) ∈ members := by
  refine ⟨mem_of_lookup, fun hmem => ?_⟩
  obtain ⟨before, behind, rfl⟩ := List.append_of_mem hmem
  refine List.lookup_eq_some_iff.2 ⟨before, behind, rfl, fun member hmember => ?_⟩
  rw [List.map_append, List.nodup_append] at hkeys
  have hne := hkeys.2.2 member.1 (List.mem_map_of_mem hmember) key List.mem_cons_self
  simpa using hne.symm

end Lookup

mutual

/-- The property holds of the value and of all values in it. -/
def Everywhere (P : Json → Prop) : Json → Prop
  | .array items => P (.array items) ∧ everyItem P items
  | .object members => P (.object members) ∧ everyMember P members
  | value => P value

/-- The property holds of the items and of all values in them. -/
def everyItem (P : Json → Prop) : List Json → Prop
  | [] => True
  | item :: items => item.Everywhere P ∧ everyItem P items

/-- The property holds of the values of the members and of all values in them. -/
def everyMember (P : Json → Prop) : List (String × Json) → Prop
  | [] => True
  | (_, value) :: members => value.Everywhere P ∧ everyMember P members

end

variable {P : Json → Prop}

/-- A property holds of all items together exactly if it holds of each. -/
lemma everyItem_iff {items : List Json} :
    everyItem P items ↔ ∀ item ∈ items, item.Everywhere P := by
  induction items with
  | nil => simp [everyItem]
  | cons item items ih => rw [everyItem, ih, List.forall_mem_cons]

lemma everyMember_iff {members : List (String × Json)} :
    everyMember P members ↔ ∀ member ∈ members, member.2.Everywhere P := by
  induction members with
  | nil => simp [everyMember]
  | cons member members ih => rw [everyMember, ih, List.forall_mem_cons]

lemma everywhere_array {items : List Json} :
    (Json.array items).Everywhere P ↔ P (.array items) ∧ ∀ item ∈ items, item.Everywhere P := by
  rw [Everywhere, everyItem_iff]

lemma everywhere_object {members : List (String × Json)} :
    (Json.object members).Everywhere P ↔
      P (.object members) ∧ ∀ member ∈ members, member.2.Everywhere P := by
  rw [Everywhere, everyMember_iff]

mutual

/-- The number of arrays and objects that are nested. -/
def depth : Json → Nat
  | .array items => depthOfItems items + 1
  | .object members => depthOfMembers members + 1
  | _ => 0

/-- The number of arrays and objects that are nested in items. -/
def depthOfItems : List Json → Nat
  | [] => 0
  | item :: items => max item.depth (depthOfItems items)

/-- The number of arrays and objects that are nested in the values of members. -/
def depthOfMembers : List (String × Json) → Nat
  | [] => 0
  | (_, value) :: members => max value.depth (depthOfMembers members)

end

lemma depthOfItems_le_iff {items : List Json} {n : Nat} :
    depthOfItems items ≤ n ↔ ∀ item ∈ items, item.depth ≤ n := by
  induction items with
  | nil => simp [depthOfItems]
  | cons item items ih => rw [depthOfItems, Nat.max_le, ih, List.forall_mem_cons]

lemma depthOfMembers_le_iff {members : List (String × Json)} {n : Nat} :
    depthOfMembers members ≤ n ↔ ∀ member ∈ members, member.2.depth ≤ n := by
  induction members with
  | nil => simp [depthOfMembers]
  | cons member members ih => rw [depthOfMembers, Nat.max_le, ih, List.forall_mem_cons]

end Json

/-! ### Numbers that a reader finds -/

/-- An integer is one of 64 bits, with or without a sign. -/
def Json.Number.InWords : Json.Number → Prop
  | .whole n => Int64.minValue.toInt ≤ n ∧ n < 2 ^ 64
  | .float _ => True

/-- The numbers in the value are such that a reader finds. -/
def Json.WithinWords (value : Json) : Prop :=
  value.Everywhere fun value => ∀ n, value = .number n → n.InWords

namespace Binary64

/-- A ratio that leaves room for one more bit has a finite number near to it. -/
lemma exists_ofRatio_eq_finite (negative : Bool) {num den : Nat}
    (h : Finite.excess (num / den) ≤ 2044) : ∃ x, ofRatio negative num den = .finite x := by
  have hsome : ∃ x, Finite.ofRatio? negative num den = some x := by
    simp only [Finite.ofRatio?]
    split
    · exact ⟨_, dif_pos (by omega)⟩
    · exact ⟨_, dif_pos (by omega)⟩
  obtain ⟨x, hx⟩ := hsome
  refine ⟨x, ?_⟩
  unfold ofRatio
  rw [hx]

/-- A number of a few bits has at most these too many. -/
lemma excess_le {n k : Nat} (h : n < 2 ^ k) : Finite.excess n ≤ k := by
  rw [Finite.excess]
  by_cases hzero : n = 0
  · rw [hzero, Nat.log2_zero]
    omega
  · have hlog := (Nat.log2_lt hzero).2 h
    omega

/-- An integer of up to 64 bits has a finite number near to it. -/
lemma exists_ofInt_eq_finite {n : Int} (h : n.natAbs < 2 ^ 64) : ∃ x, ofInt n = .finite x := by
  refine exists_ofRatio_eq_finite _ ?_
  -- The power of two in a unit is too large to be written out.
  obtain ⟨bits, hbits, hunit⟩ : ∃ bits, bits = 1074 ∧ grainsPerUnit = Nat.pow 2 bits := by
    unfold grainsPerUnit
    exact ⟨_, rfl, rfl⟩
  have hlt : n.natAbs * grainsPerUnit < 2 ^ (64 + bits) := by
    rw [hunit, Nat.pow_eq, Nat.pow_add]
    exact Nat.mul_lt_mul_of_pos_right h (Nat.two_pow_pos bits)
  have hexcess := excess_le hlt
  rw [Nat.div_one]
  omega

end Binary64

/-- A number within 64 bits has a finite binary number nearest to it. -/
lemma Json.Number.exists_toBinary64_eq_finite {n : Json.Number} (h : n.InWords) :
    ∃ x, n.toBinary64 = .finite x := by
  cases n with
  | float x => exact ⟨x, rfl⟩
  | whole k =>
      have hmin : -2 ^ 63 ≤ k := Int64.toInt_minValue ▸ h.1
      have hmax := h.2
      exact Binary64.exists_ofInt_eq_finite (by omega)

end SchemaCheck
