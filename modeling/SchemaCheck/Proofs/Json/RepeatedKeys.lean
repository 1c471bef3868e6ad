import Mathlib.Tactic.Common
import SchemaCheck.Proofs.Catalog.Bundle
import SchemaCheck.Proofs.Json.Extent
import SchemaCheck.Proofs.Json.KeysApart
import SchemaCheck.Proofs.Replacement

/-!
# Objects with repeated keys

What is left of the members of an object in which a key may be given twice.

* `Resolves`: each key once, in the order of its first appearance, with the last value under it.
  `Resolves.eq_ofPairs`: so it is where members are put into an object one by one.
* `recognizes_readMap`: the reader of an object whose values are nested at most so deep recognizes
  the texts of such objects, with the members that are left.
-/

namespace SchemaCheck.Json

/-! ### Repeated keys -/

section

variable {α : Type} {pairs members : List (String × α)}

/-- **The members that are left of pairs**: each key once, in the order of its first appearance,
with the last value under it. -/
structure Resolves (pairs members : List (String × α)) : Prop where
  keys : members.map Prod.fst = (pairs.map Prod.fst).eraseDups
  last : ∀ key, members.lookup key = pairs.reverse.lookup key

/-- **Making an object of pairs** keeps the first place of a key and its last value. -/
lemma resolves_ofPairs (pairs : List (String × α)) : Resolves pairs (ofPairs pairs) := by
  induction pairs using List.reverseRecOn with
  | nil => exact ⟨rfl, fun _ => rfl⟩
  | append_singleton pairs pair ih =>
      have hput : ofPairs (pairs ++ [pair]) = putMember (ofPairs pairs) pair.1 pair.2 := by
        rw [ofPairs, List.foldl_append]
        rfl
      have hmem : pair.1 ∈ (ofPairs pairs).map Prod.fst ↔ pair.1 ∈ pairs.map Prod.fst := by
        rw [ih.keys, List.mem_eraseDups]
      refine ⟨?_, fun key => ?_⟩
      · rw [hput, List.map_append, List.map_singleton, List.eraseDups_append, ← ih.keys]
        by_cases hkey : pair.1 ∈ pairs.map Prod.fst
        · obtain ⟨old, hold⟩ := List.mem_map.1 (hmem.2 hkey)
          have hlookup : (ofPairs pairs).lookup pair.1 = some old.2 := by
            rw [← hold.2, lookup_eq_some_iff_mem (nodup_keys_ofPairs pairs)]
            exact hold.1
          rw [map_fst_putMember hlookup]
          simp [List.removeAll, hkey]
        · rw [putMember_of_not_mem _ (hmem.not.2 hkey), List.map_append]
          simp [List.removeAll, hkey, List.eraseDups_cons]
      · rw [hput, List.reverse_append, List.reverse_singleton, List.singleton_append,
          List.lookup_cons]
        by_cases hkey : key = pair.1
        · rw [hkey, lookup_putMember_self, beq_self_eq_true]
        · rw [lookup_putMember_of_ne _ hkey, beq_false_of_ne hkey, ih.last]

/-- Members with distinct keys are given by their values. -/
lemma map_some_eq_of_nodup (h : (members.map Prod.fst).Nodup) :
    members.map some = (members.map Prod.fst).map fun key => (members.lookup key).map (key, ·) := by
  rw [List.map_map]
  refine List.map_congr_left fun member hmember => ?_
  rw [Function.comp_apply, (lookup_eq_some_iff_mem h).2 hmember]
  rfl

lemma Resolves.eq_ofPairs (h : Resolves pairs members) : members = ofPairs pairs := by
  have hpairs := resolves_ofPairs pairs
  have hnodup := nodup_keys_ofPairs pairs
  have hkeys : members.map Prod.fst = (ofPairs pairs).map Prod.fst := h.keys.trans hpairs.keys.symm
  refine List.map_injective_iff.2 (fun _ _ => Option.some.inj) ?_
  rw [map_some_eq_of_nodup (hkeys ▸ hnodup), map_some_eq_of_nodup hnodup, hkeys]
  exact List.map_congr_left fun key _ => by rw [h.last, hpairs.last]

end

/-! ### Readers behind blanks -/

section

variable {α : Type} {text tail rest : Bytes} {first : UInt8}
  {reader : (first : UInt8) → (text : Bytes) → Except Fault (Taken α (first :: text))}

lemma outcome_behindBlanks_nil (hskip : skipBlanks text = []) :
    outcome (behindBlanks reader) text = none := by
  unfold outcome behindBlanks
  split
  · rfl
  · next hcons => cases hskip.symm.trans hcons

/-- A reader behind blanks passes over them. -/
lemma blind_behindBlanks : Blind (outcome (behindBlanks reader)) := by
  intro text
  have hskip := skipBlanks_skipBlanks text
  cases hbytes : skipBlanks text with
  | nil => rw [outcome_behindBlanks_nil rfl, outcome_behindBlanks_nil hbytes]
  | cons b tail =>
      rw [hbytes] at hskip
      rw [outcome_behindBlanks hbytes, outcome_behindBlanks hskip]

/-- A map is read as an object whose repeated keys are resolved. -/
lemma outcome_readMap_cons (depth : Nat) (hskip : skipBlanks text = first :: tail) :
    outcome (readMap depth) text =
      if first = '\x7b'.toUInt8 then
        (outcome (readObject (readValue depth)) tail).map (Prod.map ofPairs id)
      else none := by
  rw [readMap, outcome_behindBlanks hskip]
  split
  · rw [outcome]
    cases readObject (readValue depth) tail <;> rfl
  · rfl

/-- The text of an object, of which the members are left that count. -/
def MapText (depth : Nat) : Bytes → List (String × Json) → Prop :=
  Padded fun core members => ∃ pairs,
    Bracketed '\x7b'.toUInt8 '\x7d'.toUInt8 (MemberSpells depth) core pairs ∧ Resolves pairs members

/-- **An object is read** with the members that count. -/
lemma recognizes_readMap (depth : Nat) :
    Recognizes (outcome (readMap depth)) (MapText depth) := by
  have hobject : ∀ {text pairs rest}, outcome (readObject (readValue depth)) text =
      some (pairs, rest) ↔ ∃ inner, text = inner ++ '\x7d'.toUInt8 :: rest ∧
        Enclosed (MemberSpells depth) inner pairs :=
    outcome_readObject_iff (recognizes_member_of_severs (severs_readValue depth))
  refine recognizes_padded ?_ outcome_behindBlanks_nil ?_ ?_
  · rintro core members ⟨pairs, hpairs, -⟩
    exact hpairs.core (by decide) (by decide)
  · intro text tail first members rest hskip hrun
    rw [outcome_readMap_cons depth hskip] at hrun
    split at hrun
    · next hbrace =>
        obtain ⟨⟨pairs, rest'⟩, hpairs, heq⟩ := Option.map_eq_some_iff.1 hrun
        cases heq
        obtain ⟨inner, rfl, hinner⟩ := hobject.1 hpairs
        exact ⟨first :: (inner ++ ['\x7d'.toUInt8]), by simp, pairs, ⟨inner, hinner, hbrace ▸ rfl⟩,
          resolves_ofPairs pairs⟩
    · cases hrun
  · rintro text core members rest ⟨pairs, ⟨inner, hinner, rfl⟩, hmembers⟩ hrest hskip
    rw [List.cons_append, List.append_assoc, List.singleton_append] at hskip
    rw [outcome_readMap_cons depth hskip, if_pos rfl, hobject.2 ⟨inner, rfl, hinner⟩,
      hmembers.eq_ofPairs]
    rfl

end

end SchemaCheck.Json
