import Mathlib.Tactic.Common
import SchemaCheck.Proofs.Json.Values
import SchemaCheck.Proofs.Spec.NormalForm

/-!
# The depth of the normal form

How many arrays and objects the normal form of a document nests.

* `Json.NotDeeper`: a rewriting of values does not nest them deeper.  What is kept of a spec is
  rewritten so (`Members.depth_normalHead_le`, `Members.depth_normalRules_le`).
* `oneDeeper_normal`, by induction on specs: the normal form nests at most one deeper than the
  document, and does so where a list of fields is added.
-/

namespace SchemaCheck

/-! ### Rewriting values -/

namespace Json

/-- Rewriting does not nest a value deeper. -/
def NotDeeper (f : Json → Json) : Prop := ∀ value, (f value).depth ≤ value.depth

lemma notDeeper_id : NotDeeper id := fun _ => Nat.le_refl _

/-- Writing a number as an integer adds no depth. -/
lemma notDeeper_asInteger : NotDeeper asInteger := by
  intro value
  cases value with
  | number n => cases hwhole : n.whole? <;> simp [asInteger, hwhole, depth]
  | _ => exact Nat.le_refl _

/-- Writing a number as a binary one adds no depth. -/
lemma notDeeper_asBinary : NotDeeper asBinary := by
  intro value
  cases value with
  | number n => cases hx : n.toBinary64 <;> simp [asBinary, hx, Binary64.toJson, depth]
  | _ => exact Nat.le_refl _

/-- What makes no item deeper makes no array deeper. -/
lemma NotDeeper.onItems {f : Json → Json} (h : NotDeeper f) : NotDeeper (onItems f) := by
  intro value
  cases value with
  | array items =>
      refine Nat.succ_le_succ (depthOfItems_le_iff.2 fun item hitem => ?_)
      obtain ⟨item, hmem, rfl⟩ := List.mem_map.1 hitem
      exact Nat.le_trans (h item) (depthOfItems_le_iff.1 (Nat.le_refl _) item hmem)
  | _ => exact Nat.le_refl _

end Json

namespace Members

variable {members : Members} {f : Json → Json}

lemma depth_le_of_lookup {key : String} {value : Json} (h : members.lookup key = some value) :
    value.depth ≤ Json.depthOfMembers members :=
  Json.depthOfMembers_le_iff.1 (Nat.le_refl _) (key, value) (Json.mem_of_lookup h)

lemma depthOfMembers_append_le_iff {members' : Members} {n : Nat} :
    Json.depthOfMembers (members ++ members') ≤ n ↔
      Json.depthOfMembers members ≤ n ∧ Json.depthOfMembers members' ≤ n := by
  simp only [Json.depthOfMembers_le_iff, List.forall_mem_append]

/-- An optional member is no deeper than its value. -/
lemma depth_optionalMember_le {α : Type} {key : String} {value : Option α} {toJson : α → Json}
    {n : Nat} (h : ∀ x, value = some x → (toJson x).depth ≤ n) :
    Json.depthOfMembers (optionalMember key value toJson) ≤ n := by
  cases value with
  | none => exact Nat.zero_le n
  | some x => exact Nat.max_le.2 ⟨h x rfl, Nat.zero_le n⟩

lemma depth_kept_le (hf : Json.NotDeeper f) (key : String) :
    Json.depthOfMembers (members.kept key f) ≤ Json.depthOfMembers members :=
  depth_optionalMember_le fun value h => Nat.le_trans (hf value) (depth_le_of_lookup h)

lemma depth_keptIf_le (hf : Json.NotDeeper f) (key : String) (p : Json → Bool) :
    Json.depthOfMembers (members.keptIf key p f) ≤ Json.depthOfMembers members :=
  depth_optionalMember_le fun value h =>
    Nat.le_trans (hf value) (depth_le_of_lookup (Option.filter_eq_some_iff.1 h).1)

end Members

/-- What makes no limit deeper makes no range deeper. -/
lemma Json.NotDeeper.onEnds {f : Json → Json} (h : NotDeeper f) : NotDeeper (onEnds f) := by
  intro value
  cases value with
  | object members =>
      exact Nat.succ_le_succ (Members.depthOfMembers_append_le_iff.2
        ⟨Members.depth_kept_le h "start", Members.depth_kept_le h "end"⟩)
  | _ => exact Nat.le_refl _

namespace Members

variable {members : Members} {f : Json → Json}

/-- The members that every field has are no deeper in the normal form. -/
lemma depth_normalHead_le :
    Json.depthOfMembers members.normalHead ≤ Json.depthOfMembers members := by
  rw [normalHead, depthOfMembers_append_le_iff, depthOfMembers_append_le_iff]
  refine ⟨⟨depth_kept_le Json.notDeeper_id _, depth_kept_le Json.notDeeper_id _⟩, ?_⟩
  split
  · exact Nat.zero_le _
  · exact depth_keptIf_le Json.notDeeper_id _ _

/-- Limits are no deeper in the normal form. -/
lemma depth_normalLimits_le (hf : Json.NotDeeper f) :
    Json.depthOfMembers (members.normalLimits f) ≤ Json.depthOfMembers members := by
  simp only [normalLimits, depthOfMembers_append_le_iff]
  exact ⟨⟨⟨depth_kept_le hf _, depth_kept_le hf _⟩, depth_kept_le Json.notDeeper_id _⟩,
    depth_kept_le hf.onEnds.onItems _⟩

lemma depth_normalLengths_le :
    Json.depthOfMembers members.normalLengths ≤ Json.depthOfMembers members :=
  depthOfMembers_append_le_iff.2 ⟨depth_keptIf_le Json.notDeeper_asInteger _ _,
    depth_keptIf_le Json.notDeeper_asInteger _ _⟩

/-- Rules are no deeper in the normal form. -/
lemma depth_normalRules_le (kind : Kind) :
    Json.depthOfMembers (members.normalRules kind) ≤ Json.depthOfMembers members := by
  cases kind with
  | integer => exact depth_normalLimits_le Json.notDeeper_asInteger
  | float => exact depth_normalLimits_le Json.notDeeper_asBinary
  | string =>
      simp only [normalRules, depthOfMembers_append_le_iff]
      exact ⟨⟨depth_normalLengths_le, depth_kept_le Json.notDeeper_id _⟩,
        depth_kept_le Json.notDeeper_id _⟩
  | boolean => exact depth_kept_le Json.notDeeper_id _
  | array => exact depth_normalLengths_le
  | object => exact Nat.zero_le _
  | null => exact Nat.zero_le _

end Members

/-- Rewriting nests a value at most one deeper. -/
def OneDeeper (f : Json → Json) (value : Json) : Prop := (f value).depth ≤ value.depth + 1

/-- Specs in a list that nest at most one deeper each. -/
lemma oneDeeper_array {specs : List Json} (h : ∀ spec ∈ specs, OneDeeper normalSpec spec) :
    (Json.array (specs.map normalSpec)).depth ≤ (Json.array specs).depth + 1 := by
  refine Nat.succ_le_succ (Json.depthOfItems_le_iff.2 fun item hitem => ?_)
  obtain ⟨spec, hspec, rfl⟩ := List.mem_map.1 hitem
  exact Nat.le_trans (h spec hspec)
    (Nat.succ_le_succ (Json.depthOfItems_le_iff.1 (Nat.le_refl _) spec hspec))

/-- **A field spec** is at most a level deeper in the normal form if those below it are. -/
lemma oneDeeper_field {members : Members}
    (hitem : ∀ spec, members.lookup "items" = some spec → OneDeeper normalSpec spec)
    (htuple : ∀ specs, members.lookup "fix_items" = some (.array specs) →
      ∀ spec ∈ specs, OneDeeper normalSpec spec)
    (hschema : ∀ document, members.lookup "schema" = some document →
      OneDeeper normalDocument document) : OneDeeper normalSpec (.object members) := by
  rw [OneDeeper, normalSpec_object]
  have hbelow : ∀ kind, Json.depthOfMembers (members.normalBelow kind) ≤
      Json.depthOfMembers members + 1 := by
    intro kind
    cases kind with
    | array =>
        have hlist : ∀ specs, members.lookup "fix_items" = some (.array specs) →
            (Json.array (specs.map normalSpec)).depth ≤ Json.depthOfMembers members + 1 :=
          fun specs hspecs => Nat.le_trans (oneDeeper_array (htuple specs hspecs))
            (Nat.succ_le_succ (Members.depth_le_of_lookup hspecs))
        refine Members.depthOfMembers_append_le_iff.2 ⟨?_, ?_⟩
        · exact Members.depth_optionalMember_le fun spec h => Nat.le_trans (hitem spec h)
            (Nat.succ_le_succ (Members.depth_le_of_lookup h))
        · split
          · exact Nat.zero_le _
          · next hne =>
              obtain ⟨spec, hspec⟩ := List.exists_mem_of_ne_nil _ hne
              obtain ⟨specs, hspecs, -⟩ := Members.lookup_of_mem_tupleItems hspec
              rw [Members.tupleItems, hspecs]
              exact Nat.max_le.2 ⟨hlist specs hspecs, Nat.zero_le _⟩
    | object =>
        exact Members.depth_optionalMember_le fun document h => Nat.le_trans (hschema document h)
          (Nat.succ_le_succ (Members.depth_le_of_lookup h))
    | _ => exact Nat.zero_le _
  refine Nat.succ_le_succ (Members.depthOfMembers_append_le_iff.2
    ⟨Nat.le_succ_of_le Members.depth_normalHead_le, ?_⟩)
  cases members.kind? with
  | none => exact Nat.zero_le _
  | some kind =>
      exact Members.depthOfMembers_append_le_iff.2
        ⟨Nat.le_succ_of_le (Members.depth_normalRules_le kind), hbelow kind⟩

/-- **A document** is at most a level deeper in the normal form if its fields are. -/
lemma oneDeeper_document {members : Members}
    (hfields : ∀ specs, members.lookup "fields" = some (.array specs) →
      ∀ spec ∈ specs, OneDeeper normalSpec spec) : OneDeeper normalDocument (.object members) := by
  rw [OneDeeper, normalDocument_object]
  refine Nat.succ_le_succ (Members.depthOfMembers_append_le_iff.2
    ⟨Nat.le_succ_of_le (Members.depth_keptIf_le Json.notDeeper_id _ _), ?_⟩)
  refine Nat.max_le.2 ⟨?_, Nat.zero_le _⟩
  rw [Members.fieldItems]
  split
  · next specs hspecs =>
      exact Nat.le_trans (oneDeeper_array (hfields specs hspecs))
        (Nat.succ_le_succ (Members.depth_le_of_lookup hspecs))
  · -- There is no list of specs, and an empty one is added.
    exact Nat.succ_le_succ (Nat.zero_le _)

/-- **The normal form nests at most one deeper**, where a list of fields is added. -/
theorem oneDeeper_normal (value : Json) :
    OneDeeper normalSpec value ∧ OneDeeper normalDocument value := by
  refine value.spec_induction (P := OneDeeper normalSpec) (Q := OneDeeper normalDocument)
    ?_ ?_ ?_ ?_
  · exact fun members => oneDeeper_field
  · intro value hvalue
    rw [OneDeeper, normalSpec_of_not_object hvalue]
    exact Nat.le_succ _
  · exact fun members => oneDeeper_document
  · intro value hvalue
    rw [OneDeeper, normalDocument_of_not_object hvalue]
    exact Nat.le_succ _

end SchemaCheck
