import Mathlib.Data.List.Basic
import Mathlib.Tactic.Common
import SchemaCheck.Proofs.Congruence

/-!
# Replaced values

What is found at one place of a document does not depend on what stands at another.

* `Json.at?` and `Json.replaceAt`: the value at a path, and the document with another value there.
  After `Json.at?_replaceAt` this is the value that the path leads to.
* `Violation.outside`: the violations at places that a path is not a prefix of.
* `Field.outside_validate_replaceAt`, by induction on the path: replacing the value at a path leaves
  the violations outside of it as they are.
* `Schema.validate_replaceAt`: so it does for a schema.
-/

namespace SchemaCheck

open Violation (Additive)

/-! ### Values at paths -/

namespace Json

/-- The value at a path: members are found by keys, and items by indexes. -/
def at? : Path → Json → Option Json
  | [], value => some value
  | .key key :: path, value => (value.member? key).bind (at? path)
  | .index i :: path, value => (value.items?.bind (·[i]?)).bind (at? path)

/-- **Replacing the value at a path.**  Where there is none, the document stays as it is. -/
def replaceAt : Path → Json → Json → Json
  | [], _, value => value
  | .key key :: path, .object members, value =>
    match members.lookup key with
    | some old => .object (putMember members key (replaceAt path old value))
    | none => .object members
  | .index i :: path, .array items, value =>
    match items[i]? with
    | some old => .array (items.set i (replaceAt path old value))
    | none => .array items
  | _, document, _ => document

/-- What is put under a key is found there. -/
lemma lookup_putMember_self {α : Type} (members : List (String × α)) (key : String) (value : α) :
    (putMember members key value).lookup key = some value := by
  induction members with
  | nil => exact List.lookup_cons_self
  | cons member members ih =>
      obtain ⟨k, x⟩ := member
      rw [putMember]
      by_cases hfirst : k = key
      · rw [if_pos hfirst, List.lookup_cons_self]
      · rw [if_neg hfirst, List.lookup_cons, beq_false_of_ne (Ne.symm hfirst)]
        exact ih

lemma lookup_putMember_of_ne {α : Type} (members : List (String × α)) {key k : String}
    (h : k ≠ key) (value : α) : (putMember members key value).lookup k = members.lookup k := by
  induction members with
  | nil => rw [putMember, List.lookup_cons, beq_false_of_ne h]
  | cons member members ih =>
      obtain ⟨k', x⟩ := member
      rw [putMember]
      by_cases hfirst : k' = key
      · rw [if_pos hfirst, hfirst, List.lookup_cons, List.lookup_cons, beq_false_of_ne h]
      · rw [if_neg hfirst, List.lookup_cons, List.lookup_cons, ih]

/-- Putting another value under a key leaves all keys where they are. -/
lemma map_fst_putMember {α : Type} {members : List (String × α)} {key : String} {old : α}
    (h : members.lookup key = some old) (value : α) :
    (putMember members key value).map Prod.fst = members.map Prod.fst := by
  induction members with
  | nil => cases h
  | cons member members ih =>
      obtain ⟨k, x⟩ := member
      rw [putMember]
      by_cases hfirst : k = key
      · rw [if_pos hfirst, List.map_cons, List.map_cons, hfirst]
      · rw [List.lookup_cons, beq_false_of_ne (Ne.symm hfirst)] at h
        rw [if_neg hfirst, List.map_cons, List.map_cons, ih h]

/-- A path that leads to a value leads to the one that replaces it. -/
lemma at?_replaceAt {path : Path} {document old : Json} (h : document.at? path = some old)
    (value : Json) : (document.replaceAt path value).at? path = some value := by
  induction path generalizing document with
  | nil => rfl
  | cons segment path ih =>
      cases segment with
      | key key =>
          rw [at?, Option.bind_eq_some_iff] at h
          obtain ⟨member, hmember, hpath⟩ := h
          cases document with
          | object members =>
              rw [member?] at hmember
              rw [replaceAt, hmember]
              simp only [at?, member?, lookup_putMember_self, Option.bind_some]
              exact ih hpath
          | _ => cases hmember
      | index i =>
          rw [at?, Option.bind_eq_some_iff] at h
          obtain ⟨item, hitem, hpath⟩ := h
          cases document with
          | array items =>
              have hget : items[i]? = some item := hitem
              have hin : i < items.length := (List.getElem?_eq_some_iff.1 hget).1
              rw [replaceAt, hget]
              simp only [at?, items?, Option.bind_some, List.getElem?_set_self hin]
              exact ih hpath
          | _ => cases hitem

end Json

/-! ### Violations at other places -/

namespace Violation

/-- The violations at places that a path is not a prefix of. -/
def outside (path : Path) (violations : List Violation) : List Violation :=
  violations.filter fun violation => ¬path <+: violation.path

lemma outside_nil (violations : List Violation) : outside [] violations = [] := by
  simp [outside]

lemma outside_below (segment : Segment) (path : Path) (violations : List Violation) :
    outside (segment :: path) (below segment violations) =
      below segment (outside path violations) := by
  rw [outside, outside, below, below, List.filter_map]
  refine congrArg _ (List.filter_congr fun violation _ => ?_)
  simp [under, List.cons_prefix_cons]

lemma additive_outside (path : Path) :
    Additive fun violations violations' => outside path violations = outside path violations' where
  refl _ := rfl
  append hfirst hrest := by
    simp only [outside, List.filter_append] at hfirst hrest ⊢
    rw [hfirst, hrest]

end Violation

open Violation (outside outside_nil outside_below additive_outside)

/-! ### What is found elsewhere -/

/-- An object with another value at a path below one of its members, for a schema whose fields find
the same outside of that path. -/
lemma Schema.outside_validate_replaceAt_of_fields {schema : Schema} {path : Path} {value : Json}
    (hfields : ∀ field ∈ schema.fields, ∀ document : Json,
      outside path (field.validate (document.replaceAt path value)) =
        outside path (field.validate document))
    {members : List (String × Json)} {key : String} {old : Json}
    (hold : members.lookup key = some old) :
    outside (.key key :: path) (schema.validate
        (.object (Json.putMember members key (old.replaceAt path value)))) =
      outside (.key key :: path) (schema.validate (.object members)) := by
  have hkeys := schema.strayKeys_congr (Json.map_fst_putMember hold (old.replaceAt path value))
  refine rel_validate (R := fun violations violations' =>
      outside (.key key :: path) violations = outside (.key key :: path) violations')
    (.of_eq hkeys) (by rw [hkeys]) fun _ => rel_memberViolations (additive_outside _) ?_
  intro field hfield
  by_cases hname : field.name = key
  · subst hname
    rw [outside_below, outside_below]
    refine congrArg _ ?_
    simp only [Json.valueAt, Json.member?, Json.lookup_putMember_self, hold, Option.getD_some]
    exact hfields field hfield old
  · simp only [Json.valueAt, Json.member?, Json.lookup_putMember_of_ne members hname]

/-- **Replacing the value at a path** leaves what a field finds elsewhere as it is. -/
theorem Field.outside_validate_replaceAt (field : Field) (path : Path) (document value : Json) :
    outside path (field.validate (document.replaceAt path value)) =
      outside path (field.validate document) := by
  induction path generalizing field document with
  | nil => rw [outside_nil, outside_nil]
  | cons segment path ih =>
      cases segment with
      | key key =>
          cases document with
          | object members =>
              rw [Json.replaceAt]
              cases hold : members.lookup key with
              | none => rfl
              | some old =>
                  refine field.rel_validate_object (additive_outside _) fun _ _ schema _ => ?_
                  exact schema.outside_validate_replaceAt_of_fields
                    (fun field _ document => ih field document) hold
          | _ => rfl
      | index i =>
          cases document with
          | array items =>
              rw [Json.replaceAt]
              cases hold : items[i]? with
              | none => rfl
              | some old =>
                  have hlength : (items.set i (old.replaceAt path value)).length = items.length :=
                    List.length_set
                  refine field.rel_validate_array (additive_outside _) rfl
                    (field.reasons_array_congr hlength) hlength fun j x y hx hy => ?_
                  rw [hlength]
                  by_cases hplace : i = j
                  · subst hplace
                    have hin : i < items.length := (List.getElem?_eq_some_iff.1 hold).1
                    obtain rfl : old.replaceAt path value = x :=
                      Option.some.inj ((List.getElem?_set_self hin).symm.trans hx)
                    obtain rfl : old = y := Option.some.inj (hold.symm.trans hy)
                    rw [outside_below, outside_below, validateItem, validateItem]
                    refine congrArg _ ?_
                    cases field.itemField? items.length i with
                    | none => rfl
                    | some item => exact ih item old
                  · rw [List.getElem?_set_ne hplace] at hx
                    rw [Option.some.inj (hx.symm.trans hy)]
          | _ => rfl

/-- What is no object does not become one where only a part of it is replaced. -/
lemma Json.replaceAt_ne_object {document : Json} (h : ∀ members, document ≠ .object members)
    (segment : Segment) (path : Path) (value : Json) (members : List (String × Json)) :
    document.replaceAt (segment :: path) value ≠ .object members := by
  cases document with
  | object members => exact absurd rfl (h members)
  | array items =>
      cases segment with
      | key key => simp [replaceAt]
      | index i =>
          rw [replaceAt]
          cases items[i]? <;> simp
  | _ => simp [replaceAt]

/-- **Validation is local.**  Where a path leads to a value of a document, any value may replace it:
the violations at the places that the path is not a prefix of stay, in their order. -/
theorem Schema.validate_replaceAt (schema : Schema) {document old : Json} {path : Path}
    (h : document.at? path = some old) (value : Json) :
    (document.replaceAt path value).at? path = some value ∧
      outside path (schema.validate (document.replaceAt path value)) =
        outside path (schema.validate document) := by
  refine ⟨Json.at?_replaceAt h value, ?_⟩
  cases path with
  | nil => rw [outside_nil, outside_nil]
  | cons segment path =>
      by_cases hobject : ∃ members, document = .object members
      · obtain ⟨members, rfl⟩ := hobject
        cases segment with
        | index i => rfl
        | key key =>
            rw [Json.replaceAt]
            cases hold : members.lookup key with
            | none => rfl
            | some old =>
                have hfields (field : Field) (document : Json) :=
                  field.outside_validate_replaceAt path document value
                exact schema.outside_validate_replaceAt_of_fields
                  (fun field _ => hfields field) hold
      -- A schema finds no members in an array at the root, whatever its items are.
      · have hnot : ∀ members, document ≠ .object members := fun members heq =>
          hobject ⟨members, heq⟩
        have hnot' := Json.replaceAt_ne_object hnot segment path value
        rw [schema.validate_eq_of_not_object hnot' hnot]

/-- The second item of an array below two members, in a document with faults around it. -/
theorem Schema.validate_replaceAt_levels :
    let tags : Field := .list "tags" false { max := some 1 } (.string "tag" true {})
    let home : Schema := ⟨[.integer "zip" true {}, .string "street" true {}, tags], true⟩
    let schema : Schema := ⟨[.object "home" false home, .null "note"], true⟩
    let document (tag : Json) : Json := .object
      [("note", .bool true), ("home", .object [("zip", .bool true), ("tags", .array [.null, tag])])]
    let path : Path := [.key "home", .key "tags", .index 1]
    (document .null).at? path = some .null ∧
      (document .null).replaceAt path (.object []) = document (.object []) ∧
      outside path (schema.validate (document (.object []))) =
        outside path (schema.validate (document .null)) ∧
      (outside path (schema.validate (document .null))).length = 5 := by
  intro tags home schema document path
  have hreplaced : (document .null).replaceAt path (.object []) = document (.object []) := rfl
  have hat : (document .null).at? path = some .null := rfl
  have hsame := (schema.validate_replaceAt hat (.object [])).2
  rw [hreplaced] at hsame
  exact ⟨hat, hreplaced, hsame, by decide +kernel⟩

end SchemaCheck
