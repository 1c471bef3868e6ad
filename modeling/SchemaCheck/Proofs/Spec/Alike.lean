import Mathlib.Data.List.Forall2
import Mathlib.Tactic.Common
import SchemaCheck.Proofs.Json.Alike
import SchemaCheck.Proofs.Spec.Simulation

/-!
# The writing of numbers in schema documents

Documents that differ in the writing of numbers alone give equal schemas, or have the same defects.

* `Limit.Exact`: limits are not told apart by the writing of numbers.
* `Json.Alike.simulation`: values that differ in it simulate each other, whatever they are read as.
* `Json.Alike.not_told_apart`: neither validation nor the reading of schemas tells values apart
  that differ in the writing of numbers.
-/

namespace SchemaCheck

open Checked (Related)

/-! ### Values -/

namespace Json.Alike

variable {value value' : Json}

/-- Alike objects have alike members under the same keys. -/
lemma rel_lookup {members members' : Members}
    (h : (Json.object members).Alike (.object members')) (key : String) :
    Option.Rel Alike (members.lookup key) (members'.lookup key) := by
  cases h with
  | object hkeys hmembers =>
      rcases lookup_of_keys_eq hkeys key with ⟨hx, hy⟩ | ⟨i, x, y, hi, hi', hx, hy⟩
      · rw [hx, hy]
        exact .none
      · rw [hx, hy]
        exact .some (hmembers i key x y hi hi')

/-- Alike values have alike members under the same keys. -/
lemma rel_member? (h : value.Alike value') (key : String) :
    Option.Rel Alike (value.member? key) (value'.member? key) := by
  cases h with
  | object hkeys hmembers => exact rel_lookup (.object hkeys hmembers) key
  | _ => exact .none

/-- Alike values have alike items, in their order. -/
lemma rel_items? (h : value.Alike value') :
    Option.Rel (List.Forall₂ Alike) value.items? value'.items? := by
  cases h with
  | array hlength hitems =>
      refine .some (List.forall₂_iff_get.2 ⟨hlength, fun i hi hi' => ?_⟩)
      exact hitems i _ _ (List.getElem?_eq_getElem hi) (List.getElem?_eq_getElem hi')
  | _ => exact .none

lemma bool?_eq (h : value.Alike value') : value.bool? = value'.bool? := by
  cases h <;> rfl

lemma string?_eq (h : value.Alike value') : value.string? = value'.string? := by
  cases h <;> rfl

lemma int64_eq (h : value.Alike value') : Int64.ofJson? value = Int64.ofJson? value' := by
  cases h with
  | number hexact => simp [Int64.ofJson?_eq, number?, Number.whole?_congr hexact]
  | _ => rfl

end Json.Alike

/-! ### Limits -/

/-- Values that differ in the writing of numbers are the same limit, or no limit at all. -/
def Limit.Exact (α : Type) [Limit α] : Prop :=
  ∀ value value' : Json, value.Alike value' →
    Option.Rel (fun x y : α => Limit.same x y = true) (Limit.ofJson? value) (Limit.ofJson? value')

/-- Binary limits depend on the exact value of a number alone. -/
lemma Limit.exact_binary64 : Limit.Exact Binary64 := by
  intro value value' h
  cases h with
  | number hexact => exact .some (Json.Number.same_toBinary64 hexact)
  | _ => exact .none

/-! ### Schema documents -/

/-- **Values that differ in the writing of numbers** simulate each other. -/
theorem Json.Alike.simulation : Json.Simulation fun _ => Json.Alike where
  kind_eq h := h.kind_eq
  scalar h := ⟨h.bool?_eq, h.string?_eq, h.int64_eq, Limit.exact_binary64 _ _ h⟩
  items h _ := h.rel_items?
  members h _ pair _ := h.rel_lookup pair.1

/-- **Equal schemas, or the same defects.**  Specs that differ in the writing of numbers are read as
equal fields or have the same defects, and so it is with schema documents. -/
theorem Json.Alike.related_ofSpec (value : Json) :
    (∀ value', value.Alike value' → SpecAlike value value') ∧
      ∀ value', value.Alike value' → DocumentAlike value value' :=
  simulation.related_ofSpec value

/-- **The writing of numbers does not matter.**  Two values that differ in it alone have the same
violations for every schema; and read as schema documents they give equal schemas, or have the same
defects. -/
theorem Json.Alike.not_told_apart {value value' : Json} (h : value.Alike value') :
    (∀ schema : Schema, schema.validate value = schema.validate value') ∧
      Related (fun schema schema' => schema.same schema' = true) (Schema.ofSpec value)
        (Schema.ofSpec value') :=
  ⟨h.schema_validate_eq, (related_ofSpec value).2 value' h⟩

/-- Limits of zero with either sign, and of `2 ^ 63` as an integer and as a binary number. -/
theorem Json.Alike.not_told_apart_limits :
    let spec (min max : Json.Number) : Json := .object [("name", .string "n"),
      ("type", .string "float"), ("min", .number min), ("max", .number max)]
    let document (spec : Json) : Json := .object [("fields", .array [spec])]
    let huge : Binary64.Finite := ⟨false, Nat.pow 2 52, 1085, by decide, by decide, by decide⟩
    let value := document (spec (.whole 0) (.whole 9223372036854775808))
    let value' := document (spec (.float (.zero true)) (.float huge))
    value.Alike value' ∧
      (∀ schema : Schema, schema.validate value = schema.validate value') ∧
        Related (fun schema schema' => schema.same schema' = true) (Schema.ofSpec value)
          (Schema.ofSpec value') := by
  intro spec document huge value value'
  have hmin : (Json.Number.whole 0).exact = (Json.Number.float (.zero true)).exact := by
    decide +kernel
  have hmax : (Json.Number.whole 9223372036854775808).exact = (Json.Number.float huge).exact := by
    decide +kernel
  have hspec : (spec (.whole 0) (.whole 9223372036854775808)).Alike
      (spec (.float (.zero true)) (.float huge)) := by
    refine .object rfl ?_
    rintro (_ | _ | _ | _ | i) key x y hx hy <;> cases hx <;> cases hy
    · exact .string "n"
    · exact .string "float"
    · exact .number hmin
    · exact .number hmax
  have hspecs : (Json.array [spec (.whole 0) (.whole 9223372036854775808)]).Alike
      (.array [spec (.float (.zero true)) (.float huge)]) := by
    refine .array rfl ?_
    rintro (_ | i) x y hx hy
    · cases hx
      cases hy
      exact hspec
    · cases hx
  have hvalue : value.Alike value' := by
    refine .object rfl ?_
    rintro (_ | i) key x y hx hy
    · cases hx
      cases hy
      exact hspecs
    · cases hx
  exact ⟨hvalue, hvalue.not_told_apart⟩

end SchemaCheck
