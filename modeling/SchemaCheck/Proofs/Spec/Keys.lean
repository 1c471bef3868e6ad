import Mathlib.Tactic.Common
import SchemaCheck.Proofs.Limits
import SchemaCheck.Spec.Reading

/-!
# The keys of a spec

What the value of a key may be, and how reading a key depends on it.

* `Json.IsBoolean`, `Json.IsInt64` and so on: the sorts of values that keys are asked for.
* `Json.Converts`: a conversion succeeds on exactly the values of a sort.
* `Members.Optional`: a key is absent, or has a value of a sort.
* `Members.misfit`: the defect of a key that is there with another value.  With a conversion for the
  sort, it is what `Members.read` finds (`errors_read`).
-/

namespace SchemaCheck

/-! ### Sorts of values -/

namespace Json

/-- A truth value. -/
def IsBoolean (value : Json) : Prop := ∃ b, value = .bool b

/-- A string. -/
def IsString (value : Json) : Prop := ∃ text, value = .string text

/-- A number. -/
def IsNumber (value : Json) : Prop := ∃ n, value = .number n

/-- A number without fractional part that fits in 64 bits. -/
def IsInt64 (value : Json) : Prop :=
  ∃ n k, value = .number n ∧ n.IsInt k ∧ Int64.minValue.toInt ≤ k ∧ k ≤ Int64.maxValue.toInt

/-- A list. -/
def IsArray (value : Json) : Prop := ∃ items, value = .array items

/-- A list of values of the sort `P`. -/
def IsListOf (P : Json → Prop) (value : Json) : Prop :=
  ∃ items, value = .array items ∧ ∀ item ∈ items, P item

/-- An object with a start and an end of the sort `P`. -/
def IsRangeOf (P : Json → Prop) (value : Json) : Prop :=
  (∃ start ∈ value.member? "start", P start) ∧ ∃ stop ∈ value.member? "end", P stop

/-- The conversion succeeds on exactly the values of the sort `P`. -/
def Converts {α : Type} (convert : Json → Option α) (P : Json → Prop) : Prop :=
  ∀ value, (convert value).isSome = true ↔ P value

lemma converts_bool? : Converts bool? IsBoolean := by
  intro value
  cases value <;> simp [bool?, IsBoolean]

lemma converts_string? : Converts string? IsString := by
  intro value
  cases value <;> simp [string?, IsString]

lemma converts_items? : Converts items? IsArray := by
  intro value
  cases value <;> simp [items?, IsArray]

lemma converts_toBinary64 : Converts (Limit.ofJson? : Json → Option Binary64) IsNumber := by
  intro value
  cases value <;> simp [Limit.ofJson?, number?, IsNumber]

lemma converts_int64 : Converts (Limit.ofJson? : Json → Option Int64) IsInt64 := by
  intro value
  cases value with
  | number n =>
      rw [show Limit.ofJson? (.number n) = Int64.ofJson? (.number n) from rfl, Int64.ofJson?_eq,
        number?, Option.bind_some]
      constructor
      · intro h
        obtain ⟨m, hm⟩ := Option.isSome_iff_exists.1 h
        obtain ⟨k, hk, hfits⟩ := Option.bind_eq_some_iff.1 hm
        split at hfits
        · next hbounds => exact ⟨n, k, rfl, Number.whole?_eq_some_iff.1 hk, hbounds⟩
        · cases hfits
      · rintro ⟨n', k, heq, hint, hbounds⟩
        obtain rfl : n = n' := Json.number.inj heq
        rw [Number.whole?_eq_some_iff.2 hint, Option.bind_some, if_pos hbounds, Option.isSome_some]
  | _ => simp [Limit.ofJson?, Int64.ofJson?, number?, IsInt64]

/-- All values are converted exactly if each of them is. -/
lemma isSome_mapM_iff {α β : Type} (f : α → Option β) (items : List α) :
    (items.mapM f).isSome = true ↔ ∀ item ∈ items, (f item).isSome = true := by
  induction items with
  | nil => simp
  | cons item items ih =>
      rw [List.mapM_cons, List.forall_mem_cons, ← ih]
      cases f item <;> cases items.mapM f <;> simp

variable {α : Type} {convert : Json → Option α} {P : Json → Prop}

/-- A list is converted exactly if all its items are. -/
lemma Converts.listOf (h : Converts convert P) :
    Converts (fun value => do (← value.items?).mapM convert) (IsListOf P) := by
  intro value
  cases value with
  | array items =>
      have hitems : (∀ item ∈ items, (convert item).isSome = true) ↔ ∀ item ∈ items, P item :=
        forall₂_congr fun item _ => h item
      simp [items?, IsListOf, isSome_mapM_iff, hitems]
  | _ => simp [items?, IsListOf]

/-- A range is converted exactly if it has both of its ends. -/
lemma converts_range? [Limit α] (h : Converts (Limit.ofJson? : Json → Option α) P) :
    Converts (Members.range? : Json → Option (Range α)) (IsRangeOf P) := by
  intro value
  simp only [Members.range?, IsRangeOf, ← h _]
  cases value.member? "start" with
  | none => simp
  | some start =>
      cases value.member? "end" with
      | none => cases hs : (Limit.ofJson? start : Option α) <;> simp
      | some stop =>
          cases hs : (Limit.ofJson? start : Option α) <;>
            cases ht : (Limit.ofJson? stop : Option α) <;> simp [hs, ht]

instance : DecidablePred IsBoolean := fun value => decidable_of_iff _ (converts_bool? value)

instance : DecidablePred IsString := fun value => decidable_of_iff _ (converts_string? value)

instance : DecidablePred IsNumber := fun value => decidable_of_iff _ (converts_toBinary64 value)

instance : DecidablePred IsInt64 := fun value => decidable_of_iff _ (converts_int64 value)

instance : DecidablePred IsArray := fun value => decidable_of_iff _ (converts_items? value)

instance [DecidablePred P] : DecidablePred (IsListOf P)
  | .array items => decidable_of_iff (∀ item ∈ items, P item) (by simp [IsListOf])
  | .null | .bool _ | .number _ | .string _ | .object _ => .isFalse (by simp [IsListOf])

instance [DecidablePred P] : DecidablePred (IsRangeOf P) := fun _ => instDecidableAnd

end Json

/-! ### Reading a key -/

namespace Members

variable {α : Type} {convert : Json → Option α} {P : Json → Prop}

/-- The key is absent, or its value is of the sort `P`. -/
def Optional (members : Members) (key : String) (P : Json → Prop) : Prop :=
  ∀ value, members.lookup key = some value → P value

/-- The defect of a key whose value is not of the sort `P`. -/
def misfit (members : Members) (key expected : String) (P : Json → Prop) [DecidablePred P] :
    List Defect :=
  match members.lookup key with
  | some value => if P value then [] else [.invalidValue key expected]
  | none => []

/-- **Reading a key** finds the one defect that its value has, or none. -/
lemma errors_read [DecidablePred P] (h : Json.Converts convert P) (members : Members)
    (key expected : String) :
    (members.read key expected convert).errors =
      (members.misfit key expected P).map SpecError.here := by
  rw [read, misfit]
  cases members.lookup key with
  | none => rfl
  | some value =>
      have hvalue := h value
      cases hconvert : convert value with
      | none => simp [← hvalue, hconvert]
      | some x => simp [← hvalue, hconvert]

end Members

end SchemaCheck
