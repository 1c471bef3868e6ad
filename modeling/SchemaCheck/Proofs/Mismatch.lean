import Mathlib
import SchemaCheck.Proofs.Exact
import SchemaCheck.Proofs.Truth

/-!
# Mismatches of kind

A value is said to be of the wrong kind only where it is, and the kind that it is then said to have
is not the one that was expected.

* `Json.kind_eq_integer_iff` and `Json.isSome_wide?_iff`: whether a number goes by the name of an
  integer, and whether an integer is found in it where limits are checked, both depend on the
  fraction of its value alone.
* `Kind.Covers` and `Json.Suits`: which names of values, and which values, a field of a kind admits.
  `Kind.covers_iff` says that these are the same.
* `Field.exists_unsuited_of_mem_reasons`: what a field reports as a mismatch does not suit it.
* `Schema.kind_found_ne_expected`: the names in all mismatches of a document.
-/

namespace SchemaCheck

/-! ### Values that are integers -/

namespace Json

/-- The value is a number without fraction. -/
def IsWhole (value : Json) : Prop := ∃ n, value = .number n ∧ Int.fract n.value = 0

lemma isWhole_number {n : Number} : (number n).IsWhole ↔ n.whole?.isSome = true := by
  have hfract : n.whole?.isSome = true ↔ Int.fract n.value = 0 := by
    rw [Option.isSome_iff_exists, Int.fract_eq_zero_iff]
    exact exists_congr fun k => Number.whole?_eq_some_iff_value.trans eq_comm
  simp [IsWhole, hfract]

/-- **The name.**  A value goes by the name of an integer exactly if it is a number without
fraction. -/
theorem kind_eq_integer_iff {value : Json} : value.kind = .integer ↔ value.IsWhole := by
  cases value with
  | number n => simp [isWhole_number, kind_number_eq, Option.isSome_iff_ne_none]
  | _ => simp [kind, IsWhole]

/-- The integer of 128 bits that stands for a value where limits are checked. -/
def wide? (value : Json) : Option Int := value.number?.bind Number.wide?

/-- **The integer.**  There is an integer to be found exactly in a number without fraction. -/
theorem isSome_wide?_iff {value : Json} : value.wide?.isSome = true ↔ value.IsWhole := by
  cases value with
  | number n => rw [isWhole_number, wide?, number?, Option.bind_some, Number.isSome_wide?]
  | _ => simp [wide?, number?, IsWhole]

/-! ### Values that suit a kind -/

/-- The value is one that a field of the kind admits. -/
def Suits (value : Json) : Kind → Prop
  | .integer => value.IsWhole
  | .float => ∃ n, value = .number n
  | .string => ∃ text, value = .string text
  | .boolean => ∃ b, value = .bool b
  | .array => ∃ items, value = .array items
  | .object => ∃ members, value = .object members
  | .null => value = .null

lemma kind_number (n : Number) : (number n).kind = .integer ∨ (number n).kind = .float := by
  rw [kind_number_eq]
  split
  · exact .inl rfl
  · exact .inr rfl

end Json

/-- A field of the kind `expected` admits what goes by the name `found`: its own kind, and a float
field also integers. -/
def Kind.Covers (expected found : Kind) : Prop :=
  found = expected ∨ expected = .float ∧ found = .integer

/-- **The name of a value tells where it suits.** -/
theorem Kind.covers_iff {kind : Kind} {value : Json} :
    kind.Covers value.kind ↔ value.Suits kind := by
  by_cases hinteger : kind = .integer
  · subst hinteger
    simp [Covers, Json.Suits, Json.kind_eq_integer_iff]
  · cases value with
    | number n =>
        rcases Json.kind_number n with h | h <;> cases kind <;> simp_all [Covers, Json.Suits]
    | _ => cases kind <;> simp_all [Covers, Json.Suits, Json.kind]

/-! ### What a field reports of a value -/

section

variable {expected found : Kind}

-- Limits say nothing of kinds, so that a mismatch is not reported of what they are asked of.

lemma Rules.wrongKind_notMem_reasons {α : Type} [Limit α] (rules : Rules α) (n : Json.Number) :
    .wrongKind expected found ∉ rules.reasons n := by
  simp only [reasons, List.mem_append, not_or]
  refine ⟨⟨⟨?_, ?_⟩, ?_⟩, ?_⟩ <;> split <;> try split
  all_goals simp

/-- No rule for texts is about the kind of a value. -/
lemma TextRules.wrongKind_notMem_reasons (rules : TextRules) (text : String) :
    .wrongKind expected found ∉ rules.reasons text := by
  rw [reasons]
  split
  · split <;> simp
  · simp only [List.mem_append, not_or]
    refine ⟨⟨?_, ?_⟩, ?_⟩ <;> split <;> try split
    all_goals simp

lemma Lengths.wrongKind_notMem_reasons (lengths : Lengths) (count : Nat) :
    .wrongKind expected found ∉ lengths.reasons count := by
  simp only [reasons, List.mem_append, not_or]
  refine ⟨?_, ?_⟩ <;> split <;> try split
  all_goals simp

lemma exists_unsuited_of_wrongKind {kind : Kind} {seen : Json}
    (h : .wrongKind expected found = wrongKind kind seen) (hseen : ¬seen.Suits kind) :
    ∃ seen : Json, seen.kind = found ∧ ¬seen.Suits expected := by
  obtain ⟨rfl, rfl⟩ := Reason.wrongKind.inj h
  exact ⟨seen, rfl, hseen⟩

/-- A mismatch in a text is told of what the text spells. -/
lemma exists_unsuited_of_embedded {value : Json}
    (h : embedded value = .error (.wrongKind expected found)) :
    ∃ seen : Json, seen.kind = found ∧ ¬seen.Suits expected := by
  have hsuits {seen : Json} (hseen : ∀ members, seen ≠ .object members) : ¬seen.Suits .object :=
    fun ⟨members, hobject⟩ => hseen members hobject
  unfold embedded at h
  split at h
  · cases h
  · -- The value that counts is the one that the text spells.
    split at h
    · cases h
    · next hother _ => exact exists_unsuited_of_wrongKind (Except.error.inj h).symm (hsuits hother)
    · cases h
  · next hother _ => exact exists_unsuited_of_wrongKind (Except.error.inj h).symm (hsuits hother)

/-- **A mismatch is one**: the kind that a field says to have found is that of a value that does not
suit the kind it expects.  In an object field, that value may be what a text spells. -/
theorem Field.exists_unsuited_of_mem_reasons {field : Field} {value : Json}
    (h : .wrongKind expected found ∈ field.reasons value) :
    ∃ seen : Json, seen.kind = found ∧ ¬seen.Suits expected := by
  by_cases hnull : value = .null
  · subst hnull
    rw [reasons] at h
    split at h <;> simp at h
  cases field with
  | integer name required rules =>
      cases value with
      | null => exact absurd rfl hnull
      | number n =>
          change _ ∈ (if n.wide?.isSome then _ else _) at h
          split at h
          · exact absurd h (rules.wrongKind_notMem_reasons n)
          · next hwide =>
              exact exists_unsuited_of_wrongKind (List.mem_singleton.1 h) fun hwhole =>
                hwide (Json.isSome_wide?_iff.2 hwhole)
      | _ =>
          refine exists_unsuited_of_wrongKind (List.mem_singleton.1 h) ?_
          simp [Json.Suits, Json.IsWhole]
  | float name required rules =>
      cases value with
      | null => exact absurd rfl hnull
      | number n => exact absurd h (rules.wrongKind_notMem_reasons n)
      | _ => exact exists_unsuited_of_wrongKind (List.mem_singleton.1 h) (by simp [Json.Suits])
  | string name required rules =>
      cases value with
      | null => exact absurd rfl hnull
      | string text => exact absurd h (rules.wrongKind_notMem_reasons text)
      | _ => exact exists_unsuited_of_wrongKind (List.mem_singleton.1 h) (by simp [Json.Suits])
  | boolean name required asked =>
      cases value with
      | null => exact absurd rfl hnull
      | bool b =>
          cases asked with
          | none => cases h
          | some b' =>
              change _ ∈ (if b = b' then _ else _) at h
              split at h <;> simp at h
      | _ => exact exists_unsuited_of_wrongKind (List.mem_singleton.1 h) (by simp [Json.Suits])
  | list name required lengths item =>
      cases value with
      | null => exact absurd rfl hnull
      | array items => exact absurd h (lengths.wrongKind_notMem_reasons items.length)
      | _ => exact exists_unsuited_of_wrongKind (List.mem_singleton.1 h) (by simp [Json.Suits])
  | tuple name required lengths items =>
      cases value with
      | null => exact absurd rfl hnull
      | array values =>
          rcases List.mem_append.1 h with h | h
          · exact absurd h (lengths.wrongKind_notMem_reasons values.length)
          · split at h <;> simp at h
      | _ => exact exists_unsuited_of_wrongKind (List.mem_singleton.1 h) (by simp [Json.Suits])
  | object name required schema =>
      rw [reasons_object hnull] at h
      split at h
      · cases h
      · next hembed =>
          obtain rfl := List.mem_singleton.1 h
          exact exists_unsuited_of_embedded hembed
  | null name =>
      cases value with
      | null => exact absurd rfl hnull
      | _ => cases List.mem_singleton.1 h

end

/-! ### All violations of a document -/

namespace Schema

/-- **No mismatch of a kind with itself.**  A value goes by the name of an integer exactly where an
integer is found in it, which is where it is a number without fraction.  So no violation of a
document, at whatever depth and in whatever text, says of a value of the kind that was expected that
it is of the wrong kind, nor of an integer that it is no float. -/
theorem kind_found_ne_expected :
    (∀ value : Json,
      (value.kind.name = "integer" ↔ ∃ k, value.wide? = some k) ∧
        (value.kind.name = "integer" ↔ value.IsWhole)) ∧
    ∀ (schema : Schema) (document : Json), ∀ violation ∈ schema.validate document,
      ∀ expected found, violation.reason = .wrongKind expected found →
        found.name ≠ expected.name ∧ ¬expected.Covers found := by
  constructor
  · intro value
    have hname : value.kind.name = "integer" ↔ value.IsWhole := by
      rw [← Json.kind_eq_integer_iff]
      exact ⟨fun h => Kind.name_injective (l := .integer) h, fun h => h ▸ rfl⟩
    refine ⟨?_, hname⟩
    rw [hname, ← Json.isSome_wide?_iff, Option.isSome_iff_exists]
  · intro schema document violation hviolation expected found hreason
    have hcovers : ¬expected.Covers found := by
      rcases exists_visit_of_mem_validate hviolation with
        ⟨field, value, -, -, hcheck⟩ | ⟨-, hunknown⟩
      · have hmem := Check.mem_report.2 hcheck
        rw [field.report_checks, hreason] at hmem
        obtain ⟨seen, rfl, hseen⟩ := Field.exists_unsuited_of_mem_reasons hmem
        exact mt Kind.covers_iff.1 hseen
      · cases hreason.symm.trans hunknown
    exact ⟨fun hname => hcovers (.inl (Kind.name_injective hname)), hcovers⟩

/-- The text of an item spells a list where an object is expected. -/
theorem kind_found_ne_expected_spelled :
    let schema : Schema := ⟨[.list "boxes" false {} (.object "box" false ⟨[], true⟩)], false⟩
    let document : Json := .object [("boxes", .array [.object [], .string "[\x7b\x7d]"])]
    let violation : Violation := ⟨[.key "boxes", .index 1], "box", .wrongKind .object .array⟩
    violation ∈ schema.validate document ∧
      Kind.array.name ≠ Kind.object.name ∧ ¬Kind.object.Covers .array := by
  intro schema document violation
  have hvalidate : schema.validate document = [violation] := by cbv
  have hmem : violation ∈ schema.validate document := hvalidate ▸ List.mem_singleton_self violation
  exact ⟨hmem, kind_found_ne_expected.2 schema document violation hmem .object .array rfl⟩

end Schema

end SchemaCheck
