import Mathlib.Tactic.Common
import SchemaCheck.Proofs.Spec.Structure

/-!
# No refusal without a defect

Reading gives a field or a schema where it finds no defect.

* `Checked.Told`: a part that cannot be read has a defect.  Parts put together are told where each
  of them is (`Told.ap`), and a told part without defects is there (`Told.exists_ok_iff`).
* `Members.told_*`: the parts of a field are told, an array or object field as far as its items or
  its schema are.
* `told`, by induction on specs: field specs and schema documents are told.
-/

namespace SchemaCheck

/-! ### Parts that are told -/

/-- A part of a document is not refused without a defect. -/
structure Checked.Told {α : Type} (x : Checked α) : Prop where
  ne_nil : x ≠ .error []

namespace Checked

variable {α β : Type} {x : Checked α}

lemma told_ok (a : α) : Told (.ok a) := ⟨nofun⟩

/-- A refusal with a defect is told. -/
lemma told_error (e : SpecError) (es : List SpecError) : Told (.error (e :: es) : Checked α) :=
  ⟨nofun⟩

/-- Parts that are told of are told of together. -/
lemma Told.ap {f : Checked (α → β)} (hf : f.Told) (hx : x.Told) : (f.ap x).Told := by
  obtain ⟨hf⟩ := hf
  obtain ⟨hx⟩ := hx
  refine ⟨?_⟩
  cases f <;> cases x <;> simp_all [Checked.ap]

/-- What is made of a part changes nothing in its defects. -/
lemma Told.map (hx : x.Told) (f : α → β) : Told (x.map f) := by
  obtain ⟨hx⟩ := hx
  refine ⟨?_⟩
  cases x <;> simp_all [Except.map]

/-- Defects that are seen from further out are still defects. -/
lemma Told.within (hx : x.Told) (path : Path) : (x.within path).Told := by
  obtain ⟨hx⟩ := hx
  refine ⟨?_⟩
  cases x <;> simp_all [Checked.within]

/-- What is read without a defect is there. -/
lemma Told.exists_ok_iff (hx : x.Told) : (∃ a, x = .ok a) ↔ x.errors = [] := by
  obtain ⟨hx⟩ := hx
  cases x <;> simp_all

end Checked

namespace Members

variable (members : Members)

/-- Reading a key is not refused without a defect. -/
lemma told_read {α : Type} (key expected : String) (convert : Json → Option α) :
    (members.read key expected convert).Told := by
  rw [read]
  split
  · exact Checked.told_ok _
  · split
    · exact Checked.told_ok _
    · exact Checked.told_error _ _

/-- Reading a kind is not refused without a defect. -/
lemma told_kind : (Members.kind members).Told := by
  rw [Members.kind]
  split
  · exact Checked.told_error _ _
  · split
    · exact Checked.told_ok _
    · exact Checked.told_error _ _
  · exact Checked.told_error _ _

/-- Reading a name is not refused without a defect. -/
lemma told_name : (Members.name members).Told := by
  rw [Members.name]
  split
  · exact Checked.told_ok _
  · exact Checked.told_error _ _

lemma told_flag (key : String) : (members.flag key).Told := (told_read ..).map _

lemma told_length (key : String) : (members.length key).Told := (told_read ..).map _

/-- Reading a format is not refused without a defect. -/
lemma told_format : (Members.format members).Told := by
  rw [Members.format]
  split
  · next h =>
      have hread := (members.told_read "format" "a string" Json.string?).ne_nil
      rw [h] at hread
      exact ⟨by simpa using hread⟩
  · exact Checked.told_ok _
  · split
    · exact Checked.told_ok _
    · exact Checked.told_error _ _

lemma told_rules {α : Type} [Limit α] : (Members.rules members : Checked (Rules α)).Told :=
  ((((Checked.told_ok _).ap (told_read ..)).ap (told_read ..)).ap (told_read ..)).ap (told_read ..)

lemma told_textRules : (Members.textRules members).Told :=
  ((((Checked.told_ok _).ap (told_length ..)).ap (told_length ..)).ap (told_format _)).ap
    (told_read ..)

lemma told_lengths : (Members.lengths members).Told :=
  ((Checked.told_ok _).ap (told_length ..)).ap (told_length ..)

/-- No field without specs below is refused without a defect. -/
lemma told_simpleField (kind : Kind) : (members.simpleField kind).Told := by
  have hcommon {α : Type} (f : String → Bool → α) :
      ((Checked.build f |>.ap members.name).ap (members.flag "required")).Told :=
    ((Checked.told_ok f).ap (told_name _)).ap (told_flag ..)
  cases kind with
  | integer | float => exact (hcommon _).ap (told_rules _)
  | string => exact (hcommon _).ap (told_textRules _)
  | boolean => exact (hcommon _).ap (told_read ..)
  | _ => exact hcommon _

/-- No array field is refused without a defect, if its items are not. -/
lemma told_arrayField {items : Checked ArrayOf} (h : items.Told) :
    (members.arrayField items).Told :=
  (((((Checked.told_ok _).ap (told_name _)).ap (told_flag ..)).ap ((told_read ..).map _)).ap
    (told_lengths _)).ap h

/-- No object field is refused without a defect, if its schema is not. -/
lemma told_objectField {schema : Checked Schema} (h : schema.Told) :
    (members.objectField schema).Told :=
  (((Checked.told_ok _).ap (told_name _)).ap (told_flag ..)).ap h

end Members

/-- No list of specs is refused without a defect, if none of the specs is. -/
lemma told_fieldsOfSpecs {specs : List Json} (h : ∀ spec ∈ specs, (Field.ofSpec spec).Told)
    (index : Nat) : (fieldsOfSpecs index specs).Told := by
  induction specs generalizing index with
  | nil =>
      rw [fieldsOfSpecs_nil]
      exact Checked.told_ok _
  | cons spec specs ih =>
      obtain ⟨hspec, hspecs⟩ := List.forall_mem_cons.1 h
      rw [fieldsOfSpecs]
      exact ((Checked.told_ok _).ap (hspec.within _)).ap (ih hspecs _)

/-- No description of items is refused without a defect, if none of the specs is. -/
lemma Members.told_itemsOfSpec {members : Members}
    (hitems : ∀ spec, members.lookup "items" = some spec → (Field.ofSpec spec).Told)
    (hfix : ∀ specs, members.lookup "fix_items" = some (.array specs) →
      ∀ spec ∈ specs, (Field.ofSpec spec).Told) :
    (itemsOfSpec members).Told := by
  rw [itemsOfSpec_eq]
  split
  · exact Checked.told_error _ _
  · refine ((told_fieldsOfSpecs (fun spec hspec => ?_) _).within _).map _
    obtain ⟨specs, hlookup, hmem⟩ := lookup_of_mem_tupleItems hspec
    exact hfix specs hlookup spec hmem
  · next spec hlookup _ => exact ((hitems spec hlookup).within _).map _
  · exact Checked.told_error _ _

/-- **No refusal without a defect**, of a field spec and of a schema document. -/
theorem told (value : Json) : (Field.ofSpec value).Told ∧ (Schema.ofSpec value).Told := by
  refine value.spec_induction (P := fun v => (Field.ofSpec v).Told)
    (Q := fun v => (Schema.ofSpec v).Told) ?_ ?_ ?_ ?_
  · intro members hitems hfix hschema
    have hkind := members.told_kind.ne_nil
    rw [Field.ofSpec_object]
    cases hread : Members.kind members with
    | error errors =>
        -- Name and requirement are read as well, but the defect of the kind is enough.
        rw [hread] at hkind
        exact ⟨by simp_all⟩
    | ok kind =>
        cases kind with
        | array => exact members.told_arrayField (Members.told_itemsOfSpec hitems hfix)
        | object =>
            refine members.told_objectField ?_
            rw [Members.ofSchemaKey]
            split
            · exact Checked.told_error _ _
            · next hlookup => exact (hschema _ hlookup).within _
        | _ => exact members.told_simpleField _
  · intro value hvalue
    rw [Field.ofSpec_of_not_object hvalue]
    exact Checked.told_error _ _
  · intro members hfields
    rw [Schema.ofSpec_object]
    split
    · exact (Members.told_flag ..).map _
    · next hlookup =>
        exact ((Checked.told_ok _).ap (Members.told_flag ..)).ap
          (told_fieldsOfSpecs (hfields _ hlookup) _)
    · exact ⟨by simp⟩
  · intro value hvalue
    rw [Schema.ofSpec_of_not_object hvalue]
    exact Checked.told_error _ _

end SchemaCheck
