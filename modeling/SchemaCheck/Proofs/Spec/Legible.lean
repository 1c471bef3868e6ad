import Mathlib.Tactic.Common
import SchemaCheck.Proofs.Json.Pretty
import SchemaCheck.Proofs.Spec.Description

/-!
# Legible documents

The text of the document that a schema is written as can be read back.

* `LegibleUnder`: members with legible values, whose keys are among given ones.  Where those are
  different, the object is legible (`LegibleUnder.object`).  The rules of fields are written so
  (`Rules.legible`, `Lengths.legible`, `TextRules.legible`).
* `Field.LegibleLimits`: binary numbers that are written for the field are read back.  There may be
  none of them (`Field.NoFloatLimits`).
* `Field.legible_toSpec`, by induction on the field, and `Schema.legible_toSpec`: what is written
  for a representable field or schema with such limits is legible.  `Schema.ofBytes_pretty`: so the
  schema is read from its text.
-/

namespace SchemaCheck

open Json

/-! ### Legible values -/

namespace Json

lemma legible_string (text : String) : (Json.string text).Everywhere Legible :=
  ⟨by simp, by simp⟩

lemma legible_bool (b : Bool) : (Json.bool b).Everywhere Legible :=
  ⟨by simp, by simp⟩

/-- A number is legible if it is read back. -/
lemma legible_number {n : Number} (h : n.ReadsBack) : (Json.number n).Everywhere Legible := by
  refine ⟨?_, by simp⟩
  intro m hm
  obtain rfl := Json.number.inj hm
  exact h

/-- An integer of 64 bits is legible. -/
lemma legible_whole {k : Int} (h : (Number.whole k).InWords) :
    (Json.number (.whole k)).Everywhere Legible :=
  legible_number (Number.readsBack_whole h)

/-- An array is legible if its items are. -/
lemma legible_array {items : List Json} (h : ∀ item ∈ items, item.Everywhere Legible) :
    (Json.array items).Everywhere Legible :=
  everywhere_array.2 ⟨⟨by simp, by simp⟩, h⟩

/-- An object is legible if its keys are different and the values of its members legible. -/
lemma legible_object {members : Members} (hkeys : (members.map Prod.fst).Nodup)
    (h : ∀ member ∈ members, member.2.Everywhere Legible) :
    (Json.object members).Everywhere Legible := by
  refine everywhere_object.2 ⟨⟨by simp, ?_⟩, h⟩
  intro members' hmembers
  obtain rfl := Json.object.inj hmembers
  exact hkeys

end Json

/-- The members have legible values, and their keys are among the given ones, in that order. -/
structure LegibleUnder (keys : List String) (members : Members) : Prop where
  keys : (members.map Prod.fst).Sublist keys
  values : ∀ member ∈ members, member.2.Everywhere Legible

namespace LegibleUnder

lemma nil : LegibleUnder [] [] := ⟨.slnil, List.forall_mem_nil _⟩

/-- Members of different keys stay legible when they are put together. -/
lemma append {keys keys' : List String} {members members' : Members}
    (h : LegibleUnder keys members) (h' : LegibleUnder keys' members') :
    LegibleUnder (keys ++ keys') (members ++ members') where
  keys := by
    rw [List.map_append]
    exact h.keys.append h'.keys
  values := List.forall_mem_append.2 ⟨h.values, h'.values⟩

lemma single {key : String} {value : Json} (h : value.Everywhere Legible) :
    LegibleUnder [key] [(key, value)] :=
  ⟨List.Sublist.refl _, List.forall_mem_singleton.2 h⟩

/-- A value that may be missing is legible under its key if it is where it is given. -/
lemma optional {α : Type} {key : String} {value : Option α} {toJson : α → Json}
    (h : ∀ x, value = some x → (toJson x).Everywhere Legible) :
    LegibleUnder [key] (optionalMember key value toJson) := by
  cases value with
  | none => exact ⟨List.nil_sublist _, List.forall_mem_nil _⟩
  | some x => exact single (h x rfl)

lemma object {keys : List String} {members : Members} (h : LegibleUnder keys members)
    (hkeys : keys.Nodup) : (Json.object members).Everywhere Legible :=
  legible_object (hkeys.sublist h.keys) h.values

end LegibleUnder

/-! ### Written rules -/

lemma legible_limit (n : Int64) : (Limit.toJson n : Json).Everywhere Legible :=
  legible_whole ⟨n.minValue_le_toInt, Int.lt_of_le_of_lt n.toInt_le (by decide)⟩

lemma legible_lengthJson {n : Nat} (h : FitsInt64 n) : (lengthJson n).Everywhere Legible :=
  legible_whole ⟨Int.le_trans (by decide) (Int.natCast_nonneg n), Int.lt_of_le_of_lt h (by decide)⟩

/-- Rules for numbers are legible if their limits are. -/
lemma Rules.legible {α : Type} [Limit α] {P : α → Prop} {rules : Rules α} (h : rules.All P)
    (hP : ∀ x, P x → (Limit.toJson x : Json).Everywhere Legible) :
    LegibleUnder ["min", "max", "positive", "ranges"] rules.members := by
  refine (((LegibleUnder.optional fun x hx => hP x (h.min x hx)).append
    (.optional fun x hx => hP x (h.max x hx))).append
      (.optional fun _ _ => legible_bool _)).append (.optional fun ranges hranges => ?_)
  refine legible_array fun item hitem => ?_
  obtain ⟨range, hrange, rfl⟩ := List.mem_map.1 hitem
  obtain ⟨hstart, hstop⟩ := h.ranges ranges hranges range hrange
  exact ((LegibleUnder.single (hP _ hstart)).append (.single (hP _ hstop))).object (by decide)

/-- Lengths are legible if they can be written. -/
lemma Lengths.legible {lengths : Lengths} (h : lengths.Fit) :
    LegibleUnder ["min_length", "max_length"] lengths.members :=
  (LegibleUnder.optional fun n hn => legible_lengthJson (h.min n hn)).append
    (.optional fun n hn => legible_lengthJson (h.max n hn))

/-- Rules for texts are legible if they can be written. -/
lemma TextRules.legible {rules : TextRules} (h : rules.Fit) :
    LegibleUnder ["min_length", "max_length", "format", "choices"] rules.members := by
  refine (((LegibleUnder.optional fun n hn => legible_lengthJson (h.min n hn)).append
    (.optional fun n hn => legible_lengthJson (h.max n hn))).append
      (.optional fun _ _ => legible_string _)).append (.optional fun choices _ => ?_)
  refine legible_array fun item hitem => ?_
  obtain ⟨choice, -, rfl⟩ := List.mem_map.1 hitem
  exact legible_string choice

/-- What is written for every field is legible. -/
lemma Field.legible_commonMembers (field : Field) :
    LegibleUnder ["name", "type", "required"] field.commonMembers := by
  refine ((LegibleUnder.single (legible_string _)).append (.single (legible_string _))).append ?_
  split
  · exact .single (legible_bool true)
  · exact ⟨List.nil_sublist _, List.forall_mem_nil _⟩

/-! ### Written fields -/

/-- The field sets no limits that are binary numbers. -/
def Field.NoFloatLimits : Field → Prop
  | .float _ _ rules => rules.min = none ∧ rules.max = none ∧ rules.ranges = none
  | _ => True

lemma Field.NoFloatLimits.all {name : String} {required : Bool} {rules : Rules Binary64}
    (h : (Field.float name required rules).NoFloatLimits) : rules.All fun _ => False := by
  obtain ⟨hmin, hmax, hranges⟩ := h
  constructor
  · intro x hx
    cases hmin.symm.trans hx
  · intro x hx
    cases hmax.symm.trans hx
  · intro ranges hx
    cases hranges.symm.trans hx

/-- The limits of the field that are binary numbers are finite and read back from their texts. -/
def Field.LegibleLimits : Field → Prop
  | .float _ _ rules => rules.All fun x => ∃ y, x = .finite y ∧ (Json.Number.float y).ReadsBack
  | _ => True

namespace Field

/-- Without limits that are binary numbers there is nothing that may not be read back. -/
lemma NoFloatLimits.legibleLimits {field : Field} (h : field.NoFloatLimits) :
    field.LegibleLimits := by
  cases field with
  | float name required rules => exact h.all.imp fun _ => False.elim
  | _ => trivial

/-- Only finite limits are read back. -/
lemma LegibleLimits.finiteLimits {field : Field} (h : field.LegibleLimits) :
    field.FiniteLimits := by
  cases field with
  | float name required rules =>
      have hall : rules.All fun x => ∃ y, x = .finite y ∧ (Json.Number.float y).ReadsBack := h
      exact hall.imp fun x hx => hx.imp fun y hy => hy.1
  | _ => trivial

lemma NoFloatLimits.finiteLimits {field : Field} (h : field.NoFloatLimits) :
    field.FiniteLimits :=
  h.legibleLimits.finiteLimits

end Field

/-- A finite limit that is read back is legible. -/
lemma legible_toJson {x : Binary64} (h : ∃ y, x = .finite y ∧ (Json.Number.float y).ReadsBack) :
    (Limit.toJson x : Json).Everywhere Legible := by
  obtain ⟨y, rfl, hback⟩ := h
  exact legible_number hback

/-- Fields are written one by one. -/
lemma fieldSpecs_eq_map (fields : List Field) : fieldSpecs fields = fields.map Field.toSpec := by
  induction fields with
  | nil => rfl
  | cons field fields ih => rw [fieldSpecs, ih, List.map_cons]

/-- A list of fields is legible if the specs of the fields are. -/
lemma legible_fieldSpecs {fields : List Field}
    (h : ∀ field ∈ fields, field.toSpec.Everywhere Legible) :
    (Json.array (fieldSpecs fields)).Everywhere Legible := by
  rw [fieldSpecs_eq_map]
  refine legible_array fun item hitem => ?_
  obtain ⟨field, hfield, rfl⟩ := List.mem_map.1 hitem
  exact h field hfield

/-- The mark of a strict schema is legible. -/
lemma Schema.legible_strict (strict : Bool) :
    LegibleUnder ["strict"] (if strict then [("strict", Json.bool true)] else []) := by
  split
  · exact .single (legible_bool true)
  · exact ⟨List.nil_sublist _, List.forall_mem_nil _⟩

/-- A schema is legible if the specs of its fields are. -/
lemma Schema.legible_of_fields {schema : Schema}
    (h : ∀ field ∈ schema.fields, field.toSpec.Everywhere Legible) :
    schema.toSpec.Everywhere Legible := by
  obtain ⟨fields, strict⟩ := schema
  exact ((legible_strict strict).append (.single (legible_fieldSpecs h))).object (by decide)

/-- **The spec of a field is legible** where it can be read at all and its binary numbers can. -/
theorem Field.legible_toSpec {P : Field → Prop} (hP : ∀ field, P field → LegibleLimits field)
    {field : Field} (h : field.Representable) (hlimits : field.Everywhere P) :
    field.toSpec.Everywhere Legible := by
  induction field using Field.ind with
  | integer name required rules =>
      have hrules := Rules.legible rules.all_true fun n _ => legible_limit n
      exact ((legible_commonMembers _).append hrules).object (by decide)
  | float name required rules =>
      have hlimits : (Field.float name required rules).LegibleLimits := hP _ hlimits
      have hrules := Rules.legible hlimits fun _ => legible_toJson
      exact ((legible_commonMembers _).append hrules).object (by decide)
  | string name required rules =>
      exact ((legible_commonMembers _).append (TextRules.legible h.2)).object (by decide)
  | boolean name required expected =>
      exact ((legible_commonMembers _).append
        (.optional fun _ _ => legible_bool _)).object (by decide)
  | list name required lengths item ih =>
      exact ((legible_commonMembers _).append ((Lengths.legible h.1.2).append
        (.single (ih h.2 hlimits.2)))).object (by decide)
  | tuple name required lengths items ih =>
      have hitems : ∀ item ∈ items, item.toSpec.Everywhere Legible := fun item hitem =>
        ih item hitem (everyField_iff.1 h.2 item hitem) (everyField_iff.1 hlimits.2 item hitem)
      exact ((legible_commonMembers _).append ((Lengths.legible h.1.2.1).append
        (.single (legible_fieldSpecs hitems)))).object (by decide)
  | object name required schema ih =>
      obtain ⟨fields, strict⟩ := schema
      have hfields : ∀ field ∈ fields, field.toSpec.Everywhere Legible := fun field hfield =>
        ih field hfield (everyField_iff.1 h.2 field hfield)
          (everyField_iff.1 hlimits.2 field hfield)
      have hschema : (Schema.toSpec ⟨fields, strict⟩).Everywhere Legible :=
        Schema.legible_of_fields hfields
      exact ((legible_commonMembers _).append (.single hschema)).object (by decide)
  | null name => exact ((legible_commonMembers _).append .nil).object (by decide)

/-- **The document of a schema is legible** where it can be read at all and its binary numbers can.
-/
theorem Schema.legible_toSpec {P : Field → Prop}
    (hP : ∀ field : Field, P field → field.LegibleLimits) {schema : Schema}
    (h : schema.Representable) (hlimits : schema.Everywhere P) :
    schema.toSpec.Everywhere Legible := by
  obtain ⟨fields, strict⟩ := schema
  exact legible_of_fields fun field hfield =>
    Field.legible_toSpec hP (everyField_iff.1 h field hfield)
      (everyField_iff.1 hlimits field hfield)

/-- **The text of a document is read as its schema**, if the document nests no deeper than a text
may. -/
theorem Schema.ofBytes_pretty {P : Field → Prop}
    (hP : ∀ field : Field, P field → field.LegibleLimits) {schema : Schema}
    (h : schema.Representable) (hlimits : schema.Everywhere P)
    (hdepth : schema.toSpec.depth ≤ depthLimit) :
    Schema.ofBytes (bytesOf (schema.toSpec.pretty ++ "\n")) = .ok schema := by
  have hends : EndsNumber (bytesOf "\n") := endsNumber_cons (by decide) []
  have hread := read_pretty (legible_toSpec hP h hlimits) hdepth hends rfl
  have hspec := (schema.restores_toSpec schema).2 ⟨h, rfl⟩
  rw [ofBytes, hread]
  exact ofJson_eq_ok_iff.2 hspec

end SchemaCheck
