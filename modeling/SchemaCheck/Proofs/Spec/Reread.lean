import Mathlib.Tactic.Common
import SchemaCheck.Proofs.Spec.Alike
import SchemaCheck.Proofs.Spec.Legible

/-!
# Schemas that are read again

What becomes of a schema that is written as a text and read from it.  Nothing is changed but the
limits that are binary numbers, each of which becomes the number that its text is read as.

* `Field.reread` and `Schema.reread`: the field or schema with its limits as they are read again.
* `Field.reread_toSpec`, by induction on the field: what is read of the text of its spec is the spec
  of the field that is read again.
* `Field.LimitsKept`: each limit is read from its text as a number that is equal to it.
  `Schema.readAsEqual_iff`, by the same induction: where this is so, and only there, the schema is
  read as an equal one.
* `Schema.exists_ofSpec_reread_iff`: so it is with a schema that was read from a document.
-/

namespace SchemaCheck

open Json

/-! ### Members that are read again -/

namespace Json

/-- Members that are put together are read back one part after the other. -/
lemma rereadMembers_append (members members' : Members) :
    rereadMembers (members ++ members') =
      (rereadMembers members).bind fun first => (rereadMembers members').map (first ++ ·) := by
  induction members with
  | nil =>
      rw [List.nil_append, rereadMembers]
      cases rereadMembers members' <;> rfl
  | cons member members ih =>
      rw [List.cons_append, rereadMembers, rereadMembers, ih]
      cases member.2.reread with
      | none => rfl
      | some value =>
          cases rereadMembers members with
          | none => rfl
          | some first => cases rereadMembers members' <;> rfl

/-- What is read of the text of `toJson x` is `toJson` of what `f` makes of `x`. -/
def RereadBy {α : Type} (toJson : α → Json) (f : α → Option α) : Prop :=
  ∀ x, (toJson x).reread = (f x).map toJson

namespace RereadBy

variable {α : Type} {toJson : α → Json} {f : α → Option α}

lemma optionalMember (h : RereadBy toJson f) (key : String) (value : Option α) :
    rereadMembers (optionalMember key value toJson) =
      (value.mapM f).map fun value => SchemaCheck.optionalMember key value toJson := by
  cases value with
  | none => rfl
  | some x =>
      change rereadMembers [(key, toJson x)] = ((f x).map some).map _
      rw [rereadMembers, h x]
      cases f x <;> rfl

/-- A list is read back item by item. -/
lemma array (h : RereadBy toJson f) :
    RereadBy (fun xs : List α => .array (xs.map toJson)) fun xs => xs.mapM f := by
  have hitems : ∀ xs : List α, rereadItems (xs.map toJson) = (xs.mapM f).map (·.map toJson) := by
    intro xs
    induction xs with
    | nil => rfl
    | cons x xs ih =>
        rw [List.map_cons, rereadItems, h x, ih, List.mapM_cons]
        cases f x with
        | none => rfl
        | some y => cases xs.mapM f <;> rfl
  intro xs
  dsimp only
  rw [reread, hitems]
  cases xs.mapM f <;> rfl

end RereadBy

end Json

/-! ### Limits -/

/-- The number that the text of a limit is read as, if it is read. -/
def Binary64.reread : Binary64 → Option Binary64
  | .finite x => (Number.float x).reread.map Number.toBinary64
  | x => some x

/-- A binary limit is read back as its text is. -/
lemma Binary64.rereadBy : RereadBy (Limit.toJson : Binary64 → Json) Binary64.reread := by
  intro x
  cases x with
  | finite x =>
      change (Number.float x).reread.map Json.number =
        ((Number.float x).reread.map Number.toBinary64).map Binary64.toJson
      cases hread : (Number.float x).reread with
      | none => rfl
      | some m =>
          obtain ⟨y, rfl⟩ := Number.exists_float_of_reread hread
          rfl
  | _ => rfl

/-- The range with its ends as they are read again. -/
def Range.reread (range : Range Binary64) : Option (Range Binary64) :=
  range.start.reread.bind fun start => range.stop.reread.map fun stop => ⟨start, stop⟩

/-- A range is read back with both of its ends. -/
lemma Range.rereadBy :
    RereadBy (fun range : Range Binary64 => .object
      [("start", Limit.toJson range.start), ("end", Limit.toJson range.stop)]) Range.reread := by
  intro range
  have hkeys : ([("start", Limit.toJson range.start), ("end", Limit.toJson range.stop)].map
      Prod.fst).Nodup := (by decide : ["start", "end"].Nodup)
  dsimp only
  rw [reread_object_of_nodup hkeys, rereadMembers, rereadMembers, rereadMembers,
    Binary64.rereadBy, Binary64.rereadBy, Range.reread]
  cases range.start.reread with
  | none => rfl
  | some start => cases range.stop.reread <;> rfl

/-- The ranges with their ends as they are read again. -/
def Range.rereadAll (ranges : List (Range Binary64)) : Option (List (Range Binary64)) :=
  ranges.mapM Range.reread

lemma Range.rereadBy_all :
    RereadBy (fun ranges : List (Range Binary64) => .array (ranges.map fun range => .object
      [("start", Limit.toJson range.start), ("end", Limit.toJson range.stop)])) rereadAll :=
  Range.rereadBy.array

/-- The rules with their limits as they are read again. -/
def Rules.reread (rules : Rules Binary64) : Option (Rules Binary64) :=
  (rules.min.mapM Binary64.reread).bind fun min =>
    (rules.max.mapM Binary64.reread).bind fun max =>
      (rules.ranges.mapM Range.rereadAll).map fun ranges => ⟨min, max, rules.sign, ranges⟩

/-- The rules for numbers are read back limit by limit. -/
lemma Rules.rereadMembers_members (rules : Rules Binary64) :
    rereadMembers rules.members = rules.reread.map Rules.members := by
  have hsign : RereadBy (fun sign : Sign => .bool (sign == .positive)) some := fun _ => rfl
  rw [members, rereadMembers_append, rereadMembers_append, rereadMembers_append,
    Binary64.rereadBy.optionalMember, Binary64.rereadBy.optionalMember, hsign.optionalMember,
    Range.rereadBy_all.optionalMember, reread]
  cases rules.min.mapM Binary64.reread with
  | none => rfl
  | some min =>
      cases rules.max.mapM Binary64.reread with
      | none => rfl
      | some max =>
          cases rules.ranges.mapM Range.rereadAll with
          | none => cases rules.sign <;> rfl
          | some ranges => cases rules.sign <;> rfl

/-! ### Fields -/

mutual

/-- The field with its limits as they are read again, if they are. -/
def Field.reread : Field → Option Field
  | .float name required rules => rules.reread.map (.float name required)
  | .list name required lengths item => item.reread.map (.list name required lengths)
  | .tuple name required lengths items =>
    (rereadFields items).map (.tuple name required lengths)
  | .object name required schema => schema.reread.map (.object name required)
  | field => some field

/-- The schema with the limits of its fields as they are read again, if they are. -/
def Schema.reread : Schema → Option Schema
  | ⟨fields, strict⟩ => (rereadFields fields).map (⟨·, strict⟩)

/-- The fields with their limits as they are read again, if they are. -/
def rereadFields : List Field → Option (List Field)
  | [] => some []
  | field :: fields => field.reread.bind fun field => (rereadFields fields).map (field :: ·)

end

/-- Fields are read back one by one. -/
lemma rereadItems_fieldSpecs {fields : List Field}
    (h : ∀ field ∈ fields, field.toSpec.reread = field.reread.map Field.toSpec) :
    rereadItems (fieldSpecs fields) = (rereadFields fields).map fieldSpecs := by
  induction fields with
  | nil => rfl
  | cons field fields ih =>
      obtain ⟨hfield, hfields⟩ := List.forall_mem_cons.1 h
      rw [fieldSpecs, rereadItems, rereadFields, hfield, ih hfields]
      cases field.reread with
      | none => rfl
      | some field => cases rereadFields fields <;> rfl

/-- The head of a spec is read as it is, and what is behind it has no key of the head. -/
lemma reread_spec {head members : Members} {keys keys' : List String}
    (hhead : LegibleUnder keys head) (hmembers : (members.map Prod.fst).Sublist keys')
    (hkeys : (keys ++ keys').Nodup) :
    (Json.object (head ++ members)).reread =
      (rereadMembers members).map fun members => .object (head ++ members) := by
  have hnodup : ((head ++ members).map Prod.fst).Nodup := by
    rw [List.map_append]
    exact hkeys.sublist (hhead.keys.append hmembers)
  have hread : rereadMembers head = some head :=
    rereadMembers_eq_some fun member hmember => reread_of_legible (hhead.values member hmember)
  rw [reread_object_of_nodup hnodup, rereadMembers_append, hread]
  cases rereadMembers members <;> rfl

lemma reread_spec_single {head : Members} {keys : List String} (hhead : LegibleUnder keys head)
    {key : String} (hkeys : (keys ++ [key]).Nodup) (value : Json) :
    (Json.object (head ++ [(key, value)])).reread =
      value.reread.map fun value => .object (head ++ [(key, value)]) := by
  have hmembers : (([(key, value)] : Members).map Prod.fst).Sublist [key] := List.Sublist.refl _
  rw [reread_spec hhead hmembers hkeys, rereadMembers]
  cases value.reread <;> rfl

lemma keys_optionalMember {α : Type} (key : String) (value : Option α) (toJson : α → Json) :
    ((optionalMember key value toJson).map Prod.fst).Sublist [key] := by
  cases value with
  | none => exact List.nil_sublist _
  | some x => exact List.Sublist.refl _

lemma Rules.keys_members (rules : Rules Binary64) :
    (rules.members.map Prod.fst).Sublist ["min", "max", "positive", "ranges"] := by
  rw [members, List.map_append, List.map_append, List.map_append]
  exact (((keys_optionalMember _ _ _).append (keys_optionalMember _ _ _)).append
    (keys_optionalMember _ _ _)).append (keys_optionalMember _ _ _)

lemma Schema.reread_toSpec_of_fields {schema : Schema}
    (h : ∀ field ∈ schema.fields, field.toSpec.reread = field.reread.map Field.toSpec) :
    schema.toSpec.reread = schema.reread.map Schema.toSpec := by
  obtain ⟨fields, strict⟩ := schema
  rw [toSpec, Schema.reread, reread_spec_single (legible_strict strict) (by decide), Json.reread,
    rereadItems_fieldSpecs h]
  cases rereadFields fields <;> rfl

lemma Field.reread_of_legible {field : Field} (h : field.toSpec.Everywhere Legible)
    (hfield : field.reread = some field) :
    field.toSpec.reread = field.reread.map Field.toSpec := by
  rw [hfield, Json.reread_of_legible h]
  rfl

/-- **What is read of the text of a spec** is the spec of the field with its limits as they are read
again. -/
theorem Field.reread_toSpec {field : Field} (h : field.Everywhere WritableBut) :
    field.toSpec.reread = field.reread.map Field.toSpec := by
  induction field using Field.ind with
  | integer name required rules =>
      have hself : (Field.integer name required rules).Representable := h trivial
      exact reread_of_legible (legible_toSpec (fun _ => id) hself trivial) rfl
  | string name required rules =>
      have hself : (Field.string name required rules).Representable := h trivial
      exact reread_of_legible (legible_toSpec (fun _ => id) hself trivial) rfl
  | boolean name required expected =>
      have hself : (Field.boolean name required expected).Representable := h trivial
      exact reread_of_legible (legible_toSpec (fun _ => id) hself trivial) rfl
  | null name =>
      have hself : (Field.null name).Representable := h trivial
      exact reread_of_legible (legible_toSpec (fun _ => id) hself trivial) rfl
  | float name required rules =>
      rw [toSpec, reread, reread_spec (legible_commonMembers _) rules.keys_members (by decide),
        rules.rereadMembers_members]
      cases rules.reread <;> rfl
  | list name required lengths item ih =>
      have hhead := (legible_commonMembers (.list name required lengths item)).append
        (Lengths.legible (h.1 trivial).2)
      rw [toSpec, reread, ← List.append_assoc, reread_spec_single hhead (by decide), ih h.2]
      cases item.reread with
      | none => rfl
      | some item =>
          change _ = some (Field.list name required lengths item).toSpec
          rw [toSpec, ← List.append_assoc]
          rfl
  | tuple name required lengths items ih =>
      have hhead := (legible_commonMembers (.tuple name required lengths items)).append
        (Lengths.legible (h.1 trivial).2.1)
      have hitems := rereadItems_fieldSpecs fun item hitem =>
        ih item hitem (everyField_iff.1 h.2 item hitem)
      rw [toSpec, reread, ← List.append_assoc, reread_spec_single hhead (by decide), Json.reread,
        hitems]
      cases rereadFields items with
      | none => rfl
      | some items =>
          change _ = some (Field.tuple name required lengths items).toSpec
          rw [toSpec, ← List.append_assoc]
          rfl
  | object name required schema ih =>
      have hschema : schema.toSpec.reread = schema.reread.map Schema.toSpec := by
        obtain ⟨fields, strict⟩ := schema
        exact Schema.reread_toSpec_of_fields fun field hfield =>
          ih field hfield (everyField_iff.1 h.2 field hfield)
      rw [toSpec, reread, reread_spec_single (legible_commonMembers _) (by decide), hschema]
      cases schema.reread with
      | none => rfl
      | some schema =>
          change _ = some (Field.object name required schema).toSpec
          rw [toSpec]
          rfl

/-- **What is read of the text of a document** is the document of the schema with its limits as they
are read again. -/
theorem Schema.reread_toSpec {schema : Schema} (h : schema.Everywhere Field.WritableBut) :
    schema.toSpec.reread = schema.reread.map Schema.toSpec := by
  obtain ⟨fields, strict⟩ := schema
  exact reread_toSpec_of_fields fun field hfield =>
    field.reread_toSpec (everyField_iff.1 h field hfield)

/-! ### Limits that are kept -/

section Parts

variable {α β : Type} {f : α → Option β} {Q R : α → β → Prop} {P : β → Prop}

/-- An optional value has a related result exactly if it has one where it is given. -/
lemma exists_optionMapM_iff {x : Option α} :
    (∃ y, x.mapM f = some y ∧ Option.Rel Q x y) ↔
      ∀ a, x = some a → ∃ b, f a = some b ∧ Q a b := by
  cases x with
  | none => exact iff_of_true ⟨none, rfl, .none⟩ (by simp)
  | some a =>
      constructor
      · rintro ⟨y, hread, hrel⟩ a' ha
        obtain rfl := Option.some.inj ha
        obtain ⟨b, hb, rfl⟩ := Option.map_eq_some_iff.1 hread
        cases hrel with
        | some hab => exact ⟨b, hb, hab⟩
      · intro h
        obtain ⟨b, hb, hab⟩ := h a rfl
        exact ⟨some b, Option.map_eq_some_iff.2 ⟨b, hb, rfl⟩, .some hab⟩

/-- A list has related results exactly if each item has one. -/
lemma exists_listMapM_iff {xs : List α} :
    (∃ ys, xs.mapM f = some ys ∧ List.Forall₂ Q xs ys) ↔
      ∀ a ∈ xs, ∃ b, f a = some b ∧ Q a b := by
  induction xs with
  | nil => exact iff_of_true ⟨[], rfl, .nil⟩ (List.forall_mem_nil _)
  | cons a xs ih =>
      rw [List.forall_mem_cons, ← ih]
      simp only [List.mapM_cons, Option.bind_eq_bind, Option.bind_eq_some_iff, Option.pure_def,
        Option.some.injEq]
      constructor
      · rintro ⟨_, ⟨b, hb, ys, hys, rfl⟩, hrel⟩
        obtain ⟨hab, hrel⟩ := List.forall₂_cons.1 hrel
        exact ⟨⟨b, hb, hab⟩, ys, hys, hrel⟩
      · rintro ⟨⟨b, hb, hab⟩, ys, hys, hrel⟩
        exact ⟨b :: ys, ⟨b, hb, ys, hys, rfl⟩, .cons hab hrel⟩

lemma rel_right_and {x : Option α} {y : Option β} :
    Option.Rel (fun a b => P b ∧ R a b) x y ↔ (∀ b, y = some b → P b) ∧ Option.Rel R x y := by
  cases x <;> cases y <;> simp

/-- A condition on the results may be stated apart, for lists. -/
lemma forall₂_right_and {xs : List α} {ys : List β} :
    List.Forall₂ (fun a b => P b ∧ R a b) xs ys ↔ (∀ b ∈ ys, P b) ∧ List.Forall₂ R xs ys := by
  induction xs generalizing ys with
  | nil => cases ys <;> simp
  | cons a xs ih =>
      cases ys with
      | nil => simp
      | cons b ys =>
          rw [List.forall₂_cons, List.forall₂_cons, List.forall_mem_cons, ih]
          exact and_and_and_comm

end Parts

/-- The text of the limit is read as a finite number that is equal to it. -/
def Binary64.Kept (x : Binary64) : Prop :=
  ∃ y, x.reread = some y ∧ y.IsFinite ∧ Limit.same x y = true

instance : DecidablePred Binary64.Kept := fun x =>
  inferInstanceAs (Decidable (∃ y ∈ x.reread, y.IsFinite ∧ Limit.same x y = true))

/-- Only finite numbers are kept. -/
lemma Binary64.Kept.isFinite {x : Binary64} (h : x.Kept) : x.IsFinite := by
  obtain ⟨y, hread, hy, -⟩ := h
  cases x with
  | finite x => exact ⟨x, rfl⟩
  | infinite negative =>
      obtain rfl := Option.some.inj hread
      exact hy
  | nan =>
      obtain rfl := Option.some.inj hread
      exact hy

/-- A number that is read back is kept. -/
lemma Binary64.kept_finite {x : Binary64.Finite} (h : (Json.Number.float x).ReadsBack) :
    (Binary64.finite x).Kept := by
  have hread : (Binary64.finite x).reread = some (.finite x) := by
    rw [Binary64.reread, h]
    rfl
  exact ⟨.finite x, hread, ⟨x, rfl⟩, same_self ⟨x, rfl⟩⟩

/-- The text `4.0398571096509664e+260` is read as the number next to the one it is written for. -/
example : ¬(Binary64.finite
    ⟨false, 7395704145431112, 1887, by decide, by decide, by decide⟩).Kept := by decide +kernel

/-- A range is read back as an equal one exactly if both of its ends are kept. -/
lemma Range.exists_reread_iff {range : Range Binary64} :
    (∃ range', range.reread = some range' ∧
      (range'.start.IsFinite ∧ range'.stop.IsFinite) ∧ range.Same range') ↔
      range.start.Kept ∧ range.stop.Kept := by
  simp only [Range.reread, Option.bind_eq_some_iff, Option.map_eq_some_iff]
  constructor
  · rintro ⟨_, ⟨start, hstart, stop, hstop, rfl⟩, ⟨hfinite, hfinite'⟩, hsame, hsame'⟩
    exact ⟨⟨start, hstart, hfinite, hsame⟩, ⟨stop, hstop, hfinite', hsame'⟩⟩
  · rintro ⟨⟨start, hstart, hfinite, hsame⟩, ⟨stop, hstop, hfinite', hsame'⟩⟩
    exact ⟨⟨start, stop⟩, ⟨start, hstart, stop, hstop, rfl⟩, ⟨hfinite, hfinite'⟩, hsame, hsame'⟩

/-- Lists of ranges whose ends are kept are read as lists of equal ranges. -/
lemma Range.exists_listReread_iff {ranges : Option (List (Range Binary64))} :
    (∃ ranges', ranges.mapM Range.rereadAll = some ranges' ∧
      (∀ list, ranges' = some list → ∀ range ∈ list,
        range.start.IsFinite ∧ range.stop.IsFinite) ∧
      Option.Rel (List.Forall₂ Range.Same) ranges ranges') ↔
      ∀ list, ranges = some list → ∀ range ∈ list, range.start.Kept ∧ range.stop.Kept := by
  simp only [← rel_right_and, ← forall₂_right_and]
  rw [exists_optionMapM_iff]
  simp only [rereadAll, exists_listMapM_iff, exists_reread_iff]

/-- Limits that are kept are read as equal ones. -/
lemma Rules.exists_reread_iff {rules : Rules Binary64} :
    (∃ rules', rules.reread = some rules' ∧ rules'.All Binary64.IsFinite ∧
      rules.same rules' = true) ↔ rules.All Binary64.Kept := by
  constructor
  · rintro ⟨rules', hread, hfinite, hsame⟩
    obtain ⟨min, hmin, hread⟩ := Option.bind_eq_some_iff.1 hread
    obtain ⟨max, hmax, hread⟩ := Option.bind_eq_some_iff.1 hread
    obtain ⟨ranges, hranges, rfl⟩ := Option.map_eq_some_iff.1 hread
    obtain ⟨hsameMin, hsameMax, -, hsameRanges⟩ := same_iff_rel.1 hsame
    exact ⟨exists_optionMapM_iff.1 ⟨min, hmin, rel_right_and.2 ⟨hfinite.min, hsameMin⟩⟩,
      exists_optionMapM_iff.1 ⟨max, hmax, rel_right_and.2 ⟨hfinite.max, hsameMax⟩⟩,
      Range.exists_listReread_iff.1 ⟨ranges, hranges, hfinite.ranges, hsameRanges⟩⟩
  · rintro ⟨hmin, hmax, hranges⟩
    obtain ⟨min, hreadMin, hrelMin⟩ := exists_optionMapM_iff.2 hmin
    obtain ⟨max, hreadMax, hrelMax⟩ := exists_optionMapM_iff.2 hmax
    obtain ⟨ranges, hreadRanges, hfinite, hsameRanges⟩ := Range.exists_listReread_iff.2 hranges
    obtain ⟨hfiniteMin, hsameMin⟩ := rel_right_and.1 hrelMin
    obtain ⟨hfiniteMax, hsameMax⟩ := rel_right_and.1 hrelMax
    refine ⟨⟨min, max, rules.sign, ranges⟩, ?_, ⟨hfiniteMin, hfiniteMax, hfinite⟩,
      same_iff_rel.2 ⟨hsameMin, hsameMax, rfl, hsameRanges⟩⟩
    rw [reread, hreadMin, hreadMax, hreadRanges]
    rfl

/-- **The limits of the field are kept**: each binary number among them is read from its text as one
that is equal to it. -/
def Field.LimitsKept : Field → Prop
  | .float _ _ rules => rules.All Binary64.Kept
  | _ => True

lemma sameFields_iff_forall₂ {fields fields' : List Field} :
    sameFields fields fields' = true ↔
      List.Forall₂ (fun field field' => field.same field' = true) fields fields' := by
  induction fields generalizing fields' with
  | nil => cases fields' <;> simp [sameFields]
  | cons field fields ih => cases fields' <;> simp [sameFields, ih]

lemma rereadFields_eq_mapM (fields : List Field) :
    rereadFields fields = fields.mapM Field.reread := by
  induction fields with
  | nil => rfl
  | cons field fields ih =>
      rw [rereadFields, ih, List.mapM_cons]
      cases field.reread with
      | none => rfl
      | some field => cases fields.mapM Field.reread <;> rfl

/-- The field is read as one that can be written and is equal to it. -/
def Field.ReadAsEqual (field : Field) : Prop :=
  ∃ field', field.reread = some field' ∧ field'.Representable ∧ field.same field' = true

/-- The schema is read as one that can be written and is equal to it. -/
def Schema.ReadAsEqual (schema : Schema) : Prop :=
  ∃ schema', schema.reread = some schema' ∧ schema'.Representable ∧ schema.same schema' = true

lemma exists_rereadFields_iff {fields : List Field} :
    (∃ fields', rereadFields fields = some fields' ∧ (∀ field ∈ fields', field.Representable) ∧
      sameFields fields fields' = true) ↔ ∀ field ∈ fields, field.ReadAsEqual := by
  simp only [sameFields_iff_forall₂, ← forall₂_right_and, rereadFields_eq_mapM]
  exact exists_listMapM_iff

/-- A schema is read back as an equal one exactly if the limits of its fields are kept. -/
lemma Schema.readAsEqual_iff_of_fields {schema : Schema}
    (h : ∀ field ∈ schema.fields, field.ReadAsEqual ↔ field.Everywhere Field.LimitsKept) :
    schema.ReadAsEqual ↔ schema.Everywhere Field.LimitsKept := by
  obtain ⟨fields, strict⟩ := schema
  have hfields := exists_rereadFields_iff.trans (forall₂_congr h)
  constructor
  · rintro ⟨_, hread, hrep, hsame⟩
    obtain ⟨fields', hreadFields, rfl⟩ := Option.map_eq_some_iff.1 hread
    simp only [same, Bool.and_eq_true] at hsame
    exact everyField_iff.2 (hfields.1 ⟨fields', hreadFields, everyField_iff.1 hrep, hsame.2⟩)
  · intro hkept
    obtain ⟨fields', hreadFields, hrep, hsame⟩ := hfields.2 (everyField_iff.1 hkept)
    exact ⟨⟨fields', strict⟩, Option.map_eq_some_iff.2 ⟨fields', hreadFields, rfl⟩,
      everyField_iff.2 hrep, by simp [same, hsame]⟩

namespace Field

lemma readAsEqual_self {field : Field} (hread : field.reread = some field)
    (hrep : field.Representable) : field.ReadAsEqual :=
  ⟨field, hread, hrep, same_self hrep⟩

lemma LimitsKept.finiteLimits {field : Field} (h : field.LimitsKept) : field.FiniteLimits := by
  cases field with
  | float name required rules =>
      have hall : rules.All Binary64.Kept := h
      exact hall.imp fun x => Binary64.Kept.isFinite
  | _ => trivial

/-- **A field is read as an equal one** exactly where all its limits are kept. -/
theorem readAsEqual_iff {field : Field} (h : field.Everywhere WritableBut) :
    field.ReadAsEqual ↔ field.Everywhere LimitsKept := by
  induction field using Field.ind with
  | integer name required rules =>
      exact iff_of_true (readAsEqual_self rfl (h trivial)) trivial
  | string name required rules =>
      exact iff_of_true (readAsEqual_self rfl (h trivial)) trivial
  | boolean name required expected =>
      exact iff_of_true (readAsEqual_self rfl (h trivial)) trivial
  | null name => exact iff_of_true (readAsEqual_self rfl (h trivial)) trivial
  | float name required rules =>
      constructor
      · rintro ⟨_, hread, hrep, hsame⟩
        obtain ⟨rules', hrules, rfl⟩ := Option.map_eq_some_iff.1 hread
        simp only [same, Bool.and_eq_true] at hsame
        exact Rules.exists_reread_iff.1 ⟨rules', hrules, hrep.2, hsame.2⟩
      · intro hkept
        obtain ⟨rules', hrules, hfinite, hsame⟩ := Rules.exists_reread_iff.2 hkept
        have hself : (Field.float name required rules).Writable := h hkept.finiteLimits
        exact ⟨.float name required rules', Option.map_eq_some_iff.2 ⟨rules', hrules, rfl⟩,
          ⟨hself.1, hfinite⟩, by simp [same, hsame]⟩
  | list name required lengths item ih =>
      constructor
      · rintro ⟨_, hread, hrep, hsame⟩
        obtain ⟨item', hitem, rfl⟩ := Option.map_eq_some_iff.1 hread
        simp only [same, Bool.and_eq_true] at hsame
        exact ⟨trivial, (ih h.2).1 ⟨item', hitem, hrep.2, hsame.2⟩⟩
      · rintro ⟨-, hkept⟩
        obtain ⟨item', hitem, hrep, hsame⟩ := (ih h.2).2 hkept
        have hself : (Field.list name required lengths item).Writable := h.1 trivial
        exact ⟨.list name required lengths item', Option.map_eq_some_iff.2 ⟨item', hitem, rfl⟩,
          ⟨hself, hrep⟩, by simp [same, hsame]⟩
  | tuple name required lengths items ih =>
      have hitems := exists_rereadFields_iff.trans (forall₂_congr fun item hitem =>
        ih item hitem (everyField_iff.1 h.2 item hitem))
      constructor
      · rintro ⟨_, hread, hrep, hsame⟩
        obtain ⟨items', hreadItems, rfl⟩ := Option.map_eq_some_iff.1 hread
        simp only [same, Bool.and_eq_true] at hsame
        exact ⟨trivial, everyField_iff.2
          (hitems.1 ⟨items', hreadItems, everyField_iff.1 hrep.2, hsame.2⟩)⟩
      · rintro ⟨-, hkept⟩
        obtain ⟨items', hreadItems, hrep, hsame⟩ := hitems.2 (everyField_iff.1 hkept)
        have hself : (Field.tuple name required lengths items).Writable := h.1 trivial
        obtain ⟨hname, hfit, hne⟩ := hself
        have hne' : items' ≠ [] := by
          rintro rfl
          exact hne (List.forall₂_nil_right_iff.1 (sameFields_iff_forall₂.1 hsame))
        exact ⟨.tuple name required lengths items',
          Option.map_eq_some_iff.2 ⟨items', hreadItems, rfl⟩,
          ⟨⟨hname, hfit, hne'⟩, everyField_iff.2 hrep⟩, by simp [same, hsame]⟩
  | object name required schema ih =>
      have hschema : schema.ReadAsEqual ↔ schema.Everywhere LimitsKept := by
        obtain ⟨fields, strict⟩ := schema
        exact Schema.readAsEqual_iff_of_fields fun field hfield =>
          ih field hfield (everyField_iff.1 h.2 field hfield)
      constructor
      · rintro ⟨_, hread, hrep, hsame⟩
        obtain ⟨schema', hreadSchema, rfl⟩ := Option.map_eq_some_iff.1 hread
        simp only [same, Bool.and_eq_true] at hsame
        exact ⟨trivial, hschema.1 ⟨schema', hreadSchema, hrep.2, hsame.2⟩⟩
      · rintro ⟨-, hkept⟩
        obtain ⟨schema', hreadSchema, hrep, hsame⟩ := hschema.2 hkept
        have hself : (Field.object name required schema).Writable := h.1 trivial
        exact ⟨.object name required schema',
          Option.map_eq_some_iff.2 ⟨schema', hreadSchema, rfl⟩, ⟨hself, hrep⟩,
          by simp [same, hsame]⟩

end Field

/-- **A schema is read as an equal one** exactly where the limits of its fields are kept. -/
theorem Schema.readAsEqual_iff {schema : Schema} (h : schema.Everywhere Field.WritableBut) :
    schema.ReadAsEqual ↔ schema.Everywhere Field.LimitsKept := by
  obtain ⟨fields, strict⟩ := schema
  exact readAsEqual_iff_of_fields fun field hfield =>
    field.readAsEqual_iff (everyField_iff.1 h field hfield)

/-- **Reading a document again.**  A schema that was read is read from the text of its document as
an equal one exactly where the limits of its fields are kept. -/
theorem Schema.exists_ofSpec_reread_iff {document : Json} {schema : Schema}
    (h : Schema.ofSpec document = .ok schema) :
    (∃ document' schema', schema.toSpec.reread = some document' ∧
      Schema.ofSpec document' = .ok schema' ∧ schema.same schema' = true) ↔
      schema.Everywhere Field.LimitsKept := by
  have hwritable := writableBut_of_ofSpec h
  rw [← readAsEqual_iff hwritable, reread_toSpec hwritable]
  constructor
  · rintro ⟨_, back, hread, hback, hsame⟩
    obtain ⟨schema', hschema, rfl⟩ := Option.map_eq_some_iff.1 hread
    obtain ⟨hrep, rfl⟩ := (schema'.restores_toSpec back).1 hback
    exact ⟨_, hschema, hrep, hsame⟩
  · rintro ⟨schema', hschema, hrep, hsame⟩
    exact ⟨schema'.toSpec, schema', Option.map_eq_some_iff.2 ⟨schema', hschema, rfl⟩,
      (schema'.restores_toSpec schema').2 ⟨hrep, rfl⟩, hsame⟩

end SchemaCheck
