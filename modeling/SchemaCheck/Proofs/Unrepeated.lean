import Mathlib.Data.List.Sigma
import Mathlib.Tactic.Common
import SchemaCheck.Proofs.Json.KeysApart
import SchemaCheck.Proofs.Reordering
import SchemaCheck.Proofs.Visits

/-!
# Reports without repetition

Every problem is reported once.

* `Field.sortsApart_checks`: the rules that a field asks of one value are of different sorts.
* `Violation.Distinct`: no two violations have both the same path and the same sort of reason.
  What is found behind different steps is put together by `distinct_flatMap_below`, and with what is
  wrong with the value itself by `distinct_here_append`.
* `Schema.NamesApart`: no two fields of a schema have the same name, at any level.
* `Field.distinct_validate`, by induction on the field, and `Schema.nodup_validate`: no problem is
  reported twice.
-/

namespace SchemaCheck

/-! ### Rules of different sorts -/

namespace Check

lemma report_cons (check : Check) (checks : List Check) :
    report (check :: checks) =
      if check.Broken then check.reason :: report checks else report checks := by
  rw [← List.singleton_append, report_append, report_singleton]
  split <;> rfl

lemma report_sublist (checks : List Check) : (report checks).Sublist (checks.map reason) :=
  List.filter_sublist.map reason

/-- The sorts of the rules differ from each other. -/
def SortsApart (checks : List Check) : Prop := (checks.map fun check => check.reason.tag).Nodup

lemma sortsApart_nil : SortsApart [] := List.nodup_nil

lemma sortsApart_singleton (check : Check) : SortsApart [check] := List.nodup_singleton _

end Check

open Check (SortsApart sortsApart_nil sortsApart_singleton)

/-- The rules for numbers are of different sorts. -/
lemma Rules.sortsApart_checks {α β : Type} [Limit α] [LT β] [LE β] [DecidableLT β]
    [DecidableLE β] (value : α → β) (rules : Rules α) (x : β) :
    SortsApart (rules.checks value x) := by
  obtain ⟨min, max, sign, ranges⟩ := rules
  rcases sign with _ | _ | _ <;> cases min <;> cases max <;> cases ranges <;>
    simp [SortsApart, checks, Reason.tag]

lemma TextRules.sortsApart_checks (rules : TextRules) (text : String) :
    SortsApart (rules.checks text) := by
  obtain ⟨min, max, format, choices⟩ := rules
  cases choices <;> cases min <;> cases max <;> cases format <;>
    simp [SortsApart, checks, Reason.tag]

lemma Lengths.sortsApart_checks (lengths : Lengths) (count : Nat) :
    SortsApart (lengths.checks count) := by
  obtain ⟨min, max⟩ := lengths
  cases min <;> cases max <;> simp [SortsApart, checks, Reason.tag]

lemma Lengths.sortsApart_checks_tuple (lengths : Lengths) (expected found : Nat) :
    SortsApart (lengths.checks found ++
      [⟨.fixedLengthMismatch expected found, expected ≠ found⟩]) := by
  obtain ⟨min, max⟩ := lengths
  cases min <;> cases max <;> simp [SortsApart, checks, Reason.tag]

/-- **The rules that a field asks of one value are of different sorts.** -/
theorem Field.sortsApart_checks (field : Field) (value : Json) :
    SortsApart (field.checks value) := by
  induction field, value using checks_cases with
  | integer name required rules n k hwhole => exact rules.sortsApart_checks _ k
  | float name required rules n => exact rules.sortsApart_checks _ n.toBinary64
  | string name required rules text => exact rules.sortsApart_checks text
  | boolean name required expected b =>
      cases expected with
      | none => exact sortsApart_nil
      | some expected => exact sortsApart_singleton _
  | list name required lengths item items => exact lengths.sortsApart_checks items.length
  | tuple name required lengths fields items => exact lengths.sortsApart_checks_tuple _ _
  | object => exact sortsApart_nil
  | _ => exact sortsApart_singleton _

/-! ### Violations that differ -/

namespace Violation

/-- What a problem is told by: its path and the sort of its reason. -/
def mark (violation : Violation) : Path × String := (violation.path, violation.reason.tag)

/-- **Distinct violations**: no two have both the same path and the same sort of reason. -/
def Distinct (violations : List Violation) : Prop := (violations.map mark).Nodup

variable {violations : List Violation}

/-- Different violations stay different below a step. -/
lemma Distinct.below (h : Distinct violations) (segment : Segment) :
    Distinct (below segment violations) := by
  have hmark : mark ∘ under segment = (fun m => (segment :: m.1, m.2)) ∘ mark := rfl
  rw [Distinct, SchemaCheck.below, List.map_map, hmark, ← List.map_map]
  refine List.Nodup.map (fun m m' heq => ?_) h
  simpa [Prod.ext_iff] using heq

/-- What is found below a step has a path that begins with it. -/
lemma exists_path_of_mem_below {segment : Segment} {mark' : Path × String}
    (h : mark' ∈ (SchemaCheck.below segment violations).map mark) :
    ∃ path, mark'.1 = segment :: path := by
  simp only [SchemaCheck.below, List.map_map, List.mem_map] at h
  obtain ⟨violation, -, rfl⟩ := h
  exact ⟨violation.path, rfl⟩

/-- What is found behind different steps differs. -/
lemma distinct_flatMap_below {α : Type} {segment : α → Segment} {found : α → List Violation}
    {xs : List α} (hsegments : (xs.map segment).Nodup) (h : ∀ x ∈ xs, Distinct (found x)) :
    Distinct (xs.flatMap fun x => SchemaCheck.below (segment x) (found x)) := by
  rw [Distinct, List.map_flatMap, List.nodup_flatMap]
  refine ⟨fun x hx => (h x hx).below _, (List.pairwise_map.1 hsegments).imp fun hne => ?_⟩
  refine List.disjoint_left.2 fun m hm hm' => ?_
  obtain ⟨path, hpath⟩ := exists_path_of_mem_below hm
  obtain ⟨path', hpath'⟩ := exists_path_of_mem_below hm'
  exact hne (List.cons.inj (hpath.symm.trans hpath')).1

/-- What is wrong with a value itself differs from what is found below it. -/
lemma distinct_here_append {reasons : List Reason} (hreasons : (reasons.map Reason.tag).Nodup)
    (h : Distinct violations) (hbelow : ∀ violation ∈ violations, violation.path ≠ [])
    (name : String) : Distinct (reasons.map (here name) ++ violations) := by
  have hmark : mark ∘ here name = Prod.mk [] ∘ Reason.tag := rfl
  rw [Distinct, List.map_append, List.map_map, hmark, ← List.map_map]
  refine (hreasons.map fun _ _ heq => (Prod.mk.inj heq).2).append h
    (List.disjoint_left.2 fun m hm hm' => ?_)
  obtain ⟨tag, -, rfl⟩ := List.mem_map.1 hm
  obtain ⟨violation, hviolation, heq⟩ := List.mem_map.1 hm'
  exact hbelow violation hviolation (congrArg Prod.fst heq)

end Violation

open Violation (Distinct)

/-! ### Schemas whose fields have names of their own -/

/-- The names of the fields that an object field looks for differ from each other. -/
def Field.OwnNamesApart : Field → Prop
  | .object _ _ schema => (schema.fields.map Field.name).Nodup
  | _ => True

/-- **Names apart**: at every level of the schema, no two fields have the same name. -/
def Schema.NamesApart (schema : Schema) : Prop :=
  (schema.fields.map Field.name).Nodup ∧ schema.Everywhere Field.OwnNamesApart

lemma Field.nodup_tags_reasons (field : Field) (value : Json) :
    ((field.reasons value).map Reason.tag).Nodup := by
  rw [← field.report_checks value]
  refine ((Check.report_sublist _).map Reason.tag).nodup ?_
  rw [List.map_map]
  exact field.sortsApart_checks value

/-- Keys are apart in a member if they are in its object. -/
lemma Json.keysApart_valueAt {document : Json} (h : document.KeysApart) (key : String) :
    (document.valueAt key).KeysApart := by
  cases document with
  | object members =>
      rw [valueAt, member?]
      cases hlookup : members.lookup key with
      | none => trivial
      | some value => exact (keysApart_object.1 h).2 _ (mem_of_lookup hlookup)
  | _ => trivial

/-- No key is stray twice. -/
lemma Schema.nodup_strayKeys (schema : Schema) {document : Json} (h : document.KeysApart) :
    (schema.strayKeys document).Nodup := by
  cases document with
  | object members =>
      rw [strayKeys]
      split
      · exact (Json.keysApart_object.1 h).1.filter _
      · exact List.nodup_nil
  | _ => exact List.nodup_nil

/-- What a schema finds is different, if what each field finds is and their names are. -/
lemma Schema.distinct_validate_of_fields {schema : Schema}
    (hnames : (schema.fields.map Field.name).Nodup)
    (h : ∀ field ∈ schema.fields, ∀ value : Json, value.KeysApart →
      Distinct (field.validate value)) {document : Json} (hdocument : document.KeysApart) :
    Distinct (schema.validate document) := by
  rw [validate_eq]
  split
  · refine Violation.distinct_flatMap_below ?_ fun field hfield =>
      h field hfield _ (Json.keysApart_valueAt hdocument _)
    have hsegments : (fun field : Field => Segment.key field.name) = Segment.key ∘ Field.name := rfl
    rw [hsegments, ← List.map_map]
    exact hnames.map fun _ _ heq => Segment.key.inj heq
  · rw [Distinct, List.map_map]
    refine (schema.nodup_strayKeys hdocument).map fun key key' heq => ?_
    simpa [Violation.mark, Violation.stray] using heq

/-- What is wrong with a value itself is reported once. -/
lemma Field.distinct_here (field : Field) (value : Json) :
    Distinct ((field.reasons value).map (Violation.here field.name)) := by
  have hnone : Distinct [] := List.nodup_nil
  have happend := Violation.distinct_here_append (field.nodup_tags_reasons value) hnone (by simp)
    field.name
  rwa [List.append_nil] at happend

/-- What is found in the items of an array is different, since their indexes are. -/
lemma Field.distinct_validate_array (field : Field) {items : List Json}
    (h : ∀ item i, field.itemField? items.length i = some item → ∀ x ∈ items,
      Distinct (item.validate x)) :
    Distinct (field.validate (.array items)) := by
  rw [validate_array]
  refine Violation.distinct_here_append (field.nodup_tags_reasons _)
    (Violation.distinct_flatMap_below ?_ fun x hx => ?_) (fun violation hviolation => ?_) _
  · have hsegments : (fun x : Json × Nat => Segment.index x.2) = Segment.index ∘ Prod.snd := rfl
    rw [hsegments, ← List.map_map]
    exact (List.nodup_zipIdx_map_snd items).map fun _ _ heq => Segment.index.inj heq
  · rw [validateItem]
    cases hitem : field.itemField? items.length x.2 with
    | none => exact List.nodup_nil
    | some item => exact h item x.2 hitem x.1 (List.fst_mem_of_mem_zipIdx hx)
  · obtain ⟨x, -, hx⟩ := List.mem_flatMap.1 hviolation
    obtain ⟨violation, -, rfl⟩ := List.mem_map.1 hx
    exact List.cons_ne_nil _ _

/-- **A field reports every problem once**, by induction on the field. -/
theorem Field.distinct_validate (field : Field) (h : field.Everywhere OwnNamesApart) {value : Json}
    (hvalue : value.KeysApart) : Distinct (field.validate value) := by
  induction field using Field.ind generalizing value with
  | list name required lengths item ih =>
      cases value with
      | array items =>
          refine distinct_validate_array _ fun item' i hitem x hx => ?_
          obtain rfl : item = item' := Option.some.inj hitem
          exact ih h.2 (Json.keysApart_array.1 hvalue x hx)
      | _ =>
          rw [validate_of_not_array rfl (by simp)]
          exact distinct_here _ _
  | tuple name required lengths items ih =>
      cases value with
      | array values =>
          refine distinct_validate_array _ fun item i hitem x hx => ?_
          obtain ⟨-, hget⟩ := Option.ite_none_right_eq_some.1 hitem
          exact ih item (List.mem_of_getElem? hget) (h.item hitem)
            (Json.keysApart_array.1 hvalue x hx)
      | _ =>
          rw [validate_of_not_array rfl (by simp)]
          exact distinct_here _ _
  | object name required schema ih =>
      by_cases hnull : value = .null
      · rw [hnull, validate_null]
        split
        · exact List.nodup_singleton _
        · exact List.nodup_nil
      · rw [validate_object hnull]
        split
        · next document hembed =>
            obtain ⟨members, rfl, hholds⟩ := embedded_eq_ok_iff.1 hembed
            refine Schema.distinct_validate_of_fields h.1
              (fun field hfield value => ih field hfield (h.field hfield)) ?_
            rcases hholds with rfl | ⟨text, -, htext⟩
            · exact hvalue
            · exact Json.keysApart_of_readText htext
        · exact List.nodup_singleton _
  | _ =>
      simp only [validate, List.append_nil]
      exact distinct_here _ _

/-- **Every problem is reported once.**  Where no two fields of a schema have the same name, at any
level, no two violations of a document have both the same path and the same sort of reason. -/
theorem Schema.nodup_validate {schema : Schema} (h : schema.NamesApart) {document : Json}
    (hdocument : document.KeysApart) :
    ((schema.validate document).map fun violation =>
      (violation.path, violation.reason.tag)).Nodup := by
  obtain ⟨fields, strict⟩ := schema
  exact distinct_validate_of_fields h.1
    (fun field hfield value => field.distinct_validate (everyField_iff.1 h.2 field hfield))
    hdocument

/-- Two fields of one name at different levels, and problems of one sort at different places. -/
theorem Schema.nodup_validate_levels :
    let tags : Field := .list "tags" true { max := some 1 } (.string "tag" true {})
    let home : Field := .object "home" true ⟨[.integer "tags" true {}], true⟩
    let schema : Schema := ⟨[tags, home], false⟩
    let document : Json := .object
      [("tags", .array [.null, .null]), ("home", .object [("zip", .null), ("street", .null)])]
    schema.NamesApart ∧ document.KeysApart ∧
      (schema.validate document).map (fun violation => (violation.path, violation.reason.tag)) =
        [([.key "tags"], "too_many_items"), ([.key "tags", .index 0], "required"),
          ([.key "tags", .index 1], "required"), ([.key "home", .key "zip"], "unknown_field"),
          ([.key "home", .key "street"], "unknown_field")] ∧
      ((schema.validate document).map fun violation =>
        (violation.path, violation.reason.tag)).Nodup := by
  intro tags home schema document
  have hnames : schema.NamesApart :=
    ⟨by decide, ⟨trivial, trivial⟩, ⟨List.nodup_singleton _, trivial, trivial⟩, trivial⟩
  have hkeys : document.KeysApart := by
    simp only [document, Json.keysApart_object, Json.keysApart_array, List.forall_mem_cons]
    exact ⟨by decide, ⟨trivial, trivial, nofun⟩, ⟨by decide, trivial, trivial, nofun⟩, nofun⟩
  exact ⟨hnames, hkeys, by decide +kernel, schema.nodup_validate hnames hkeys⟩

end SchemaCheck
