import Mathlib.Data.List.Basic
import Mathlib.Tactic.Common
import SchemaCheck.Proofs.Conformance

/-!
# Visits

Validation in two passes: first every value that a field looks at is listed, then each of them is
checked by itself.

* `Check` and `Field.checks`: what a field asks of one value, rule by rule in the order of reports;
  nothing below the value counts.  `Field.checks_cases` tells all that this can be.
* `Visit`: a field with the value that it looks at and the path to it, or a key that a strict schema
  does not know.  `Visit.below` lists the visits right below one, `Visit.preorder` a visit and all
  below it, each before those below it, and `Schema.tour` all visits of a document.
* `Field.report_checks`: a field reports of a value the checks that fail.  Its parts are the lemmas
  `report_checks` about the rules of single kinds.
* `Field.findings_look`, by induction on the field: its violations are those of the visits, each
  with the path of its visit.
* `Schema.exists_visit_of_mem_validate`: the visit that a violation comes from.
* `Schema.validate_eq_flatMap_tour`: the agreement of both passes with validation.
-/

namespace SchemaCheck

/-! ### Checks of one value -/

/-- A rule as it is reported, and what it means that it is broken. -/
structure Check where
  reason : Reason
  Broken : Prop
  [decidable : Decidable Broken]

namespace Check

instance (check : Check) : Decidable check.Broken := check.decidable

/-- The rules that are broken, in their order. -/
def report (checks : List Check) : List Reason :=
  (checks.filter fun check => check.Broken).map reason

/-- A value of the wrong kind breaks the rule whatever else it is. -/
def mistyped (expected : Kind) (value : Json) : Check := ⟨.wrongKind expected value.kind, True⟩

end Check

instance : DecidableLT Binary64 := fun x y => inferInstanceAs (Decidable (x.order? y = some .lt))

instance : DecidableLE Binary64 := fun x y =>
  inferInstanceAs (Decidable (x.order? y = some .lt ∨ x.order? y = some .eq))

/-- The limits on the number `x`: its sign, its bounds, and the ranges, in one of which it has to
be. -/
def Rules.checks {α β : Type} [Limit α] [LT β] [LE β] [DecidableLT β] [DecidableLE β]
    (value : α → β) (rules : Rules α) (x : β) : List Check :=
  (rules.sign.toList.map fun
    | .positive => ⟨.notPositive, x < value Limit.zero⟩
    | .negative => ⟨.notNegative, value Limit.zero < x⟩) ++
  (rules.min.toList.map fun min => ⟨.belowMinimum (Limit.toBound min), x < value min⟩) ++
  (rules.max.toList.map fun max => ⟨.aboveMaximum (Limit.toBound max), value max < x⟩) ++
  (rules.ranges.toList.map fun ranges =>
    ⟨.outOfRanges (ranges.map fun range =>
      (Limit.toBound range.start, Limit.toBound range.stop)),
      ∀ range ∈ ranges, ¬(value range.start ≤ x ∧ x ≤ value range.stop)⟩)

/-- The rules for a text: the choices alone where there are any. -/
def TextRules.checks (rules : TextRules) (text : String) : List Check :=
  match rules.choices with
  | some choices => [⟨.notAChoice choices, text ∉ choices⟩]
  | none =>
    (rules.minLength.toList.map fun min => ⟨.tooFewCharacters min, text.length < min⟩) ++
    (rules.maxLength.toList.map fun max => ⟨.tooManyCharacters max, max < text.length⟩) ++
    (rules.format.toList.map fun pattern =>
      ⟨.formatMismatch pattern.source, pattern.occursIn text = false⟩)

/-- The limits on a number of items. -/
def Lengths.checks (lengths : Lengths) (count : Nat) : List Check :=
  (lengths.min.toList.map fun min => ⟨.tooFewItems min, count < min⟩) ++
  (lengths.max.toList.map fun max => ⟨.tooManyItems max, max < count⟩)

/-- The object that a value is, or that its text spells. -/
def Json.object? : Json → Option (List (String × Json))
  | .object members => some members
  | .string text =>
    match Json.readText text with
    | .ok (.object members) => some members
    | _ => none
  | _ => none

/-- **What a field asks of a value by itself**, whatever is below it.  A value of the wrong kind is
asked nothing more, and null is only asked whether it may stand for a value. -/
def Field.checks : Field → Json → List Check
  | .null _, value => [⟨.notNull, value.kind ≠ .null⟩]
  | field, .null => [⟨.required, field.required = true⟩]
  | .integer _ _ rules, value =>
    match value.number?.bind Json.Number.whole? with
    | some k => rules.checks Int64.toInt k
    | none => [.mistyped .integer value]
  | .float _ _ rules, value =>
    match value.number? with
    | some n => rules.checks id n.toBinary64
    | none => [.mistyped .float value]
  | .string _ _ rules, value =>
    match value.string? with
    | some text => rules.checks text
    | none => [.mistyped .string value]
  | .boolean _ _ expected, value =>
    match value.bool? with
    | some b => expected.toList.map fun expected => ⟨.unexpectedBoolean expected, b ≠ expected⟩
    | none => [.mistyped .boolean value]
  | .list _ _ lengths _, value =>
    match value.items? with
    | some items => lengths.checks items.length
    | none => [.mistyped .array value]
  | .tuple _ _ lengths fields, value =>
    match value.items? with
    | some items =>
      lengths.checks items.length ++
        [⟨.fixedLengthMismatch fields.length items.length, fields.length ≠ items.length⟩]
    | none => [.mistyped .array value]
  | .object _ _ _, .object _ => []
  | .object _ _ _, .string text =>
    match Json.readText text with
    | .ok (.object _) => []
    | .ok value => [.mistyped .object value]
    | .error fault => [⟨.invalidJson fault, True⟩]
  | .object _ _ _, value => [.mistyped .object value]

/-- **What a field asks of a value, case by case.**  The value is missing, or of another kind, or
the rules for values of the kind are asked of it; an object may also be spelled by a text. -/
@[elab_as_elim]
theorem Field.checks_cases {motive : Field → Json → List Check → Prop}
    (null : ∀ name value, motive (.null name) value [⟨.notNull, value.kind ≠ .null⟩])
    (absent : ∀ field, motive field .null [⟨.required, field.required = true⟩])
    (mistyped : ∀ field value, motive field value [.mistyped field.kind value])
    (integer : ∀ name required rules n k, n.whole? = some k →
      motive (.integer name required rules) (.number n) (rules.checks Int64.toInt k))
    (float : ∀ name required rules n,
      motive (.float name required rules) (.number n) (rules.checks id n.toBinary64))
    (string : ∀ name required rules text,
      motive (.string name required rules) (.string text) (rules.checks text))
    (boolean : ∀ name required expected b, motive (.boolean name required expected) (.bool b)
      (expected.toList.map fun expected => ⟨.unexpectedBoolean expected, b ≠ expected⟩))
    (list : ∀ name required lengths item items,
      motive (.list name required lengths item) (.array items) (lengths.checks items.length))
    (tuple : ∀ name required lengths fields items,
      motive (.tuple name required lengths fields) (.array items)
        (lengths.checks items.length ++
          [⟨.fixedLengthMismatch fields.length items.length, fields.length ≠ items.length⟩]))
    (object : ∀ name required schema value members, value.object? = some members →
      motive (.object name required schema) value [])
    (spelled : ∀ name required schema text value, Json.readText text = .ok value →
      motive (.object name required schema) (.string text) [.mistyped .object value])
    (garbled : ∀ name required schema text fault, Json.readText text = .error fault →
      motive (.object name required schema) (.string text) [⟨.invalidJson fault, True⟩])
    (field : Field) (value : Json) : motive field value (field.checks value) := by
  cases field with
  | integer name required rules =>
      cases value with
      | null => exact absent _
      | number n =>
          cases hwhole : n.whole? with
          | none =>
              simp only [checks, Json.number?, Option.bind_some, hwhole]
              exact mistyped _ _
          | some k =>
              simp only [checks, Json.number?, Option.bind_some, hwhole]
              exact integer name required rules n k hwhole
      | _ => exact mistyped _ _
  | float name required rules =>
      cases value with
      | null => exact absent _
      | number n => exact float name required rules n
      | _ => exact mistyped _ _
  | string name required rules =>
      cases value with
      | null => exact absent _
      | string text => exact string name required rules text
      | _ => exact mistyped _ _
  | boolean name required expected =>
      cases value with
      | null => exact absent _
      | bool b => exact boolean name required expected b
      | _ => exact mistyped _ _
  | list name required lengths item =>
      cases value with
      | null => exact absent _
      | array items => exact list name required lengths item items
      | _ => exact mistyped _ _
  | tuple name required lengths fields =>
      cases value with
      | null => exact absent _
      | array items => exact tuple name required lengths fields items
      | _ => exact mistyped _ _
  | object name required schema =>
      cases value with
      | null => exact absent _
      | object members => exact object name required schema _ members rfl
      | string text =>
          rw [checks]
          split
          · next members hread =>
              exact object name required schema _ members (by simp [Json.object?, hread])
          · next value _ hread => exact spelled name required schema text value hread
          · next fault hread => exact garbled name required schema text fault hread
      | _ => exact mistyped _ _
  | null name => exact null name value

/-! ### Visits -/

/-- What validation comes to: a field with the value that it looks at, or a key that a strict schema
does not know; and the path to it. -/
inductive Visit
  | look (path : Path) (field : Field) (value : Json)
  | stray (path : Path) (key : String)

/-- What is reported of a visit alone, at the path of the visit. -/
def Visit.violations : Visit → List Violation
  | .look path field value => (Check.report (field.checks value)).map (Violation.mk path field.name)
  | .stray path key => [⟨path, key, .unknownField⟩]

/-- The keys of a document that are the name of no field, where the schema is strict. -/
def Schema.strayKeys (schema : Schema) : Json → List String
  | .object members =>
    if schema.strict then
      (members.map Prod.fst).filter fun key => key ∉ schema.fields.map Field.name
    else []
  | _ => []

/-- The visits of a document at a path: its stray keys if there are any, or else every field with
the value at its name. -/
def Schema.visits (schema : Schema) (path : Path) (document : Json) : List Visit :=
  match schema.strayKeys document with
  | [] => schema.fields.map fun field =>
    .look (path ++ [.key field.name]) field (document.valueAt field.name)
  | keys => keys.map fun key => .stray (path ++ [.key key]) key

namespace Visit

/-- The visits right below a visit: the items of an array, each with its field, unless there are
more or fewer than a tuple has; or the members of the object in a value. -/
def below : Visit → List Visit
  | .look path (.list _ _ _ item) (.array items) =>
    items.zipIdx.map fun x => .look (path ++ [.index x.2]) item x.1
  | .look path (.tuple _ _ _ fields) (.array items) =>
    if fields.length = items.length then
      (fields.zip items).zipIdx.map fun x => .look (path ++ [.index x.2]) x.1.1 x.1.2
    else []
  | .look path (.object _ _ schema) value =>
    match value.object? with
    | some members => schema.visits path (.object members)
    | none => []
  | _ => []

/-- Visits lead to smaller fields, so that following them ends. -/
noncomputable def size : Visit → Nat
  | .look _ field _ => sizeOf field
  | .stray _ _ => 0

end Visit

/-- The visits of a schema are smaller than the schema. -/
lemma Schema.size_lt_of_mem_visits {schema : Schema} {path : Path} {document : Json} {visit : Visit}
    (h : visit ∈ schema.visits path document) : visit.size < sizeOf schema := by
  obtain ⟨fields, strict⟩ := schema
  rw [visits] at h
  split at h
  · obtain ⟨field, hfield, rfl⟩ := List.mem_map.1 h
    have hlt : sizeOf field < sizeOf fields := List.sizeOf_lt_of_mem hfield
    simp only [Visit.size, Schema.mk.sizeOf_spec]
    omega
  · obtain ⟨key, -, rfl⟩ := List.mem_map.1 h
    simp only [Visit.size, Schema.mk.sizeOf_spec]
    omega

namespace Visit

/-- A visit below another one is smaller, which is what the recursion goes down on. -/
lemma size_lt_of_mem_below {visit next : Visit} (h : next ∈ visit.below) :
    next.size < visit.size := by
  unfold below at h
  split at h
  · next item items =>
      obtain ⟨x, -, rfl⟩ := List.mem_map.1 h
      simp only [size, Field.list.sizeOf_spec]
      omega
  · next fields items =>
      split at h
      · obtain ⟨⟨⟨field, item⟩, i⟩, hx, rfl⟩ := List.mem_map.1 h
        have hfield : field ∈ fields := (List.of_mem_zip (List.fst_mem_of_mem_zipIdx hx)).1
        have hlt : sizeOf field < sizeOf fields := List.sizeOf_lt_of_mem hfield
        simp only [size, Field.tuple.sizeOf_spec]
        omega
      · cases h
  · next schema value =>
      split at h
      · have hlt := Schema.size_lt_of_mem_visits h
        simp only [size, Field.object.sizeOf_spec] at hlt ⊢
        omega
      · cases h
  · exact absurd h List.not_mem_nil

/-- A visit and all visits below it, each before those below it. -/
def preorder (visit : Visit) : List Visit :=
  visit :: visit.below.attach.flatMap fun next => preorder next.1
termination_by visit.size
decreasing_by exact size_lt_of_mem_below next.2

/-- What is reported of a visit and of all visits below it. -/
def findings (visit : Visit) : List Violation := visit.preorder.flatMap violations

lemma preorder_eq_cons (visit : Visit) :
    visit.preorder = visit :: visit.below.flatMap preorder := by
  rw [preorder, List.flatMap_subtype fun _ _ => rfl, List.unattach_attach]

lemma findings_eq (visit : Visit) :
    visit.findings = visit.violations ++ visit.below.flatMap findings := by
  rw [findings, preorder_eq_cons, List.flatMap_cons, List.flatMap_assoc]
  rfl

end Visit

/-- **The tour of a document**: all visits that a schema makes in it. -/
def Schema.tour (schema : Schema) (document : Json) : List Visit :=
  (schema.visits [] document).flatMap Visit.preorder

/-! ### Checks agree with reports -/

namespace Check

@[simp] lemma report_append (checks more : List Check) :
    report (checks ++ more) = report checks ++ report more := by
  rw [report, report, report, List.filter_append, List.map_append]

@[simp] lemma report_singleton (reason : Reason) (broken : Prop) [Decidable broken] :
    report [⟨reason, broken⟩] = if broken then [reason] else [] := by
  by_cases h : broken <;> simp [report, h]

@[simp] lemma report_nil : report [] = [] := rfl

lemma mem_report {checks : List Check} {reason : Reason} :
    reason ∈ report checks ↔ ∃ check ∈ checks, check.Broken ∧ check.reason = reason := by
  simp [report, and_assoc]

/-- A value of another kind is reported, whatever it is. -/
@[simp] lemma report_mistyped (expected : Kind) (value : Json) :
    report [mistyped expected value] = [wrongKind expected value] :=
  (report_singleton _ True).trans (if_pos trivial)

end Check

lemma Json.kind_eq_null_iff {value : Json} : value.kind = .null ↔ value = .null := by
  cases value with
  | number n => cases hwhole : n.whole? <;> simp [kind_number_eq, hwhole]
  | _ => simp [kind]

/-- The checks of the rules for numbers report what validation finds. -/
lemma Rules.report_checks {α β : Type} [Limit α] [LT β] [LE β] [DecidableLT β] [DecidableLE β]
    {value : α → β} {n : Json.Number} {x : β} (h : Limit.Measures value n x) (rules : Rules α) :
    Check.report (rules.checks value x) = rules.reasons n := by
  obtain ⟨min, max, sign, ranges⟩ := rules
  simp only [checks, reasons, Check.report_append]
  refine congrArg₂ _ (congrArg₂ _ (congrArg₂ _ ?_ ?_) ?_) ?_
  · rcases sign with _ | _ | _
    · rfl
    · simp only [Option.toList_some, List.map_singleton, Check.report_singleton, ← h.lt]
      rcases Limit.order? n (Limit.zero : α) with _ | _ | _ | _ <;> rfl
    · simp only [Option.toList_some, List.map_singleton, Check.report_singleton, ← h.gt]
      rcases Limit.order? n (Limit.zero : α) with _ | _ | _ | _ <;> rfl
  · cases min <;> simp [Check.report_singleton, Check.report_nil, h.lt]
  · cases max <;> simp [Check.report_singleton, Check.report_nil, h.gt]
  · cases ranges with
    | none => rfl
    | some ranges =>
        have hnone : (∀ range ∈ ranges, ¬(value range.start ≤ x ∧ x ≤ value range.stop)) ↔
            ¬ranges.any (fun range => range.holds n) = true := by
          simp [← h.holds]
        simp only [Option.toList_some, List.map_singleton, Check.report_singleton, hnone, ite_not]

/-- The checks of the rules for texts report what validation finds. -/
lemma TextRules.report_checks (rules : TextRules) (text : String) :
    Check.report (rules.checks text) = rules.reasons text := by
  obtain ⟨min, max, format, choices⟩ := rules
  cases choices with
  | some choices => simp [checks, reasons, Check.report_singleton]
  | none =>
      simp only [checks, reasons, Check.report_append]
      cases min <;> cases max <;> cases format <;>
        simp [Check.report_singleton, Check.report_nil, ← Bool.not_eq_true, ite_not]

lemma Lengths.report_checks (lengths : Lengths) (count : Nat) :
    Check.report (lengths.checks count) = lengths.reasons count := by
  obtain ⟨min, max⟩ := lengths
  simp only [checks, reasons, Check.report_append]
  cases min <;> cases max <;> simp [Check.report_singleton, Check.report_nil]

/-- **The checks of a field report what validation finds** in a value itself. -/
lemma Field.report_checks (field : Field) (value : Json) :
    Check.report (field.checks value) = field.reasons value := by
  cases field with
  | integer name required rules =>
      cases value with
      | number n =>
          cases hwhole : n.whole? with
          | none => simp [checks, reasons, reasonsPresent, Json.number?, hwhole]
          | some k =>
              have hint := Json.Number.whole?_eq_some_iff.1 hwhole
              simp [checks, reasons, reasonsPresent, Json.number?, hwhole,
                Rules.report_checks (measures_toInt hint)]
      | _ => simp [checks, reasons, reasonsPresent, Json.number?]
  | float name required rules =>
      cases value with
      | number n =>
          have hrules := rules.report_checks (measures_toBinary64 n)
          simp [checks, reasons, reasonsPresent, Json.number?, hrules]
      | _ => simp [checks, reasons, reasonsPresent, Json.number?]
  | string name required rules =>
      cases value <;> simp [checks, reasons, reasonsPresent, Json.string?, TextRules.report_checks]
  | boolean name required expected =>
      cases value with
      | bool b => cases expected <;> simp [checks, reasons, reasonsPresent, Json.bool?]
      | _ => simp [checks, reasons, reasonsPresent, Json.bool?]
  | list name required lengths item =>
      cases value <;> simp [checks, reasons, reasonsPresent, Json.items?, Lengths.report_checks]
  | tuple name required lengths fields =>
      cases value <;> simp [checks, reasons, reasonsPresent, Json.items?, Lengths.report_checks]
  | object name required schema =>
      cases value with
      | string text =>
          cases hread : Json.readText text with
          | error fault => simp [checks, reasons, reasonsPresent, embedded, hread]
          | ok value => cases value <;> simp [checks, reasons, reasonsPresent, embedded, hread]
      | _ => simp [checks, reasons, reasonsPresent, embedded]
  | null name =>
      cases value <;> simp [checks, reasons, reasonsPresent, required, Json.kind_eq_null_iff]

/-! ### Visits agree with validation -/

namespace Violation

/-- The same violation, seen from further out, from where a path leads to it. -/
def within (path : Path) (violation : Violation) : Violation :=
  { violation with path := path ++ violation.path }

lemma map_within_nil (violations : List Violation) : violations.map (within []) = violations := by
  have hid : within [] = id := funext fun _ => rfl
  rw [hid, List.map_id]

/-- What is found below a step is found behind that step of the path. -/
lemma map_within_below (path : Path) (segment : Segment) (violations : List Violation) :
    (SchemaCheck.below segment violations).map (within path) =
      violations.map (within (path ++ [segment])) := by
  rw [SchemaCheck.below, List.map_map]
  refine List.map_congr_left fun violation _ => ?_
  simp [within, under]

end Violation

/-- The visits from a field on a value find the violations of the field. -/
def Field.ToursRight (field : Field) : Prop :=
  ∀ path value, (Visit.look path field value).findings =
    (field.validate value).map (Violation.within path)

/-- The keys without a field are those that validation calls unknown. -/
lemma Schema.strayKeys_eq (schema : Schema) (document : Json) :
    schema.strayKeys document = schema.unknownKeys document := by
  obtain ⟨fields, strict⟩ := schema
  cases document with
  | object members =>
      cases strict with
      | false => rfl
      | true =>
          simp only [strayKeys, unknownKeys, if_true]
          refine List.filter_congr fun key _ => ?_
          rw [Bool.eq_iff_iff]
          simp [field?]
  | _ => cases strict <;> rfl

/-- The visits of a schema find what validation finds, if those of its fields do. -/
lemma Schema.flatMap_findings_visits {schema : Schema}
    (h : ∀ field ∈ schema.fields, field.ToursRight) (path : Path) (document : Json) :
    (schema.visits path document).flatMap Visit.findings =
      (schema.validate document).map (Violation.within path) := by
  obtain ⟨fields, strict⟩ := schema
  rw [visits, strayKeys_eq, Schema.validate]
  cases Schema.unknownKeys ⟨fields, strict⟩ document with
  | nil =>
      simp only [List.flatMap_map]
      rw [validateMembers_eq_flatMap, List.map_flatMap]
      refine List.flatMap_congr fun field hfield => ?_
      rw [h field hfield, Violation.map_within_below]
      rfl
  | cons key keys =>
      have hstray : ∀ key, (Visit.stray (path ++ [.key key]) key).findings =
          [((Violation.here key .unknownField).under (.key key)).within path] := by
        intro key
        rw [Visit.findings_eq]
        rfl
      simp only [List.flatMap_map, hstray, List.map_map]
      exact List.map_eq_flatMap.symm

lemma Visit.violations_look (path : Path) (field : Field) (value : Json) :
    (Visit.look path field value).violations =
      ((field.reasons value).map (Violation.here field.name)).map (Violation.within path) := by
  rw [violations, Field.report_checks, List.map_map]
  refine List.map_congr_left fun reason _ => ?_
  simp [Violation.here, Violation.within]

/-- Items that are visited one by one, from the given index on. -/
lemma flatMap_findings_items {α : Type} (field : α → Field) (item : α → Json) (xs : List α)
    (h : ∀ x ∈ xs, (field x).ToursRight) (path : Path) (i : Nat) :
    ((xs.zipIdx i).map fun x => Visit.look (path ++ [.index x.2]) (field x.1) (item x.1)).flatMap
        Visit.findings =
      ((xs.zipIdx i).flatMap fun x => below (.index x.2) ((field x.1).validate (item x.1))).map
        (Violation.within path) := by
  rw [List.flatMap_map, List.map_flatMap]
  refine List.flatMap_congr fun x hx => ?_
  rw [h x.1 (List.fst_mem_of_mem_zipIdx hx), Violation.map_within_below]

lemma Json.object?_eq_some_iff {value : Json} {members : List (String × Json)} :
    value.object? = some members ↔ embedded value = .ok (.object members) := by
  cases value with
  | string text =>
      cases hread : Json.readText text with
      | error fault => simp [object?, embedded, hread]
      | ok value => cases value <;> simp [object?, embedded, hread]
  | _ => simp [object?, embedded]

/-- The one reason at an object field is that there is no value to look at. -/
lemma Field.reasons_object {name : String} {required : Bool} {schema : Schema} {value : Json}
    (h : value ≠ .null) :
    (Field.object name required schema).reasons value =
      match embedded value with
      | .ok _ => []
      | .error reason => [reason] := by
  cases value with
  | null => exact absurd rfl h
  | _ => rfl

/-- **A field finds what its visits find**, wherever it is. -/
theorem Field.findings_look (field : Field) : field.ToursRight := by
  induction field using Field.ind with
  | list name required lengths item ih =>
      intro path value
      rw [Visit.findings_eq, Visit.violations_look]
      cases value with
      | array items =>
          rw [Field.validate, List.map_append]
          exact congrArg _ (flatMap_findings_items (fun _ => item) id items (fun _ _ => ih) path 0)
      | _ => simp [Visit.below, Field.validate]
  | tuple name required lengths fields ih =>
      intro path value
      rw [Visit.findings_eq, Visit.violations_look]
      cases value with
      | array items =>
          have hitems := flatMap_findings_items Prod.fst Prod.snd (fields.zip items)
            (fun x hx => ih x.1 (List.of_mem_zip hx).1) path 0
          rw [Field.validate, List.map_append, Visit.below]
          refine congrArg _ ?_
          by_cases hlength : fields.length = items.length
          · rw [if_pos hlength, if_pos hlength, hitems, validateItems_eq_flatMap]
          · rw [if_neg hlength, if_neg hlength]
            rfl
      | _ => simp [Visit.below, Field.validate]
  | object name required schema ih =>
      intro path value
      by_cases hnull : value = .null
      · subst hnull
        rw [Visit.findings_eq, Visit.violations_look]
        simp [Visit.below, Field.validate, Json.object?]
      · rw [Visit.findings_eq, Visit.violations_look, Field.validate_object hnull,
          Field.reasons_object hnull, Visit.below]
        cases hembed : embedded value with
        | ok document =>
            obtain ⟨members, rfl, -⟩ := embedded_eq_ok_iff.1 hembed
            rw [Json.object?_eq_some_iff.2 hembed]
            exact Schema.flatMap_findings_visits ih path _
        | error reason =>
            have hnone : value.object? = none := by
              refine Option.eq_none_iff_forall_ne_some.2 fun members hmembers => ?_
              rw [Json.object?_eq_some_iff, hembed] at hmembers
              cases hmembers
            rw [hnone]
            rfl
  | _ =>
      intro path value
      rw [Visit.findings_eq, Visit.violations_look]
      simp [Visit.below, Field.validate]

/-- **The visits of a schema find exactly its violations**, in their order. -/
lemma Schema.validate_eq_flatMap_findings (schema : Schema) (document : Json) :
    schema.validate document = (schema.visits [] document).flatMap Visit.findings := by
  have hvisits := schema.flatMap_findings_visits (fun field _ => field.findings_look) [] document
  rw [Violation.map_within_nil] at hvisits
  exact hvisits.symm

/-- **Where a violation comes from**: at its path, a field asks a check of the value that it looks
at, and the value breaks it; or an unknown key is there. -/
lemma Schema.exists_visit_of_mem_validate {schema : Schema} {document : Json}
    {violation : Violation} (h : violation ∈ schema.validate document) :
    (∃ field value, .look violation.path field value ∈ schema.tour document ∧
      field.name = violation.field ∧
      ∃ check ∈ field.checks value, check.Broken ∧ check.reason = violation.reason) ∨
      .stray violation.path violation.field ∈ schema.tour document ∧
        violation.reason = .unknownField := by
  rw [validate_eq_flatMap_findings] at h
  obtain ⟨first, hfirst, hfinding⟩ := List.mem_flatMap.1 h
  obtain ⟨visit, hvisit, hmem⟩ := List.mem_flatMap.1 hfinding
  have htour : visit ∈ schema.tour document := List.mem_flatMap.2 ⟨first, hfirst, hvisit⟩
  cases visit with
  | look path field value =>
      obtain ⟨reason, hreason, rfl⟩ := List.mem_map.1 hmem
      exact .inl ⟨field, value, htour, rfl, Check.mem_report.1 hreason⟩
  | stray path key =>
      obtain rfl := List.mem_singleton.1 hmem
      exact .inr ⟨htour, rfl⟩

/-- **Validation is a tour with checks**: the violations of a document are those of the visits of
the schema in it, in their order. -/
theorem Schema.validate_eq_flatMap_tour (schema : Schema) (document : Json) :
    schema.validate document = (schema.tour document).flatMap Visit.violations := by
  rw [validate_eq_flatMap_findings, tour, List.flatMap_assoc]
  rfl

end SchemaCheck
