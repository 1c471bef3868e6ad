import SchemaCheck.Field
import SchemaCheck.Spec.Error

/-!
# Schemas from documents

`Schema.ofSpec` and `Field.ofSpec` read a schema document and a field spec.  A limit is set when its
key is present: a least value of zero is a limit, and a missing key is none.  Every spec in the
document is read whatever is wrong with the others, and a document gives a schema only when it has
no defect at all.
-/

namespace SchemaCheck

/-- The members of an object. -/
abbrev Members := List (String × Json)

theorem sizeOf_lookup_lt {members : Members} {key : String} {value : Json}
    (h : members.lookup key = some value) : sizeOf value < sizeOf members := by
  induction members with
  | nil => simp at h
  | cons member members ih =>
    obtain ⟨k, v⟩ := member
    rw [List.lookup_cons] at h
    split at h
    · obtain rfl := Option.some.inj h
      simp
      omega
    · have := ih h
      simp
      omega

namespace Members

/-- The value of a key, converted; none where the key is absent, and a defect where its value cannot
be converted. -/
def read {α : Type} (members : Members) (key expected : String) (convert : Json → Option α) :
    Checked (Option α) :=
  match members.lookup key with
  | none => .ok none
  | some value =>
    match convert value with
    | some x => .ok (some x)
    | none => .defect (.invalidValue key expected)

def bool (members : Members) (key : String) : Checked (Option Bool) :=
  members.read key "a boolean" Json.bool?

/-- A truth value that is false where the key is absent. -/
def flag (members : Members) (key : String) : Checked Bool :=
  (members.bool key).map (·.getD false)

/-- A number of characters or items.  A negative one is no limit. -/
def length (members : Members) (key : String) : Checked (Option Nat) :=
  (members.read key "an integer" Int64.ofJson?).map fun length =>
    length.bind fun n => if 0 ≤ n.toInt then some n.toInt.toNat else none

def kind (members : Members) : Checked Kind :=
  match members.lookup "type" with
  | none => .defect .missingType
  | some (.string word) =>
    match Kind.ofName? word with
    | some kind => .ok kind
    | none => .defect (.unknownType word)
  | some _ => .defect .typeNotString

/-- The name of a field, where it has a usable one. -/
def name? (members : Members) : Option String :=
  match members.lookup "name" with
  | some (.string name) => if name.isEmpty then none else some name
  | _ => none

def name (members : Members) : Checked String :=
  match members.name? with
  | some name => .ok name
  | none => .defect .missingName

def range? {α : Type} [Limit α] (value : Json) : Option (Range α) := do
  let start ← Limit.ofJson? (← value.member? "start")
  let stop ← Limit.ofJson? (← value.member? "end")
  some ⟨start, stop⟩

def rules {α : Type} [Limit α] (members : Members) : Checked (Rules α) :=
  let sign (positive : Bool) : Sign := if positive then .positive else .negative
  let ranges (value : Json) : Option (List (Range α)) := do (← value.items?).mapM range?
  Checked.build (fun min max positive ranges => (⟨min, max, positive.map sign, ranges⟩ : Rules α))
    |>.ap (members.read "min" (Limit.expected α) Limit.ofJson?)
    |>.ap (members.read "max" (Limit.expected α) Limit.ofJson?)
    |>.ap (members.bool "positive")
    |>.ap (members.read "ranges" "a list of \x7b\"start\", \"end\"\x7d objects" ranges)

def format (members : Members) : Checked (Option Pattern) :=
  match members.read "format" "a string" Json.string? with
  | .error errors => .error errors
  | .ok none => .ok none
  | .ok (some source) =>
    match Pattern.ofSource? source with
    | some pattern => .ok (some pattern)
    | none => .defect (.invalidPattern source Pattern.refusal)

def textRules (members : Members) : Checked TextRules :=
  let strings (value : Json) : Option (List String) := do (← value.items?).mapM Json.string?
  Checked.build TextRules.mk
    |>.ap (members.length "min_length")
    |>.ap (members.length "max_length")
    |>.ap (format members)
    |>.ap (members.read "choices" "a list of strings" strings)

def lengths (members : Members) : Checked Lengths :=
  Checked.build Lengths.mk
    |>.ap (members.length "min_length")
    |>.ap (members.length "max_length")

/-- The specs for the items of a tuple.  An empty list counts as none. -/
def tupleSpecs (members : Members) : Checked (Option (List Json)) :=
  (members.read "fix_items" "a list of field specs" Json.items?).map fun specs =>
    specs.filter (!·.isEmpty)

/-- The field of a kind whose specs hold no other specs. -/
def simpleField (members : Members) (kind : Kind) : Checked Field :=
  let name := members.name
  let required := members.flag "required"
  match kind with
  | .integer =>
    Checked.build Field.integer |>.ap name |>.ap required |>.ap members.rules
  | .float =>
    Checked.build Field.float |>.ap name |>.ap required |>.ap members.rules
  | .string =>
    Checked.build Field.string |>.ap name |>.ap required |>.ap members.textRules
  | .boolean =>
    Checked.build Field.boolean |>.ap name |>.ap required |>.ap (members.bool "value")
  | _ =>
    Checked.build (fun name _ => Field.null name) |>.ap name |>.ap required

/-- An array field whose items are yet to be told. -/
abbrev ArrayOf := String → Bool → Lengths → Field

/-- The array field with the given items. -/
def arrayField (members : Members) (items : Checked ArrayOf) : Checked Field :=
  Checked.build (fun name required _ lengths (make : ArrayOf) => make name required lengths)
    |>.ap members.name |>.ap (members.flag "required") |>.ap members.tupleSpecs
    |>.ap members.lengths |>.ap items

/-- The object field with the given schema. -/
def objectField (members : Members) (schema : Checked Schema) : Checked Field :=
  Checked.build Field.object
    |>.ap members.name |>.ap (members.flag "required") |>.ap schema

theorem sizeOf_tupleSpecs_lt {members : Members} {specs : List Json}
    (h : members.tupleSpecs = .ok (some specs)) : sizeOf specs < sizeOf members := by
  unfold tupleSpecs read at h
  cases hl : members.lookup "fix_items" with
  | none => simp [hl, Except.map] at h
  | some value =>
    have lt := sizeOf_lookup_lt hl
    cases value <;> simp [hl, Except.map, Json.items?, Checked.defect] at h
    obtain ⟨h, -⟩ := h
    subst h
    simp at lt
    omega

end Members

/-- The step to a spec, by its name if it has a usable one. -/
def nameSegment? : Json → Option Segment
  | .object members => (Members.name? members).map .key
  | _ => none

/-- The step to a spec in a list: by its name, or else by its index. -/
def specSegment (spec : Json) (index : Nat) : Segment :=
  (nameSegment? spec).getD (.index index)

mutual

/-- The field that a spec describes. -/
def Field.ofSpec (spec : Json) : Checked Field :=
  match spec with
  | .object members =>
    match Members.kind members with
    | .error errors =>
      .error (errors ++ (Members.name members).errors ++
        (Members.flag members "required").errors)
    | .ok .array => Members.arrayField members (itemsOfSpec members)
    | .ok .object =>
      Members.objectField members <|
        match h : members.lookup "schema" with
        | none => .defect .missingSchema
        | some document =>
          have := sizeOf_lookup_lt h
          (Schema.ofSpec document).within [.key "schema"]
    | .ok kind => Members.simpleField members kind
  | spec => .defect (.fieldNotObject spec.kind)
termination_by (sizeOf spec, 0)

/-- The items of an array field: one field for all, under `items`, or one for each, under
`fix_items`.  Both are read even where there may be only one. -/
def itemsOfSpec (members : Members) : Checked Members.ArrayOf :=
  match hi : members.lookup "items", ht : Members.tupleSpecs members with
  | none, .ok (some specs) =>
    have := Members.sizeOf_tupleSpecs_lt ht
    ((fieldsOfSpecs 0 specs).within [.key "fix_items"]).map fun fields name required lengths =>
      .tuple name required lengths fields
  | none, _ => .defect .missingItems
  | some spec, .ok (some specs) =>
    have := sizeOf_lookup_lt hi
    have := Members.sizeOf_tupleSpecs_lt ht
    let item := (Field.ofSpec spec).within (.key "items" :: (nameSegment? spec).toList)
    let fields := (fieldsOfSpecs 0 specs).within [.key "fix_items"]
    .error (.here .conflictingItems :: item.errors ++ fields.errors)
  | some spec, _ =>
    have := sizeOf_lookup_lt hi
    let item := (Field.ofSpec spec).within (.key "items" :: (nameSegment? spec).toList)
    item.map fun item name required lengths => .list name required lengths item
termination_by (sizeOf members, 1)

/-- The schema that a document describes. -/
def Schema.ofSpec (document : Json) : Checked Schema :=
  match document with
  | .object members =>
    let strict := Members.flag members "strict"
    match h : members.lookup "fields" with
    | none => strict.map fun strict => ⟨[], strict⟩
    | some (.array specs) =>
      have : sizeOf specs < sizeOf members :=
        Nat.lt_of_le_of_lt (by simp) (sizeOf_lookup_lt h)
      Checked.build (fun strict fields => (⟨fields, strict⟩ : Schema))
        |>.ap strict |>.ap (fieldsOfSpecs 0 specs)
    | some _ => .error (strict.errors ++ [.here .fieldsNotArray])
  | document => .defect (.documentNotObject document.kind)
termination_by (sizeOf document, 0)

/-- The fields that specs describe, each from its own step; the first has the given index. -/
def fieldsOfSpecs (index : Nat) (specs : List Json) : Checked (List Field) :=
  match specs with
  | [] => .ok []
  | spec :: specs =>
    Checked.build List.cons
      |>.ap ((Field.ofSpec spec).within [specSegment spec index])
      |>.ap (fieldsOfSpecs (index + 1) specs)
termination_by (sizeOf specs, 0)

end

end SchemaCheck
