import SchemaCheck.Field

/-!
# Validation

`Schema.validate` finds every violation of a schema in a document.  Each field looks at one value:
`Field.reasons` says what is wrong with that value itself, and `Field.validate` goes on into the
items or members below it.  Two faults end the descent, since nothing below them could be told
apart: a member that a strict schema does not know, and a wrong number of items for a tuple.
-/

namespace SchemaCheck

/-- The reason that a value is of the wrong kind. -/
def wrongKind (expected : Kind) (value : Json) : Reason := .wrongKind expected value.kind

def TextRules.reasons (rules : TextRules) (text : String) : List Reason :=
  match rules.choices with
  | some choices => if choices.contains text then [] else [.notAChoice choices]
  | none =>
    let min := match rules.minLength with
      | some min => if text.length < min then [.tooFewCharacters min] else []
      | none => []
    let max := match rules.maxLength with
      | some max => if max < text.length then [.tooManyCharacters max] else []
      | none => []
    let format := match rules.format with
      | some pattern => if pattern.occursIn text then [] else [.formatMismatch pattern.source]
      | none => []
    min ++ max ++ format

def Lengths.reasons (lengths : Lengths) (count : Nat) : List Reason :=
  let min := match lengths.min with
    | some min => if count < min then [.tooFewItems min] else []
    | none => []
  let max := match lengths.max with
    | some max => if max < count then [.tooManyItems max] else []
    | none => []
  min ++ max

/-- The object that an object field looks at: the value itself, or what the text of a string spells;
or the reason why there is none. -/
def embedded : Json → Except Reason Json
  | .object members => .ok (.object members)
  | .string text =>
    match Json.readText text with
    | .ok (.object members) => .ok (.object members)
    | .ok value => .error (wrongKind .object value)
    | .error message => .error (.invalidJson message)
  | value => .error (wrongKind .object value)

/-- What is wrong with a value that is not null, apart from what is below it. -/
def Field.reasonsPresent : Field → Json → List Reason
  | .integer _ _ rules, value =>
    match value with
    | .number n => if n.wide?.isSome then rules.reasons n else [wrongKind .integer value]
    | _ => [wrongKind .integer value]
  | .float _ _ rules, value =>
    match value with
    | .number n => rules.reasons n
    | _ => [wrongKind .float value]
  | .string _ _ rules, value =>
    match value with
    | .string text => rules.reasons text
    | _ => [wrongKind .string value]
  | .boolean _ _ expected, value =>
    match value, expected with
    | .bool b, some expected => if b = expected then [] else [.unexpectedBoolean expected]
    | .bool _, none => []
    | _, _ => [wrongKind .boolean value]
  | .list _ _ lengths _, value =>
    match value with
    | .array items => lengths.reasons items.length
    | _ => [wrongKind .array value]
  | .tuple _ _ lengths fields, value =>
    match value with
    | .array items =>
      lengths.reasons items.length ++
        if fields.length = items.length then []
        else [.fixedLengthMismatch fields.length items.length]
    | _ => [wrongKind .array value]
  | .object _ _ _, value =>
    match embedded value with
    | .ok _ => []
    | .error reason => [reason]
  | .null _, _ => [.notNull]

/-- What is wrong with a value, apart from what is below it.  Null counts as the absence of a
value. -/
def Field.reasons (field : Field) (value : Json) : List Reason :=
  match value with
  | .null => if field.required then [.required] else []
  | value => field.reasonsPresent value

/-- The keys of a document that a strict schema does not know. -/
def Schema.unknownKeys (schema : Schema) (document : Json) : List String :=
  match schema.strict, document with
  | true, .object members => (members.map Prod.fst).filter fun key => (schema.field? key).isNone
  | _, _ => []

mutual

/-- All violations of a field in a value. -/
def Field.validate (field : Field) (value : Json) : List Violation :=
  (field.reasons value).map (Violation.here field.name) ++
    match field, value with
    | .list _ _ _ item, .array items =>
      items.zipIdx.flatMap fun (value, i) => below (.index i) (item.validate value)
    | .tuple _ _ _ fields, .array items =>
      if fields.length = items.length then validateItems fields 0 items else []
    | .object _ _ schema, value =>
      match value, embedded value with
      | .null, _ => []
      | _, .ok document => schema.validate document
      | _, .error _ => []
    | _, _ => []

/-- All violations of a schema in a document. -/
def Schema.validate : Schema → Json → List Violation
  | ⟨fields, strict⟩, document =>
    match Schema.unknownKeys ⟨fields, strict⟩ document with
    | [] => validateMembers fields document
    | keys => keys.map fun key => (Violation.here key .unknownField).under (.key key)

/-- The violations of the members of a document, field by field. -/
def validateMembers : List Field → Json → List Violation
  | [], _ => []
  | field :: fields, document =>
    below (.key field.name) (field.validate ((document.member? field.name).getD .null)) ++
      validateMembers fields document

/-- The violations of items, one by one, from the given index on. -/
def validateItems : List Field → Nat → List Json → List Violation
  | field :: fields, i, item :: items =>
    below (.index i) (field.validate item) ++ validateItems fields (i + 1) items
  | _, _, _ => []

end

theorem Field.validate_null (field : Field) :
    field.validate .null =
      if field.required then [Violation.here field.name .required] else [] := by
  have reported : field.validate .null = (field.reasons .null).map (Violation.here field.name) := by
    cases field <;> simp [Field.validate]
  rw [reported, Field.reasons]
  cases field.required <;> rfl

theorem Field.validate_object {value : Json} (h : value ≠ .null) (name : String) (required : Bool)
    (schema : Schema) :
    (Field.object name required schema).validate value =
      match embedded value with
      | .ok document => schema.validate document
      | .error reason => [Violation.here name reason] := by
  cases embed : embedded value <;> cases value <;>
    simp_all [Field.validate, Field.reasons, Field.reasonsPresent, Field.name]

theorem validateMembers_eq_flatMap (fields : List Field) (document : Json) :
    validateMembers fields document = fields.flatMap fun field =>
      below (.key field.name) (field.validate ((document.member? field.name).getD .null)) := by
  induction fields with
  | nil => rfl
  | cons field fields ih => rw [validateMembers, ih, List.flatMap_cons]

theorem validateItems_eq_flatMap (fields : List Field) (i : Nat) (items : List Json) :
    validateItems fields i items = ((fields.zip items).zipIdx i).flatMap fun x =>
      below (.index x.2) (x.1.1.validate x.1.2) := by
  induction fields generalizing i items with
  | nil => rfl
  | cons field fields ih =>
    cases items with
    | nil => rfl
    | cons item items => rw [validateItems, ih]; rfl

end SchemaCheck
