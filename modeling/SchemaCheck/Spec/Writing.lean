import SchemaCheck.Field

/-!
# Documents from schemas

`Schema.toSpec` and `Field.toSpec` write the schema document and the field spec that describe a
schema and a field: the keys in a fixed order, and only those that are not at their default.
-/

namespace SchemaCheck

/-- A member that is there where a value is. -/
def optionalMember {α : Type} (key : String) (value : Option α) (toJson : α → Json) :
    List (String × Json) :=
  match value with
  | some x => [(key, toJson x)]
  | none => []

def Rules.members {α : Type} [Limit α] (rules : Rules α) : List (String × Json) :=
  let range (range : Range α) : Json :=
    .object [("start", Limit.toJson range.start), ("end", Limit.toJson range.stop)]
  optionalMember "min" rules.min Limit.toJson ++
    optionalMember "max" rules.max Limit.toJson ++
    optionalMember "positive" rules.sign (fun sign => .bool (sign == .positive)) ++
    optionalMember "ranges" rules.ranges (fun ranges => .array (ranges.map range))

/-- The JSON form of a number of characters or items. -/
def lengthJson (n : Nat) : Json := .number (.whole n)

/-- The members for the limits on the number of items. -/
def Lengths.members (lengths : Lengths) : List (String × Json) :=
  optionalMember "min_length" lengths.min lengthJson ++
    optionalMember "max_length" lengths.max lengthJson

def TextRules.members (rules : TextRules) : List (String × Json) :=
  optionalMember "min_length" rules.minLength lengthJson ++
    optionalMember "max_length" rules.maxLength lengthJson ++
    optionalMember "format" rules.format (fun pattern => .string pattern.source) ++
    optionalMember "choices" rules.choices (fun choices => .array (choices.map .string))

/-- The members that every field has: name, type, and that a value is required if it is. -/
def Field.commonMembers (field : Field) : List (String × Json) :=
  [("name", .string field.name), ("type", .string field.kind.name)] ++
    if field.required then [("required", .bool true)] else []

mutual

/-- The spec of a field. -/
def Field.toSpec (field : Field) : Json :=
  .object (field.commonMembers ++
    match field with
    | .integer _ _ rules => rules.members
    | .float _ _ rules => rules.members
    | .string _ _ rules => rules.members
    | .boolean _ _ expected => optionalMember "value" expected .bool
    | .list _ _ lengths item => lengths.members ++ [("items", item.toSpec)]
    | .tuple _ _ lengths items => lengths.members ++ [("fix_items", .array (fieldSpecs items))]
    | .object _ _ schema => [("schema", schema.toSpec)]
    | .null _ => [])

/-- The document of a schema. -/
def Schema.toSpec : Schema → Json
  | ⟨fields, strict⟩ =>
    .object ((if strict then [("strict", .bool true)] else []) ++
      [("fields", .array (fieldSpecs fields))])

def fieldSpecs : List Field → List Json
  | [] => []
  | field :: fields => field.toSpec :: fieldSpecs fields

end

end SchemaCheck
