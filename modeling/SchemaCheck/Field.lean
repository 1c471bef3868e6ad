import SchemaCheck.Pattern.Basic
import SchemaCheck.Rules

/-!
# Fields and schemas

A `Field` is a named rule for one value, of one kind; a `Schema` is a list of fields, each for the
member of an object that has its name.  An array field has either one field for all items (`list`)
or one for each (`tuple`).  Everything but the null field says whether a value is required.

`Field.same` is equality in which limits are compared as numbers: both zeros are one, and a limit
that is no number differs from itself.
-/

namespace SchemaCheck

/-- Rules for strings.  Where there are choices, the other rules do not count. -/
structure TextRules where
  minLength : Option Nat := none
  maxLength : Option Nat := none
  format : Option Pattern := none
  choices : Option (List String) := none
  deriving DecidableEq

/-- Limits on the number of items. -/
structure Lengths where
  min : Option Nat := none
  max : Option Nat := none
  deriving DecidableEq

mutual

/-- A named rule for a value. -/
inductive Field
  | integer (name : String) (required : Bool) (rules : Rules Int64)
  | float (name : String) (required : Bool) (rules : Rules Binary64)
  | string (name : String) (required : Bool) (rules : TextRules)
  | boolean (name : String) (required : Bool) (expected : Option Bool)
  | list (name : String) (required : Bool) (lengths : Lengths) (item : Field)
  | tuple (name : String) (required : Bool) (lengths : Lengths) (items : List Field)
  | object (name : String) (required : Bool) (schema : Schema)
  | null (name : String)

/-- Fields for the members of an object.  A strict schema admits no other members. -/
structure Schema where
  fields : List Field
  strict : Bool := false

end

/-- Induction on fields: a property holds of every field once an array field inherits it from its
items, and an object field from the fields of its schema. -/
@[elab_as_elim]
theorem Field.ind {P : Field → Prop}
    (integer : ∀ name required rules, P (.integer name required rules))
    (float : ∀ name required rules, P (.float name required rules))
    (string : ∀ name required rules, P (.string name required rules))
    (boolean : ∀ name required expected, P (.boolean name required expected))
    (list : ∀ name required lengths item, P item → P (.list name required lengths item))
    (tuple : ∀ name required lengths items, (∀ item ∈ items, P item) →
      P (.tuple name required lengths items))
    (object : ∀ name required schema, (∀ field ∈ schema.fields, P field) →
      P (.object name required schema))
    (null : ∀ name, P (.null name)) (field : Field) : P field :=
  @Field.rec P (fun schema => ∀ field ∈ schema.fields, P field)
    (fun fields => ∀ field ∈ fields, P field)
    integer float string boolean list tuple object null
    (fun _ _ each => each)
    (fun _ h => absurd h List.not_mem_nil)
    (fun _ _ first rest _ h => (List.mem_cons.1 h).elim (fun e => e ▸ first) (rest _))
    field

namespace Field

/-- The name of a field, which is also the key of its value. -/
def name : Field → String
  | .integer name .. | .float name .. | .string name .. | .boolean name .. | .list name ..
  | .tuple name .. | .object name .. | .null name => name

def kind : Field → Kind
  | .integer .. => .integer
  | .float .. => .float
  | .string .. => .string
  | .boolean .. => .boolean
  | .list .. | .tuple .. => .array
  | .object .. => .object
  | .null _ => .null

/-- Whether null, and the absence of a value, is a violation. -/
def required : Field → Bool
  | .integer _ required _ | .float _ required _ | .string _ required _ | .boolean _ required _
  | .list _ required .. | .tuple _ required .. | .object _ required _ => required
  | .null _ => false

def require : Field → Field
  | .integer name _ rules => .integer name true rules
  | .float name _ rules => .float name true rules
  | .string name _ rules => .string name true rules
  | .boolean name _ expected => .boolean name true expected
  | .list name _ lengths item => .list name true lengths item
  | .tuple name _ lengths items => .tuple name true lengths items
  | .object name _ schema => .object name true schema
  | .null name => .null name

def withIntegerRules (f : Rules Int64 → Rules Int64) : Field → Field
  | .integer name required rules => .integer name required (f rules)
  | field => field

def withFloatRules (f : Rules Binary64 → Rules Binary64) : Field → Field
  | .float name required rules => .float name required (f rules)
  | field => field

def withTextRules (f : TextRules → TextRules) : Field → Field
  | .string name required rules => .string name required (f rules)
  | field => field

/-- Changes the limits on the number of items of an array field. -/
def withLengths (f : Lengths → Lengths) : Field → Field
  | .list name required lengths item => .list name required (f lengths) item
  | .tuple name required lengths items => .tuple name required (f lengths) items
  | field => field

def expecting (expected : Bool) : Field → Field
  | .boolean name required _ => .boolean name required (some expected)
  | field => field

end Field

namespace Schema

/-- The first field with the given name. -/
def field? (schema : Schema) (name : String) : Option Field :=
  schema.fields.find? fun field => field.name == name

/-- The schema with one more field, at the end. -/
def withField (schema : Schema) (field : Field) : Schema :=
  { schema with fields := schema.fields ++ [field] }

def withStrict (schema : Schema) (strict : Bool) : Schema := { schema with strict }

end Schema

mutual

/-- Whether two fields are equal, their limits being compared as numbers. -/
def Field.same : Field → Field → Bool
  | .integer name required rules, .integer name' required' rules' =>
    name == name' && required == required' && rules.same rules'
  | .float name required rules, .float name' required' rules' =>
    name == name' && required == required' && rules.same rules'
  | .string name required rules, .string name' required' rules' =>
    name == name' && required == required' && rules == rules'
  | .boolean name required expected, .boolean name' required' expected' =>
    name == name' && required == required' && expected == expected'
  | .list name required lengths item, .list name' required' lengths' item' =>
    name == name' && required == required' && lengths == lengths' && item.same item'
  | .tuple name required lengths items, .tuple name' required' lengths' items' =>
    name == name' && required == required' && lengths == lengths' && sameFields items items'
  | .object name required schema, .object name' required' schema' =>
    name == name' && required == required' && schema.same schema'
  | .null name, .null name' => name == name'
  | _, _ => false

/-- Whether two schemas are equal, their limits being compared as numbers. -/
def Schema.same : Schema → Schema → Bool
  | ⟨fields, strict⟩, ⟨fields', strict'⟩ => strict == strict' && sameFields fields fields'

/-- Whether two lists of fields are equal, their limits being compared as numbers. -/
def sameFields : List Field → List Field → Bool
  | [], [] => true
  | field :: fields, field' :: fields' => field.same field' && sameFields fields fields'
  | _, _ => false

end

end SchemaCheck
