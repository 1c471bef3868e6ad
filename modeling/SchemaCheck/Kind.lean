/-!
# Kinds of values

The seven kinds that a field can have are also the seven names that a document's values go by.
-/

namespace SchemaCheck

/-- The kind of a field, and of the values that suit it. -/
inductive Kind
  | integer
  | float
  | string
  | boolean
  | array
  | object
  | null
  deriving DecidableEq

namespace Kind

/-- Every kind, in the order in which they are listed to a reader. -/
def all : List Kind := [.integer, .float, .string, .boolean, .array, .object, .null]

/-- The word for a kind in schema documents and in messages. -/
def name : Kind → String
  | .integer => "integer"
  | .float => "float"
  | .string => "string"
  | .boolean => "boolean"
  | .array => "array"
  | .object => "object"
  | .null => "null"

def ofName? (word : String) : Option Kind := all.find? fun kind => kind.name == word

theorem name_injective {k l : Kind} (h : k.name = l.name) : k = l := by
  revert h
  cases k <;> cases l <;> decide

theorem ofName?_eq_some_iff {word : String} {kind : Kind} :
    ofName? word = some kind ↔ word = kind.name := by
  constructor
  · intro found
    exact (beq_iff_eq.1 (List.find?_some found :)).symm
  · rintro rfl
    cases kind <;> decide

end Kind

/-- The message for a word that is none of the choices, which are quoted in order. -/
def unknownVariant (word : String) (choices : List String) : String :=
  let quoted := choices.map fun choice => "`" ++ choice ++ "`"
  let expected := match quoted with
    | [first, second] => first ++ " or " ++ second
    | _ => "one of " ++ ", ".intercalate quoted
  "unknown variant `" ++ word ++ "`, expected " ++ expected

end SchemaCheck
