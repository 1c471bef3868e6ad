import SchemaCheck.Json.Number
import SchemaCheck.Kind

/-!
# JSON values

`Json` is a value as a reader hands it over.  An object keeps its members in the order of their
first appearance; `Json.putMember` is the one way in which a member is added, so that no key occurs
twice.
-/

namespace SchemaCheck

inductive Json
  | null
  | bool (b : Bool)
  | number (n : Json.Number)
  | string (s : String)
  | array (items : List Json)
  | object (members : List (String × Json))

namespace Json

/-- The kind that a value goes by in messages.  A number with nothing behind the point is an
integer, however it was written. -/
def kind : Json → Kind
  | .null => .null
  | .bool _ => .boolean
  | .number (.whole _) => .integer
  | .number (.float x) => if x.fraction = 0 then .integer else .float
  | .string _ => .string
  | .array _ => .array
  | .object _ => .object

/-- The numbers that go by the name of an integer are those with an integer in them. -/
theorem kind_number_eq (n : Number) :
    (number n).kind = if n.whole?.isSome then .integer else .float := by
  cases n with
  | whole k => rfl
  | float x => exact ite_congr (propext x.fraction_eq_zero_iff) (fun _ => rfl) fun _ => rfl

/-- The value under a key. -/
def member? : Json → String → Option Json
  | .object members, key => members.lookup key
  | _, _ => none

/-- Sets a member: a new key comes last, and a known one keeps its place. -/
def putMember {α : Type} (members : List (String × α)) (key : String) (value : α) :
    List (String × α) :=
  match members with
  | [] => [(key, value)]
  | (k, v) :: rest =>
    if k = key then (key, value) :: rest else (k, v) :: putMember rest key value

/-- The members that a text spells: of a repeated key the last value counts, at the first place. -/
def ofPairs {α : Type} (pairs : List (String × α)) : List (String × α) :=
  pairs.foldl (fun members pair => putMember members pair.1 pair.2) []

def string? : Json → Option String
  | .string s => some s
  | _ => none

def bool? : Json → Option Bool
  | .bool b => some b
  | _ => none

/-- The number that a value is. -/
def number? : Json → Option Number
  | .number n => some n
  | _ => none

def items? : Json → Option (List Json)
  | .array items => some items
  | _ => none

end Json

end SchemaCheck
