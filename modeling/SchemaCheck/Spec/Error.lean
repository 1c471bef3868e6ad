import SchemaCheck.Path
import SchemaCheck.Text.Quoted

/-!
# Defects of schema documents

A `SpecError` is a defect of a schema document and the path of the spec that has it.  `Checked` is
the result of reading a part of a document: reading goes on behind a defect, and the defects of all
parts are gathered in the order of the parts.
-/

namespace SchemaCheck

/-- What is wrong with a spec. -/
inductive Defect
  | documentNotObject (found : Kind)
  | fieldsNotArray
  | fieldNotObject (found : Kind)
  | missingType
  | typeNotString
  | unknownType (name : String)
  | missingName
  | invalidValue (key expected : String)
  | missingItems
  | conflictingItems
  | missingSchema
  | invalidPattern (pattern reason : String)
  deriving DecidableEq

def Defect.message : Defect → String
  | .documentNotObject found => "schema document must be an object, found " ++ found.name
  | .fieldsNotArray => "\"fields\" must be an array"
  | .fieldNotObject found => "field spec must be an object, found " ++ found.name
  | .missingType => "\"type\" key is missing"
  | .typeNotString => "\"type\" must be a string"
  | .unknownType name => "invalid type: " ++ name
  | .missingName => "\"name\" must be a non-empty string"
  | .invalidValue key expected => "\"" ++ key ++ "\" must be " ++ expected
  | .missingItems => "array field needs either \"items\" or a non-empty \"fix_items\""
  | .conflictingItems => "array field cannot use both \"items\" and \"fix_items\""
  | .missingSchema => "\"schema\" key is missing for object field"
  | .invalidPattern pattern reason =>
    "invalid format pattern " ++ Text.quoted pattern ++ ": " ++ reason

/-- A defect and where it is. -/
structure SpecError where
  path : Path
  defect : Defect
  deriving DecidableEq

namespace SpecError

def here (defect : Defect) : SpecError := ⟨[], defect⟩

/-- The same defect, seen from further out, from where a path leads to it. -/
def within (path : Path) (error : SpecError) : SpecError :=
  { error with path := path ++ error.path }

/-- The text of a defect, with its path unless that is the root. -/
def message (error : SpecError) : String :=
  if error.path.isEmpty then error.defect.message
  else error.path.spell ++ ": " ++ error.defect.message

/-- Defects one a line. -/
def messages (errors : List SpecError) : String :=
  "\n".intercalate (errors.map message)

end SpecError

/-- A part of a document, or its defects. -/
abbrev Checked (α : Type) := Except (List SpecError) α

namespace Checked

variable {α β : Type}

/-- A function of parts that are yet to be read. -/
def build (f : α) : Checked α := .ok f

/-- A single defect at the root. -/
def defect (defect : Defect) : Checked α := .error [.here defect]

def errors : Checked α → List SpecError
  | .ok _ => []
  | .error errors => errors

/-- Applies a function to one more part.  The defects of both are kept. -/
def ap (f : Checked (α → β)) (x : Checked α) : Checked β :=
  match f, x with
  | .ok f, .ok x => .ok (f x)
  | .ok _, .error errors => .error errors
  | .error errors, x => .error (errors ++ x.errors)

/-- The part seen from further out, from where a path leads to it. -/
def within (path : Path) : Checked α → Checked α
  | .ok x => .ok x
  | .error errors => .error (errors.map (SpecError.within path))

@[simp] theorem errors_build (f : α) : (build f).errors = [] := rfl

@[simp] theorem errors_ok (x : α) : errors (.ok x) = [] := rfl

@[simp] theorem errors_error (es : List SpecError) : errors (.error es : Checked α) = es := rfl

@[simp] theorem errors_defect (d : Defect) : (defect d : Checked α).errors = [.here d] := rfl

theorem errors_ap (f : Checked (α → β)) (x : Checked α) :
    (f.ap x).errors = f.errors ++ x.errors := by
  cases f <;> cases x <;> simp [ap, errors]

@[simp] theorem errors_map (f : α → β) (x : Checked α) : errors (x.map f) = x.errors := by
  cases x <;> rfl

@[simp] theorem errors_within (path : Path) (x : Checked α) :
    (x.within path).errors = x.errors.map (SpecError.within path) := by
  cases x <;> rfl

theorem ap_eq_ok_iff {f : Checked (α → β)} {x : Checked α} {y : β} :
    f.ap x = .ok y ↔ ∃ g a, f = .ok g ∧ x = .ok a ∧ g a = y := by
  cases f <;> cases x <;> simp [ap]

theorem map_eq_ok_iff {f : α → β} {x : Checked α} {y : β} :
    x.map f = .ok y ↔ ∃ a, x = .ok a ∧ f a = y := by
  cases x <;> simp [Except.map]

theorem within_eq_ok_iff {path : Path} {x : Checked α} {a : α} :
    x.within path = .ok a ↔ x = .ok a := by
  cases x <;> simp [within]

end Checked

end SchemaCheck
