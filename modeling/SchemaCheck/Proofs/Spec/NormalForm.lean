import Mathlib.Tactic.Common
import SchemaCheck.Proofs.Spec.Description
import SchemaCheck.Spec.Writing

/-!
# The normal form of a document

The tidy form of a schema document: the keys in a fixed order, and only those that say something.
It is found by looking at the document alone, whether or not that describes a schema.

* `Json.asInteger`, `Json.asBinary`, `Json.onItems`, `Json.onEnds`: how values are rewritten.
* `Members.kept` and `Members.keptIf`: the member under a key, if it says something.
* `Members.normalHead`, `normalRules` and `normalBelow`: the keys of every spec, those of a kind,
  and the specs below.
* `normalSpec` and `normalDocument`: the normal forms of a field spec and of a schema document, with
  the equations `normalSpec_object` and `normalDocument_object`.
-/

namespace SchemaCheck

/-! ### Rewriting values -/

namespace Json

/-- A number without fractional part as an integer; anything else as it is. -/
def asInteger : Json → Json
  | .number n =>
    match n.whole? with
    | some k => .number (.whole k)
    | none => .number n
  | value => value

/-- A number as the nearest binary number; anything else as it is. -/
def asBinary : Json → Json
  | .number n => n.toBinary64.toJson
  | value => value

/-- A list with its items rewritten; anything else as it is. -/
def onItems (f : Json → Json) : Json → Json
  | .array items => .array (items.map f)
  | value => value

lemma onItems_id : onItems id = id := by
  funext value
  cases value <;> simp [onItems]

/-- A range with its ends alone, which are rewritten; anything else as it is. -/
def onEnds (f : Json → Json) : Json → Json
  | .object members =>
    .object (optionalMember "start" (members.lookup "start") f ++
      optionalMember "end" (members.lookup "end") f)
  | value => value

/-- Whether the value is the truth value true. -/
def isTrue : Json → Bool
  | .bool b => b
  | _ => false

/-- Whether the value is a number below zero. -/
def isNegative : Json → Bool
  | .number n => n.exact < 0
  | _ => false

end Json

/-! ### The normal form -/

namespace Members

/-- The member under a key, its value rewritten; none where the key is absent. -/
def kept (members : Members) (key : String) (f : Json → Json) : Members :=
  optionalMember key (members.lookup key) f

/-- The member under a key, its value rewritten; none where the value has not the property `p`. -/
def keptIf (members : Members) (key : String) (p : Json → Bool) (f : Json → Json) : Members :=
  optionalMember key ((members.lookup key).filter p) f

/-- Name and type, and that a value is required if it is.  A null field requires none. -/
def normalHead (members : Members) : Members :=
  members.kept "name" id ++ members.kept "type" id ++
    if members.kind? = some .null then [] else members.keptIf "required" Json.isTrue id

/-- The limits on a number, which are rewritten. -/
def normalLimits (members : Members) (f : Json → Json) : Members :=
  members.kept "min" f ++ members.kept "max" f ++ members.kept "positive" id ++
    members.kept "ranges" (Json.onItems (Json.onEnds f))

/-- The limits on a number of characters or items.  A negative one is none. -/
def normalLengths (members : Members) : Members :=
  members.keptIf "min_length" (!·.isNegative) Json.asInteger ++
    members.keptIf "max_length" (!·.isNegative) Json.asInteger

/-- The keys of a kind that hold no specs. -/
def normalRules (members : Members) : Kind → Members
  | .integer => members.normalLimits Json.asInteger
  | .float => members.normalLimits Json.asBinary
  | .string => members.normalLengths ++ members.kept "format" id ++ members.kept "choices" id
  | .boolean => members.kept "value" id
  | .array => members.normalLengths
  | .object | .null => []

end Members

/-! The specs under the keys of an object are smaller than it, so that rewriting them ends. -/

lemma Members.sizeOf_lt_of_lookup {members : Members} {key : String} {value : Json}
    (h : members.lookup key = some value) : sizeOf value < sizeOf (Json.object members) := by
  have hlt := sizeOf_lookup_lt h
  simp only [Json.object.sizeOf_spec]
  omega

/-- The spec of a single item is smaller than the spec around it. -/
lemma Members.sizeOf_lt_of_mem_tupleItems {members : Members} {spec : Json}
    (h : spec ∈ members.tupleItems) : sizeOf spec < sizeOf (Json.object members) := by
  obtain ⟨specs, hlookup, hspec⟩ := lookup_of_mem_tupleItems h
  have hlt := sizeOf_lt_of_mem_list hlookup hspec
  simp only [Json.object.sizeOf_spec]
  omega

lemma Members.sizeOf_lt_of_mem_fieldItems {members : Members} {spec : Json}
    (h : spec ∈ members.fieldItems) : sizeOf spec < sizeOf (Json.object members) := by
  obtain ⟨specs, hlookup, hspec⟩ := lookup_of_mem_fieldItems h
  have hlt := sizeOf_lt_of_mem_list hlookup hspec
  simp only [Json.object.sizeOf_spec]
  omega

mutual

/-- **The normal form of a field spec.** -/
def normalSpec (spec : Json) : Json :=
  match spec with
  | .object members =>
    .object (Members.normalHead members ++
      match Members.kind? members with
      | some .array =>
        Members.normalLengths members ++
          (match _ : members.lookup "items" with
          | some item => [("items", normalSpec item)]
          | none => []) ++
          if Members.tupleItems members = [] then []
          else [("fix_items", .array ((Members.tupleItems members).attach.map fun spec =>
            normalSpec spec.1))]
      | some .object =>
        match _ : members.lookup "schema" with
        | some document => [("schema", normalDocument document)]
        | none => []
      | some kind => Members.normalRules members kind
      | none => [])
  | spec => spec
termination_by sizeOf spec
decreasing_by
  · exact Members.sizeOf_lt_of_lookup ‹_›
  · exact Members.sizeOf_lt_of_mem_tupleItems spec.2
  · exact Members.sizeOf_lt_of_lookup ‹_›

/-- **The normal form of a schema document.** -/
def normalDocument (document : Json) : Json :=
  match document with
  | .object members =>
    .object (Members.keptIf members "strict" Json.isTrue id ++
      [("fields", .array ((Members.fieldItems members).attach.map fun spec => normalSpec spec.1))])
  | document => document
termination_by sizeOf document
decreasing_by
  exact Members.sizeOf_lt_of_mem_fieldItems spec.2

end

/-- The specs below a field spec of a kind, in normal form. -/
def Members.normalBelow (members : Members) : Kind → Members
  | .array => members.kept "items" normalSpec ++
    if members.tupleItems = [] then []
    else [("fix_items", .array (members.tupleItems.map normalSpec))]
  | .object => members.kept "schema" normalDocument
  | _ => []

/-- The normal form of a field spec: its head, its rules, and then what is below. -/
lemma normalSpec_object (members : Members) :
    normalSpec (.object members) = .object (members.normalHead ++
      (members.kind?.map fun kind => members.normalRules kind ++ members.normalBelow kind).getD
        []) := by
  rw [normalSpec, List.map_subtype fun _ _ => rfl, List.unattach_attach]
  cases hkind : members.kind? with
  | none => simp
  | some kind =>
      rw [Option.map_some, Option.getD_some]
      cases kind <;> simp only [Members.normalRules, Members.normalBelow, Members.kept,
        List.append_nil, List.nil_append, List.append_assoc]
      · cases members.lookup "items" <;> rfl
      · cases members.lookup "schema" <;> rfl

lemma normalSpec_of_not_object {spec : Json} (h : ∀ members, spec ≠ .object members) :
    normalSpec spec = spec := by
  rw [normalSpec]
  exact h

lemma normalDocument_object (members : Members) :
    normalDocument (.object members) =
      .object (members.keptIf "strict" Json.isTrue id ++
        [("fields", .array (members.fieldItems.map normalSpec))]) := by
  rw [normalDocument, List.map_subtype fun _ _ => rfl, List.unattach_attach]

lemma normalDocument_of_not_object {document : Json} (h : ∀ members, document ≠ .object members) :
    normalDocument document = document := by
  rw [normalDocument]
  exact h

end SchemaCheck
