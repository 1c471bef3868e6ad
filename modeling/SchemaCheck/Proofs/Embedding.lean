import Mathlib
import SchemaCheck.Proofs.Congruence

/-!
# Objects embedded as texts

An object field looks at an object, or at the object that a text spells, and cannot tell which.

* `Field.memberFields` and `Field.itemField?`: the fields that look at what is inside a value.
* `Reencoded`: a value in which objects are replaced by texts that spell them, given the fields that
  look at the value.  Objects inside replaced ones may be replaced as well.
* `Reencoded.validate_eq`, by induction on the replacements: the fields that look at both values
  find the same violations.
* `Schema.validate_reencoded`: so does a schema, of whose documents the roots are not replaced.
-/

namespace SchemaCheck

/-- The fields that look at the member under a key of an object.  Those of a strict schema look at
no member of an object with undeclared keys. -/
def Field.memberFields : Field → List (String × Json) → String → List Field
  | .object _ _ schema, members, key =>
    if schema.strayKeys (.object members) = [] then schema.fields.filter (·.name = key) else []
  | _, _, _ => []

/-- **Replacing objects by texts.**  The fields are those that look at the value.  Where they are
object fields and nothing else, an object may give way to a text that spells it, as it stands after
what is inside it has been replaced. -/
inductive Reencoded : List Field → Json → Json → Prop
  | same {fields : List Field} (value : Json) : Reencoded fields value value
  | array {fields : List Field} {items items' : List Json} :
      items.length = items'.length →
      (∀ (i : Nat) x y, items[i]? = some x → items'[i]? = some y →
        Reencoded (fields.filterMap (·.itemField? items.length i)) x y) →
      Reencoded fields (.array items) (.array items')
  | object {fields : List Field} {members members' : List (String × Json)} :
      members.map Prod.fst = members'.map Prod.fst →
      (∀ (i : Nat) key x y, members[i]? = some (key, x) → members'[i]? = some (key, y) →
        Reencoded (fields.flatMap (·.memberFields members key)) x y) →
      Reencoded fields (.object members) (.object members')
  | text {fields : List Field} {members members' : List (String × Json)} {text : String} :
      (∀ field ∈ fields, field.kind = .object) →
      Reencoded fields (.object members) (.object members') →
      Json.readText text = .ok (.object members') →
      Reencoded fields (.object members) (.string text)

/-- Replacing objects in a document, which is looked at as an object field would look at it, but is
not replaced itself. -/
def Schema.ReencodedBelow (schema : Schema) (document document' : Json) : Prop :=
  Reencoded [.object "" false schema] document document' ∧
    ∀ text, document' = .string text → document = document'

/-! ### Replaced values -/

/-- An object field does not tell an object from a text that spells it. -/
lemma Field.validate_text {members : List (String × Json)} {text : String}
    (htext : Json.readText text = .ok (.object members)) {field : Field}
    (hkind : field.kind = .object) :
    field.validate (.string text) = field.validate (.object members) := by
  cases field with
  | object name required schema =>
      rw [validate_object (by simp), validate_object (by simp)]
      simp [embedded, htext]
  | _ => cases hkind

/-- The schema of a field that looks at two objects finds the same in both. -/
lemma Schema.validate_eq_of_readers {fields : List Field} {members members' : List (String × Json)}
    (hkeys : members.map Prod.fst = members'.map Prod.fst)
    (h : ∀ (i : Nat) key x y, members[i]? = some (key, x) → members'[i]? = some (key, y) →
      ∀ field ∈ fields.flatMap (·.memberFields members key), field.validate x = field.validate y)
    {name : String} {required : Bool} {schema : Schema}
    (hmem : Field.object name required schema ∈ fields) :
    schema.validate (.object members) = schema.validate (.object members') := by
  refine validate_eq_of_members hkeys fun hstray field hfield i x y hx hy => ?_
  refine h i field.name x y hx hy field (List.mem_flatMap.2 ⟨_, hmem, ?_⟩)
  rw [Field.memberFields, if_pos hstray]
  simpa using hfield

/-- **The fields that look at a value find the same** after objects in it have been replaced. -/
theorem Reencoded.validate_eq {fields : List Field} {value value' : Json}
    (h : Reencoded fields value value') :
    ∀ field ∈ fields, field.validate value = field.validate value' := by
  induction h with
  | same value => exact fun _ _ => rfl
  | array hlength hitems ih =>
      intro field hmem
      refine field.validate_array_congr hlength fun i item x y hitem hx hy => ?_
      exact ih i x y hx hy item (List.mem_filterMap.2 ⟨field, hmem, hitem⟩)
  | object hkeys hmembers ih =>
      intro field hmem
      refine field.validate_object_congr ?_
      rintro name required schema rfl
      exact Schema.validate_eq_of_readers hkeys ih hmem
  | text hkind _ htext ih =>
      intro field hmem
      rw [ih field hmem, Field.validate_text htext (hkind field hmem)]

/-- **Objects and texts that spell them** are validated alike: replacing any objects that only
object fields look at, below the root, leaves the violations as they are. -/
theorem Schema.validate_reencoded (schema : Schema) (document document' : Json)
    (h : schema.ReencodedBelow document document') :
    schema.validate document = schema.validate document' := by
  obtain ⟨hreencoded, hroot⟩ := h
  cases hreencoded with
  | same => rfl
  | array hlength hitems =>
      exact schema.validate_eq_of_not_object (by simp) (by simp)
  | object hkeys hmembers =>
      exact validate_eq_of_readers hkeys
        (fun i key x y hx hy => (hmembers i key x y hx hy).validate_eq) List.mem_cons_self
  | text _ _ _ => cases hroot _ rfl

/-- An object in a list, and another one in it, each replaced by a text. -/
theorem Schema.validate_reencoded_nested :
    let cell : Schema := ⟨[.integer "n" true {}], true⟩
    let row : Field := .object "row" false ⟨[.object "cell" true cell], false⟩
    let schema : Schema := ⟨[.list "rows" false {} row], false⟩
    let document : Json :=
      .object [("rows", .array [.object [("cell", .object [("n", .bool true)])]])]
    let document' : Json := .object [("rows",
      .array [.string "\x7b\"cell\": \"\x7b\\\"n\\\": true\x7d\"\x7d"])]
    schema.ReencodedBelow document document' ∧
      schema.validate document = schema.validate document' ∧
      schema.validate document =
        [⟨[.key "rows", .index 0, .key "cell", .key "n"], "n", .wrongKind .integer .boolean⟩] := by
  intro cell row schema document document'
  have hinner : Json.readText "\x7b\"n\": true\x7d" = .ok (.object [("n", .bool true)]) := by cbv
  have houter : Json.readText "\x7b\"cell\": \"\x7b\\\"n\\\": true\x7d\"\x7d" =
      .ok (.object [("cell", .string "\x7b\"n\": true\x7d")]) := by cbv
  have hcell : Reencoded [.object "cell" true cell] (.object [("n", .bool true)])
      (.string "\x7b\"n\": true\x7d") := .text (by simp [Field.kind]) (.same _) hinner
  have hwithin : Reencoded [row] (.object [("cell", .object [("n", .bool true)])])
      (.object [("cell", .string "\x7b\"n\": true\x7d")]) := by
    refine .object rfl ?_
    rintro (_ | i) key x y hx hy
    · cases hx
      cases hy
      exact hcell
    · cases hx
  have hrow : Reencoded [row] (.object [("cell", .object [("n", .bool true)])])
      (.string "\x7b\"cell\": \"\x7b\\\"n\\\": true\x7d\"\x7d") :=
    .text (by simp [row, Field.kind]) hwithin houter
  have hdocument : schema.ReencodedBelow document document' := by
    refine ⟨.object rfl ?_, by simp [document']⟩
    rintro (_ | i) key x y hx hy
    · cases hx
      cases hy
      refine .array rfl ?_
      rintro (_ | i) x y hx hy
      · cases hx
        cases hy
        exact hrow
      · cases hx
    · cases hx
  exact ⟨hdocument, schema.validate_reencoded document document' hdocument, by cbv⟩

end SchemaCheck
