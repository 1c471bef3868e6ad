import Mathlib.Data.List.Forall2
import Mathlib.Tactic.Common
import SchemaCheck.Proofs.Congruence
import SchemaCheck.Proofs.Visits

/-!
# What a schema observes

Two documents that a schema cannot tell apart have the same violations.

* `Field.Agree` and `Schema.Agree`: two values agree for a field, and two documents for a schema, by
  recursion on the schema.  Nothing but the undeclared keys of strict schemas and the values under
  declared keys counts, and an absent key counts as null.
* `Field.validate_eq_of_agree`, by induction on the field: values that agree have the same
  violations.
* `Schema.agree_of_bare`, `Schema.agree_erase_undeclared`, `Schema.agree_erase_null`: documents
  without members agree, and so do documents that differ in a member that does not count.
* `Schema.validate_agree`: all of this together.
-/

namespace SchemaCheck

/-! ### Agreement -/

mutual

/-- **Agreement of two values for a field.**  They are identical; or both are objects that agree for
the schema of an object field; or both are arrays of one length, whose items agree for the item
fields. -/
def Field.Agree : Field → Json → Json → Prop
  | .list _ _ _ item, value, value' =>
    value = value' ∨ ∃ items items', value = .array items ∧ value' = .array items' ∧
      List.Forall₂ item.Agree items items'
  | .tuple _ _ _ fields, value, value' =>
    value = value' ∨ ∃ items items', value = .array items ∧ value' = .array items' ∧
      items.length = items'.length ∧ agreeEach fields items items'
  | .object _ _ schema, value, value' =>
    value = value' ∨ ∃ members members', value = .object members ∧ value' = .object members' ∧
      schema.Agree (.object members) (.object members')
  | _, value, value' => value = value'

/-- **Agreement of two documents for a schema.**  The values at the name of each field agree, null
standing for what is absent.  If the schema is strict, the documents also have the same undeclared
keys; it is enough that neither has any. -/
def Schema.Agree : Schema → Json → Json → Prop
  | ⟨fields, strict⟩, document, document' =>
    Schema.strayKeys ⟨fields, strict⟩ document = Schema.strayKeys ⟨fields, strict⟩ document' ∧
      agreeMembers fields document document'

/-- The values at the name of each field agree. -/
def agreeMembers : List Field → Json → Json → Prop
  | [], _, _ => True
  | field :: fields, document, document' =>
    field.Agree (document.valueAt field.name) (document'.valueAt field.name) ∧
      agreeMembers fields document document'

/-- The items agree, each pair for the field in its place. -/
def agreeEach : List Field → List Json → List Json → Prop
  | field :: fields, item :: items, item' :: items' =>
    field.Agree item item' ∧ agreeEach fields items items'
  | _, _, _ => True

end

/-- The document has no members: it is no object, or the object without any. -/
def Json.Bare (document : Json) : Prop := ∀ members, document = .object members → members = []

lemma agreeMembers_iff {fields : List Field} {document document' : Json} :
    agreeMembers fields document document' ↔
      ∀ field ∈ fields,
        field.Agree (document.valueAt field.name) (document'.valueAt field.name) := by
  induction fields with
  | nil => simp [agreeMembers]
  | cons field fields ih => rw [agreeMembers, ih, List.forall_mem_cons]

/-- Items that agree one by one agree place by place. -/
lemma Field.Agree.of_agreeEach {fields : List Field} {items items' : List Json}
    (h : agreeEach fields items items') {i : Nat} {field : Field} {x y : Json}
    (hfield : fields[i]? = some field) (hx : items[i]? = some x) (hy : items'[i]? = some y) :
    field.Agree x y := by
  induction fields generalizing i items items' with
  | nil => cases hfield
  | cons first fields ih =>
      rcases items with _ | ⟨item, items⟩
      · cases hx
      rcases items' with _ | ⟨item', items'⟩
      · cases hy
      rw [agreeEach] at h
      cases i with
      | zero =>
          obtain rfl := Option.some.inj hfield
          obtain rfl := Option.some.inj hx
          obtain rfl := Option.some.inj hy
          exact h.1
      | succ i => exact ih h.2 hfield hx hy

lemma Field.Agree.refl (field : Field) (value : Json) : field.Agree value value := by
  cases field with
  | list => exact .inl rfl
  | tuple => exact .inl rfl
  | object => exact .inl rfl
  | _ => exact rfl

/-! ### Agreement is all that counts -/

lemma Schema.validate_eq_of_agree_of_fields {schema : Schema}
    (h : ∀ field ∈ schema.fields, ∀ value value', field.Agree value value' →
      field.validate value = field.validate value')
    {document document' : Json} (hagree : schema.Agree document document') :
    schema.validate document = schema.validate document' := by
  obtain ⟨fields, strict⟩ := schema
  obtain ⟨hstray, hmembers⟩ := hagree
  rw [strayKeys_eq, strayKeys_eq] at hstray
  exact validate_congr hstray fun _ field hfield =>
    h field hfield _ _ (agreeMembers_iff.1 hmembers field hfield)

/-- **Values that agree for a field have the same violations.** -/
theorem Field.validate_eq_of_agree (field : Field) (value value' : Json)
    (h : field.Agree value value') : field.validate value = field.validate value' := by
  induction field using Field.ind generalizing value value' with
  | list name required lengths item ih =>
      rcases h with rfl | ⟨items, items', rfl, rfl, hitems⟩
      · rfl
      · obtain ⟨hlength, hitems⟩ := List.forall₂_iff_get.1 hitems
        refine validate_array_congr _ hlength ?_
        rintro i _ x y ⟨⟩ hx hy
        obtain ⟨hi, rfl⟩ := List.getElem?_eq_some_iff.1 hx
        obtain ⟨hi', rfl⟩ := List.getElem?_eq_some_iff.1 hy
        exact ih _ _ (hitems i hi hi')
  | tuple name required lengths fields ih =>
      rcases h with rfl | ⟨items, items', rfl, rfl, hlength, hitems⟩
      · rfl
      · refine validate_array_congr _ hlength fun i field x y hitem hx hy => ?_
        obtain ⟨-, hfield⟩ := Option.ite_none_right_eq_some.1 hitem
        exact ih field (List.mem_of_getElem? hfield) x y (.of_agreeEach hitems hfield hx hy)
  | object name required schema ih =>
      rcases h with rfl | ⟨members, members', rfl, rfl, hagree⟩
      · rfl
      · refine validate_object_congr _ ?_
        rintro _ _ _ ⟨⟩
        exact Schema.validate_eq_of_agree_of_fields ih hagree
  | _ => exact congrArg _ h

/-! ### What does not count -/

/-- Documents without members agree: those that are no objects, and the object without any. -/
lemma Schema.agree_of_bare (schema : Schema) {document document' : Json} (h : document.Bare)
    (h' : document'.Bare) : schema.Agree document document' := by
  obtain ⟨fields, strict⟩ := schema
  have hnone : ∀ document : Json, document.Bare →
      Schema.strayKeys ⟨fields, strict⟩ document = [] ∧ ∀ key, document.valueAt key = .null := by
    intro document hbare
    cases document with
    | object members =>
        obtain rfl := hbare members rfl
        exact ⟨by simp [strayKeys], fun key => rfl⟩
    | _ => exact ⟨rfl, fun key => rfl⟩
  obtain ⟨hstray, hnull⟩ := hnone document h
  obtain ⟨hstray', hnull'⟩ := hnone document' h'
  refine ⟨hstray.trans hstray'.symm, agreeMembers_iff.2 fun field _ => ?_⟩
  rw [hnull, hnull']
  exact .refl field .null

section Erase

variable {before after : List (String × Json)} {key : String}

lemma Json.valueAt_erase {other : String} (h : other ≠ key) (value : Json) :
    (Json.object (before ++ (key, value) :: after)).valueAt other =
      (Json.object (before ++ after)).valueAt other := by
  have hne : (other == key) = false := by simpa using h
  simp [valueAt, member?, List.lookup_append, List.lookup_cons, hne]

/-- A member under a key that is not declared does not count, unless the schema is strict. -/
lemma Schema.agree_erase_undeclared {schema : Schema} (hstrict : schema.strict = false)
    (hfree : ∀ field ∈ schema.fields, field.name ≠ key) (value : Json) :
    schema.Agree (.object (before ++ (key, value) :: after)) (.object (before ++ after)) := by
  obtain ⟨fields, strict⟩ := schema
  obtain rfl : strict = false := hstrict
  refine ⟨rfl, agreeMembers_iff.2 fun field hfield => ?_⟩
  rw [Json.valueAt_erase (hfree field hfield)]
  exact .refl field _

/-- Null under a key that is declared does not count, strict or not. -/
lemma Schema.agree_erase_null {schema : Schema} (hdeclared : ∃ field ∈ schema.fields,
    field.name = key) (honce : key ∉ after.map Prod.fst) :
    schema.Agree (.object (before ++ (key, .null) :: after)) (.object (before ++ after)) := by
  obtain ⟨fields, strict⟩ := schema
  refine ⟨?_, agreeMembers_iff.2 fun field hfield => ?_⟩
  · cases strict with
    | false => rfl
    | true =>
        obtain ⟨field, hfield, rfl⟩ := hdeclared
        have hknown : field.name ∈ fields.map Field.name := List.mem_map_of_mem hfield
        simp [strayKeys, -List.mem_map, hknown]
  · by_cases hname : field.name = key
    · have hnone : after.lookup key = none := by
        rw [List.lookup_eq_none_iff]
        intro member hmember
        have hne : key ≠ member.1 := fun heq => honce (heq ▸ List.mem_map_of_mem hmember)
        simpa using hne
      have hvalue : (Json.object (before ++ (key, .null) :: after)).valueAt key =
          (Json.object (before ++ after)).valueAt key := by
        simp only [Json.valueAt, Json.member?, List.lookup_append, List.lookup_cons_self, hnone]
        cases before.lookup key <;> rfl
      rw [hname, hvalue]
      exact .refl field _
    · rw [Json.valueAt_erase hname]
      exact .refl field _

end Erase

/-- **Noninterference.**  Documents that agree for a schema have the same violations.  Documents
without members agree, and so do two that differ in one member, where this is under an undeclared
key of a schema that is not strict, or is null under a declared key of any schema. -/
theorem Schema.validate_agree (schema : Schema) :
    (∀ document document', schema.Agree document document' →
      schema.validate document = schema.validate document') ∧
    (∀ document document' : Json, document.Bare → document'.Bare →
      schema.Agree document document') ∧
    (∀ before after key value, schema.strict = false → (∀ field ∈ schema.fields, field.name ≠ key) →
      schema.Agree (.object (before ++ (key, value) :: after)) (.object (before ++ after))) ∧
    ∀ before after key, (∃ field ∈ schema.fields, field.name = key) → key ∉ after.map Prod.fst →
      schema.Agree (.object (before ++ (key, .null) :: after)) (.object (before ++ after)) := by
  refine ⟨fun document document' h => ?_, fun document document' h h' => ?_,
    fun before after key value hstrict hfree => ?_, fun before after key hdeclared honce => ?_⟩
  · exact validate_eq_of_agree_of_fields (fun field _ => field.validate_eq_of_agree) h
  · exact schema.agree_of_bare h h'
  · exact agree_erase_undeclared hstrict hfree value
  · exact agree_erase_null hdeclared honce

/-- A declared key of a strict schema that is null or absent, and undeclared keys at the root and in
the item of a list. -/
theorem Schema.validate_agree_levels :
    let home : Schema := ⟨[.integer "zip" true {}], true⟩
    let tag : Schema := ⟨[.string "text" false {}], false⟩
    let schema : Schema :=
      ⟨[.object "home" false home, .list "tags" false {} (.object "tag" false tag)], false⟩
    let document : Json := .object [("home", .object [("zip", .null)]), ("note", .bool true),
      ("tags", .array [.object [("colour", .bool true)]])]
    let document' : Json := .object [("tags", .array [.object []]), ("home", .object [])]
    schema.Agree (.bool true) (.object []) ∧ schema.Agree document document' ∧
      schema.validate document = schema.validate document' ∧
      schema.validate document' = [⟨[.key "home", .key "zip"], "zip", .required⟩] := by
  intro home tag schema document document'
  have hbare : schema.Agree (.bool true) (.object []) :=
    (validate_agree schema).2.1 _ _ (by simp [Json.Bare]) (by simp [Json.Bare])
  have hhome : home.Agree (.object [("zip", .null)]) (.object []) :=
    (validate_agree home).2.2.2 [] [] "zip" ⟨_, List.mem_cons_self, rfl⟩ List.not_mem_nil
  have htag : tag.Agree (.object [("colour", .bool true)]) (.object []) :=
    (validate_agree tag).2.2.1 [] [] "colour" _ rfl (by simp [tag, Field.name])
  have hagree : schema.Agree document document' :=
    ⟨rfl, .inr ⟨_, _, rfl, rfl, hhome⟩,
      .inr ⟨_, _, rfl, rfl, .cons (.inr ⟨_, _, rfl, rfl, htag⟩) .nil⟩, trivial⟩
  exact ⟨hbare, hagree, (validate_agree schema).1 _ _ hagree, rfl⟩

end SchemaCheck
