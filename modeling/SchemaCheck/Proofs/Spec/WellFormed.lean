import SchemaCheck.Proofs.Spec.Normal

/-!
# Well-formed fields

What reading a document makes sure of in every field of the tree, however deep.

* `Field.WellFormed`: the name is usable, the limits are numbers of the sizes that limits have, a
  tuple has items, and the pattern of a text is one that can be read.
* `Members.Describe.wellFormed`: a field is well formed where the members of a spec describe it.
* `ofSpec_wellFormed`: every field that comes of a document is well formed, and what is written for
  the whole is read as the same field or schema again.
-/

namespace SchemaCheck

/-- The pattern that a field holds texts against. -/
def Field.format? : Field → Option Pattern
  | .string _ _ rules => rules.format
  | _ => none

/-- **Well-formed fields**: what the field itself sets can be written, and its pattern, if it has
one, is what the source of the pattern is read as. -/
structure Field.WellFormed (field : Field) : Prop where
  writable : field.Writable
  format : ∀ pattern, field.format? = some pattern →
    Pattern.ofSource? pattern.source = some pattern

/-- A field that is described within 64 bits is well formed. -/
lemma Members.Describe.wellFormed {members : Members} {field : Field}
    (hmembers : (Json.object members).WithinWords) (h : members.Describe field) :
    field.WellFormed where
  writable := h.writable (h.finiteLimits hmembers)
  format pattern _ := pattern.ofSource?_source

/-- Every field below one that is read is well formed. -/
lemma Field.wellFormed_of_ofSpec {document : Json} {field : Field}
    (hdocument : document.WithinWords) (h : Field.ofSpec document = .ok field) :
    field.Everywhere WellFormed :=
  everywhere_of_ofSpec Json.hereditary_withinWords
    (fun _ _ hmembers hdescribe => hdescribe.wellFormed hmembers) document hdocument h

lemma Schema.wellFormed_of_ofSpec {document : Json} {schema : Schema}
    (hdocument : document.WithinWords) (h : Schema.ofSpec document = .ok schema) :
    schema.Everywhere Field.WellFormed :=
  everywhere_of_ofSpec Json.hereditary_withinWords
    (fun _ _ hmembers hdescribe => hdescribe.wellFormed hmembers) hdocument h

/-- A field that is well formed throughout can be described by a spec. -/
lemma Field.representable_of_wellFormed {field : Field} (h : field.Everywhere WellFormed) :
    field.Representable :=
  .mp (everywhere_of_forall fun _ hfield => hfield.writable) h

lemma Schema.representable_of_wellFormed {schema : Schema}
    (h : schema.Everywhere Field.WellFormed) : schema.Representable := by
  obtain ⟨fields, strict⟩ := schema
  rw [representable_iff]
  exact fun field hfield => Field.representable_of_wellFormed (everyField_iff.1 h field hfield)

/-- **Whatever is read is well formed**, in every field of the tree, and so what is written for it
is read again and gives the same: this holds of a field spec and of a schema document, where the
integers in them take at most 64 bits. -/
theorem ofSpec_wellFormed {document : Json} (hdocument : document.WithinWords) :
    (∀ field, Field.ofSpec document = .ok field →
      field.Everywhere Field.WellFormed ∧ Field.ofSpec field.toSpec = .ok field) ∧
    ∀ schema, Schema.ofSpec document = .ok schema →
      schema.Everywhere Field.WellFormed ∧ Schema.ofSpec schema.toSpec = .ok schema := by
  constructor
  · intro field h
    have hfield := Field.wellFormed_of_ofSpec hdocument h
    have hback := (field.restores_toSpec field).2 ⟨Field.representable_of_wellFormed hfield, rfl⟩
    exact ⟨hfield, hback⟩
  · intro schema h
    have hschema := Schema.wellFormed_of_ofSpec hdocument h
    have hback := (schema.restores_toSpec schema).2
      ⟨Schema.representable_of_wellFormed hschema, rfl⟩
    exact ⟨hschema, hback⟩

/-- A tuple of an object with a float field and of a text with limits on its length, one of which is
negative and the other the largest there is. -/
theorem ofSpec_wellFormed_nested :
    let half : Binary64.Finite :=
      ⟨false, Nat.pow 2 52, 1021, by decide, by decide, .inl (Nat.le_refl _)⟩
    let document : Json := .object [("fields", .array [
      .object [("type", .string "array"), ("name", .string "a"), ("fix_items", .array [
        .object [("name", .string "b"), ("type", .string "object"),
          ("schema", .object [("fields", .array [.object [("name", .string "c"),
            ("type", .string "float"), ("min", .number (.float half))]])])],
        .object [("name", .string "d"), ("type", .string "string"),
          ("min_length", .number (.whole (-1))),
          ("max_length", .number (.whole 9223372036854775807))]])]])]
    let schema : Schema := ⟨[.tuple "a" false {} [
      .object "b" false ⟨[.float "c" false { min := some (.finite half) }], false⟩,
      .string "d" false { maxLength := some 9223372036854775807 }]], false⟩
    Schema.ofSpec document = .ok schema ∧ document.WithinWords ∧
      schema.Everywhere Field.WellFormed ∧ Schema.ofSpec schema.toSpec = .ok schema := by
  intro half document schema
  have hread : Schema.ofSpec document = .ok schema := by cbv
  have hwords : document.WithinWords := by
    simp [document, Json.WithinWords, Json.Everywhere, Json.everyItem, Json.everyMember,
      Json.Number.InWords]
  exact ⟨hread, hwords, (ofSpec_wellFormed hwords).2 schema hread⟩

end SchemaCheck
