import Mathlib.Data.List.Basic
import Mathlib.Tactic.Common
import SchemaCheck.Proofs.Spec.Keys
import SchemaCheck.Proofs.Spec.Structure

/-!
# The listing of defects

The defects of a schema document, spec by spec, and the agreement of reading with that listing.

* `SpecSite`: a spec in a document, with the path to it.  `SpecSite.defects` are its own defects,
  found by looking up its keys, and `SpecSite.children` the specs right below it, which depend on
  the kind of a field and on nothing that is wrong with it.
* `SpecSite.preorder`: a spec and all specs below it, each before those below it.
  `SpecSite.errors` lists their defects in that order, each with the path of its spec.
* `lists`: reading a field spec or a schema document finds exactly the listed defects.  The lemmas
  `Members.errors_*` before it say so of the parts of a field; the induction follows the specs
  below.
-/

namespace SchemaCheck

/-! ### The defects of one spec -/

namespace Members

/-- The kind that the type of a spec names. -/
def kind? (members : Members) : Option Kind :=
  match members.lookup "type" with
  | some (.string word) => Kind.ofName? word
  | _ => none

/-- The defect of the type of a spec. -/
def typeDefects (members : Members) : List Defect :=
  match members.lookup "type" with
  | none => [.missingType]
  | some (.string word) => if Kind.ofName? word = none then [.unknownType word] else []
  | some _ => [.typeNotString]

/-- The defect of the name of a spec, which is a string and not empty. -/
def nameDefects (members : Members) : List Defect :=
  match members.lookup "name" with
  | some (.string name) => if name = "" then [.missingName] else []
  | _ => [.missingName]

/-- The defects of the limits on a number, which are values of the sort `P`. -/
def limitDefects (members : Members) (expected : String) (P : Json → Prop) [DecidablePred P] :
    List Defect :=
  members.misfit "min" expected P ++ members.misfit "max" expected P ++
    members.misfit "positive" "a boolean" Json.IsBoolean ++
    members.misfit "ranges" "a list of \x7b\"start\", \"end\"\x7d objects"
      (Json.IsListOf (Json.IsRangeOf P))

/-- The defects of the limits on a number of characters or items. -/
def lengthDefects (members : Members) : List Defect :=
  members.misfit "min_length" "an integer" Json.IsInt64 ++
    members.misfit "max_length" "an integer" Json.IsInt64

/-- The defects of the pattern for a string. -/
def formatDefects (members : Members) : List Defect :=
  match members.lookup "format" with
  | none => []
  | some (.string source) =>
    if Pattern.ofSource? source = none then [.invalidPattern source Pattern.refusal] else []
  | some _ => [.invalidValue "format" "a string"]

/-- The defect of an array field that has no specs for its items, or has both sorts. -/
def itemsDefects (members : Members) : List Defect :=
  match members.lookup "items", members.tupleItems with
  | none, [] => [.missingItems]
  | some _, _ :: _ => [.conflictingItems]
  | _, _ => []

/-- The defects of the keys that belong to a kind. -/
def kindDefects (members : Members) : Kind → List Defect
  | .integer => members.limitDefects "an integer" Json.IsInt64
  | .float => members.limitDefects "a number" Json.IsNumber
  | .string =>
    members.lengthDefects ++ members.formatDefects ++
      members.misfit "choices" "a list of strings" (Json.IsListOf Json.IsString)
  | .boolean => members.misfit "value" "a boolean" Json.IsBoolean
  | .array =>
    members.misfit "fix_items" "a list of field specs" Json.IsArray ++ members.lengthDefects ++
      members.itemsDefects
  | .object => if members.lookup "schema" = none then [.missingSchema] else []
  | .null => []

/-- The own defects of a field spec: of its type, its name, and whether a value is required; and
where it is of a known kind, of the keys of that kind. -/
def specDefects (members : Members) : List Defect :=
  members.typeDefects ++ members.nameDefects ++
    members.misfit "required" "a boolean" Json.IsBoolean ++
    (members.kind?.map members.kindDefects).getD []

/-- The own defects of a schema document. -/
def documentDefects (members : Members) : List Defect :=
  members.misfit "strict" "a boolean" Json.IsBoolean ++
    match members.lookup "fields" with
    | none | some (.array _) => []
    | some _ => [.fieldsNotArray]

end Members

/-! ### Specs in a document -/

/-- What a value in a schema document is read as. -/
inductive SpecRole
  | field
  | document

/-- A spec in a schema document, and the path that leads to it. -/
structure SpecSite where
  path : Path
  role : SpecRole
  value : Json

/-- The field specs of a list, each by its name or else by its index. -/
def sitesInList (path : Path) (specs : List Json) : List SpecSite :=
  specs.zipIdx.map fun x => ⟨path ++ [specSegment x.1 x.2], .field, x.1⟩

namespace Members

/-- The spec for all items, under its name if it has one. -/
def itemSites (members : Members) (path : Path) : List SpecSite :=
  (members.lookup "items").toList.map fun spec =>
    ⟨path ++ .key "items" :: (nameSegment? spec).toList, .field, spec⟩

/-- The specs below a field spec: those for the items of an array field, whether or not there should
be both sorts, and the schema document of an object field. -/
def specSites (members : Members) (path : Path) : List SpecSite :=
  match members.kind? with
  | some .array =>
    members.itemSites path ++ sitesInList (path ++ [.key "fix_items"]) members.tupleItems
  | some .object =>
    (members.lookup "schema").toList.map fun document =>
      ⟨path ++ [.key "schema"], .document, document⟩
  | _ => []

/-- The field specs below a schema document. -/
def documentSites (members : Members) (path : Path) : List SpecSite :=
  match members.lookup "fields" with
  | some (.array specs) => sitesInList path specs
  | _ => []

end Members

lemma mem_of_mem_sitesInList {path : Path} {specs : List Json} {site : SpecSite}
    (h : site ∈ sitesInList path specs) : site.value ∈ specs := by
  obtain ⟨x, hx, rfl⟩ := List.mem_map.1 h
  exact List.fst_mem_of_mem_zipIdx hx

/-- The specs below an object are smaller, so that following them ends. -/
lemma Members.sizeOf_lt_of_mem_list {members : Members} {key : String} {specs : List Json}
    {spec : Json} (h : members.lookup key = some (.array specs)) (hspec : spec ∈ specs) :
    sizeOf spec < sizeOf members := by
  have hlist := sizeOf_lookup_lt h
  have hmem := List.sizeOf_lt_of_mem hspec
  simp only [Json.array.sizeOf_spec] at hlist
  omega

/-- The specs below a field spec are smaller than it. -/
lemma Members.sizeOf_lt_of_mem_specSites {members : Members} {path : Path} {site : SpecSite}
    (h : site ∈ members.specSites path) : sizeOf site.value < sizeOf members := by
  rw [specSites] at h
  split at h
  · rcases List.mem_append.1 h with h | h
    · obtain ⟨spec, hspec, rfl⟩ := List.mem_map.1 h
      exact sizeOf_lookup_lt (Option.mem_toList.1 hspec)
    · obtain ⟨specs, hlookup, hspec⟩ := lookup_of_mem_tupleItems (mem_of_mem_sitesInList h)
      exact sizeOf_lt_of_mem_list hlookup hspec
  · obtain ⟨document, hdocument, rfl⟩ := List.mem_map.1 h
    exact sizeOf_lookup_lt (Option.mem_toList.1 hdocument)
  · cases h

lemma Members.sizeOf_lt_of_mem_documentSites {members : Members} {path : Path} {site : SpecSite}
    (h : site ∈ members.documentSites path) : sizeOf site.value < sizeOf members := by
  rw [documentSites] at h
  split at h
  · next hlookup => exact sizeOf_lt_of_mem_list hlookup (mem_of_mem_sitesInList h)
  · cases h

namespace SpecSite

/-- The own defects of a spec. -/
def defects : SpecSite → List Defect
  | ⟨_, .field, .object members⟩ => Members.specDefects members
  | ⟨_, .field, value⟩ => [.fieldNotObject value.kind]
  | ⟨_, .document, .object members⟩ => Members.documentDefects members
  | ⟨_, .document, value⟩ => [.documentNotObject value.kind]

/-- The specs right below a spec. -/
def children : SpecSite → List SpecSite
  | ⟨path, .field, .object members⟩ => Members.specSites members path
  | ⟨path, .document, .object members⟩ => Members.documentSites members path
  | _ => []

/-- A spec is smaller than the one that it is right below. -/
lemma sizeOf_lt_of_mem_children {site child : SpecSite} (h : child ∈ site.children) :
    sizeOf child.value < sizeOf site.value := by
  obtain ⟨path, role, value⟩ := site
  cases role <;> cases value <;> try cases h
  case field.object members =>
    have hlt := Members.sizeOf_lt_of_mem_specSites h
    simp only [Json.object.sizeOf_spec]
    omega
  case document.object members =>
    have hlt := Members.sizeOf_lt_of_mem_documentSites h
    simp only [Json.object.sizeOf_spec]
    omega

/-- A spec and all specs below it, each before those below it. -/
def preorder (site : SpecSite) : List SpecSite :=
  site :: site.children.attach.flatMap fun child => preorder child.1
termination_by sizeOf site.value
decreasing_by exact sizeOf_lt_of_mem_children child.2

/-- The defects of a spec and of all specs below it, each with the path of its spec. -/
def errors (site : SpecSite) : List SpecError :=
  site.preorder.flatMap fun site => site.defects.map (SpecError.mk site.path)

lemma preorder_eq (site : SpecSite) :
    site.preorder = site :: site.children.flatMap preorder := by
  rw [preorder, List.flatMap_subtype fun _ _ => rfl, List.unattach_attach]

lemma errors_eq (site : SpecSite) :
    site.errors = site.defects.map (SpecError.mk site.path) ++ site.children.flatMap errors := by
  rw [errors, preorder_eq, List.flatMap_cons, List.flatMap_assoc]
  rfl

end SpecSite

/-! ### The defects found in the parts of a field -/

namespace Members

variable (members : Members)

/-- A kind is read where it is named, and else there is a defect. -/
lemma kind_eq :
    Members.kind members =
      match members.kind? with
      | some kind => .ok kind
      | none => .error (members.typeDefects.map SpecError.here) := by
  rw [Members.kind, kind?, typeDefects]
  generalize members.lookup "type" = value
  rcases value with _ | (_ | _ | _ | word | _ | _) <;> try rfl
  cases h : Kind.ofName? word <;> simp [Checked.defect, h]

lemma typeDefects_of_kind? {kind : Kind} (h : members.kind? = some kind) :
    members.typeDefects = [] := by
  rw [kind?] at h
  rw [typeDefects]
  generalize members.lookup "type" = value at h
  rcases value with _ | (_ | _ | _ | word | _ | _) <;> simp_all

lemma typeDefects_ne_nil (h : members.kind? = none) : members.typeDefects ≠ [] := by
  rw [kind?] at h
  rw [typeDefects]
  generalize members.lookup "type" = value at h
  rcases value with _ | (_ | _ | _ | word | _ | _) <;> simp_all

lemma errors_name : (Members.name members).errors = members.nameDefects.map SpecError.here := by
  rw [Members.name, Members.name?, nameDefects]
  generalize members.lookup "name" = value
  rcases value with _ | (_ | _ | _ | name | _ | _) <;> try rfl
  by_cases hempty : name = "" <;> simp [hempty]

lemma errors_flag (key : String) :
    (members.flag key).errors =
      (members.misfit key "a boolean" Json.IsBoolean).map SpecError.here := by
  rw [flag, Checked.errors_map, bool, errors_read Json.converts_bool?]

lemma errors_length (key : String) :
    (members.length key).errors =
      (members.misfit key "an integer" Json.IsInt64).map SpecError.here := by
  rw [length, Checked.errors_map]
  exact errors_read Json.converts_int64 members key "an integer"

/-- Reading the rules for numbers finds the defects of the limits. -/
lemma errors_rules {α : Type} [Limit α] {P : Json → Prop} [DecidablePred P]
    (h : Json.Converts (Limit.ofJson? : Json → Option α) P) :
    (Members.rules members : Checked (Rules α)).errors =
      (members.limitDefects (Limit.expected α) P).map SpecError.here := by
  simp only [Members.rules, limitDefects, Checked.errors_ap, Checked.errors_build, bool,
    errors_read h, errors_read Json.converts_bool?, errors_read (Json.converts_range? h).listOf,
    List.map_append, List.nil_append]

lemma errors_format :
    (Members.format members).errors = members.formatDefects.map SpecError.here := by
  rw [Members.format, formatDefects, Members.read]
  generalize members.lookup "format" = value
  rcases value with _ | (_ | _ | _ | source | _ | _) <;> try rfl
  cases h : Pattern.ofSource? source <;> simp [Json.string?, h]

lemma errors_textRules :
    (Members.textRules members).errors =
      (members.kindDefects .string).map SpecError.here := by
  simp only [Members.textRules, kindDefects, lengthDefects, Checked.errors_ap,
    Checked.errors_build, errors_length, errors_format,
    errors_read Json.converts_string?.listOf, List.map_append, List.nil_append, List.append_assoc]

lemma errors_lengths :
    (Members.lengths members).errors = members.lengthDefects.map SpecError.here := by
  simp only [Members.lengths, lengthDefects, Checked.errors_ap, Checked.errors_build,
    errors_length, List.map_append, List.nil_append]

lemma errors_tupleSpecs :
    (Members.tupleSpecs members).errors =
      (members.misfit "fix_items" "a list of field specs" Json.IsArray).map SpecError.here := by
  rw [tupleSpecs, Checked.errors_map, errors_read Json.converts_items?]

/-- Reading how items are described finds the defects of the description, and then those of the
specs. -/
lemma errors_itemsOfSpec :
    (itemsOfSpec members).errors =
      members.itemsDefects.map SpecError.here ++
        ((members.lookup "items").toList.flatMap fun spec => (itemOfSpec spec).errors) ++
        ((fieldsOfSpecs 0 members.tupleItems).within [.key "fix_items"]).errors := by
  rw [itemsOfSpec_eq, itemsDefects]
  cases members.lookup "items" <;> cases members.tupleItems <;> simp [fieldsOfSpecs_nil]

/-- Reading a field without specs below finds the defects of its keys, in their order. -/
lemma errors_simpleField {kind : Kind} (harray : kind ≠ .array) (hobject : kind ≠ .object) :
    (members.simpleField kind).errors =
      (members.nameDefects ++ members.misfit "required" "a boolean" Json.IsBoolean ++
        members.kindDefects kind).map SpecError.here := by
  have hint : (Members.rules members : Checked (Rules Int64)).errors =
      (members.limitDefects "an integer" Json.IsInt64).map SpecError.here :=
    errors_rules members Json.converts_int64
  have hnum : (Members.rules members : Checked (Rules Binary64)).errors =
      (members.limitDefects "a number" Json.IsNumber).map SpecError.here :=
    errors_rules members Json.converts_toBinary64
  cases kind <;> try contradiction
  all_goals
    simp only [simpleField, Checked.errors_ap, Checked.errors_build, errors_name, errors_flag,
      hint, hnum, errors_textRules, bool, errors_read Json.converts_bool?, kindDefects,
      List.map_append, List.nil_append, List.append_nil]

/-- Reading an array field finds the defects of its keys before those of the items. -/
lemma errors_arrayField (items : Checked ArrayOf) :
    (members.arrayField items).errors =
      (members.nameDefects ++ members.misfit "required" "a boolean" Json.IsBoolean ++
        members.misfit "fix_items" "a list of field specs" Json.IsArray ++
          members.lengthDefects).map SpecError.here ++ items.errors := by
  simp only [arrayField, Checked.errors_ap, Checked.errors_build, errors_name, errors_flag,
    errors_tupleSpecs, errors_lengths, List.map_append, List.nil_append]

lemma errors_objectField (schema : Checked Schema) :
    (members.objectField schema).errors =
      (members.nameDefects ++ members.misfit "required" "a boolean" Json.IsBoolean).map
        SpecError.here ++ schema.errors := by
  simp only [objectField, Checked.errors_ap, Checked.errors_build, errors_name, errors_flag,
    List.map_append, List.nil_append]

end Members

/-! ### The defects found in a document -/

namespace SpecError

/-- A defect at the root of a spec is at the path of the spec. -/
lemma within_comp_here (path : Path) : within path ∘ here = mk path := by
  funext defect
  simp [within, here]

lemma within_comp_within (path path' : Path) :
    within path ∘ within path' = within (path ++ path') := by
  funext error
  simp [within]

end SpecError

/-- The listing for a value as a field spec agrees with what is read of it. -/
def ListsField (value : Json) : Prop :=
  ∀ path, SpecSite.errors ⟨path, .field, value⟩ =
    (Field.ofSpec value).errors.map (SpecError.within path)

/-- The listing for a value as a schema document agrees with what is read of it. -/
def ListsDocument (value : Json) : Prop :=
  ∀ path, SpecSite.errors ⟨path, .document, value⟩ =
    (Schema.ofSpec value).errors.map (SpecError.within path)

/-- What is listed of the specs in a list is what reading them finds. -/
lemma flatMap_errors_sitesInList {specs : List Json} (h : ∀ spec ∈ specs, ListsField spec)
    (path : Path) :
    (sitesInList path specs).flatMap SpecSite.errors =
      (fieldsOfSpecs 0 specs).errors.map (SpecError.within path) := by
  rw [sitesInList, List.flatMap_map, errors_fieldsOfSpecs, List.map_flatMap]
  refine List.flatMap_congr fun x hx => ?_
  rw [h x.1 (List.fst_mem_of_mem_zipIdx hx), List.map_map, SpecError.within_comp_within]

/-- What is listed of the one spec for all items is what reading it finds. -/
lemma flatMap_errors_itemSites {members : Members}
    (h : ∀ spec, members.lookup "items" = some spec → ListsField spec) (path : Path) :
    (members.itemSites path).flatMap SpecSite.errors =
      ((members.lookup "items").toList.flatMap fun spec => (itemOfSpec spec).errors).map
        (SpecError.within path) := by
  cases hitems : members.lookup "items" with
  | none => simp [Members.itemSites, hitems]
  | some spec =>
      simp [Members.itemSites, hitems, itemOfSpec, h spec hitems _, SpecError.within_comp_within]

/-- What is listed below an array field is what reading its items finds. -/
lemma flatMap_errors_arraySites {members : Members} (hkind : members.kind? = some .array)
    (hitems : ∀ spec, members.lookup "items" = some spec → ListsField spec)
    (hfix : ∀ specs, members.lookup "fix_items" = some (.array specs) →
      ∀ spec ∈ specs, ListsField spec) (path : Path) :
    (members.itemsDefects.map (SpecError.mk path)) ++
      (members.specSites path).flatMap SpecSite.errors =
      (itemsOfSpec members).errors.map (SpecError.within path) := by
  have htuple : ∀ spec ∈ members.tupleItems, ListsField spec := by
    intro spec hspec
    obtain ⟨specs, hlookup, hmem⟩ := Members.lookup_of_mem_tupleItems hspec
    exact hfix specs hlookup spec hmem
  rw [Members.errors_itemsOfSpec]
  simp only [Members.specSites, hkind, List.flatMap_append, flatMap_errors_itemSites hitems,
    flatMap_errors_sitesInList htuple, List.map_append, Checked.errors_within, List.map_map,
    List.append_assoc, SpecError.within_comp_here, SpecError.within_comp_within]

/-- What is listed below an object field is what reading its schema finds. -/
lemma flatMap_errors_schemaSites {members : Members} (hkind : members.kind? = some .object)
    (hschema : ∀ document, members.lookup "schema" = some document → ListsDocument document)
    (path : Path) :
    (members.kindDefects .object).map (SpecError.mk path) ++
      (members.specSites path).flatMap SpecSite.errors =
      members.ofSchemaKey.errors.map (SpecError.within path) := by
  rw [Members.ofSchemaKey]
  cases hlookup : members.lookup "schema" with
  | none =>
      simp [Members.kindDefects, Members.specSites, hkind, hlookup, SpecError.within,
        SpecError.here]
  | some document =>
      simp [Members.kindDefects, Members.specSites, hkind, hlookup, hschema document hlookup _,
        SpecError.within_comp_within]

/-- **One level of specs**: the listing of a field spec is what reading it finds, where that holds
of the specs below. -/
lemma listsField_object {members : Members}
    (hitems : ∀ spec, members.lookup "items" = some spec → ListsField spec)
    (hfix : ∀ specs, members.lookup "fix_items" = some (.array specs) →
      ∀ spec ∈ specs, ListsField spec)
    (hschema : ∀ document, members.lookup "schema" = some document → ListsDocument document) :
    ListsField (.object members) := by
  intro path
  rw [SpecSite.errors_eq, Field.ofSpec_object, Members.kind_eq]
  simp only [SpecSite.defects, SpecSite.children, Members.specDefects]
  cases hkind : members.kind? with
  | none =>
      simp [Members.specSites, hkind, Members.errors_name, Members.errors_flag,
        SpecError.within_comp_here]
  | some kind =>
      rw [members.typeDefects_of_kind? hkind]
      by_cases harray : kind = .array
      · subst harray
        simp only [Members.errors_arrayField, List.map_append, ←
          flatMap_errors_arraySites hkind hitems hfix]
        simp [Members.kindDefects, SpecError.within_comp_here]
      by_cases hobject : kind = .object
      · subst hobject
        simp only [Members.errors_objectField, List.map_append, ←
          flatMap_errors_schemaSites hkind hschema]
        simp [SpecError.within_comp_here]
      · have hsites : members.specSites path = [] := by
          cases kind <;> simp_all [Members.specSites]
        rw [hsites]
        cases kind <;> try contradiction
        all_goals
          rw [Members.errors_simpleField members harray hobject]
          simp [SpecError.within_comp_here]

/-- **One level of documents**: the listing of a document is what reading it finds, where that holds
of its specs. -/
lemma listsDocument_object {members : Members}
    (hfields : ∀ specs, members.lookup "fields" = some (.array specs) →
      ∀ spec ∈ specs, ListsField spec) :
    ListsDocument (.object members) := by
  intro path
  rw [SpecSite.errors_eq, Schema.ofSpec_object]
  simp only [SpecSite.defects, SpecSite.children, Members.documentDefects, Members.documentSites]
  cases hlookup : members.lookup "fields" with
  | none => simp [Members.errors_flag, SpecError.within_comp_here]
  | some value =>
      cases value with
      | array specs =>
          simp [Checked.errors_ap, Members.errors_flag, SpecError.within_comp_here,
            flatMap_errors_sitesInList (hfields specs hlookup)]
      | _ =>
          simp [Members.errors_flag, SpecError.within_comp_here, SpecError.within, SpecError.here]

/-- **Reading finds the listed defects**, of a field spec and of a schema document alike. -/
theorem lists (value : Json) : ListsField value ∧ ListsDocument value := by
  refine value.spec_induction (P := ListsField) (Q := ListsDocument) ?_ ?_ ?_ ?_
  · exact fun members => listsField_object
  · intro value hvalue path
    rw [SpecSite.errors_eq, Field.ofSpec_of_not_object hvalue]
    cases value <;> simp_all [SpecSite.defects, SpecSite.children, SpecError.within, SpecError.here]
  · exact fun members => listsDocument_object
  · intro value hvalue path
    rw [SpecSite.errors_eq, Schema.ofSpec_of_not_object hvalue]
    cases value <;> simp_all [SpecSite.defects, SpecSite.children, SpecError.within, SpecError.here]

end SchemaCheck
