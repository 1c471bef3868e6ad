import Mathlib.Data.List.Forall2
import Mathlib.Tactic.Common
import SchemaCheck.Proofs.Spec.Listing

/-!
# What the reading of schema documents depends on

Two schema documents give equal schemas, or have the same defects, when whatever is read in them is
alike.

* `Checked.Related`: two readings find related parts, or the same defects.  Wholes are related where
  their parts are (`Related.ap`).
* `Role`: what a value in a schema document is read as.  `Role.keys?` are the keys of an object that
  are read, which depend on the kind of a spec, and `Role.item?` says what the items of a list are
  read as.
* `Json.Simulation`: related values have related ones under the keys that are read, and at every
  place of a list; and scalars that are related are converted alike.
* `Json.Simulation.related_ofSpec`, by induction on specs: related specs are read as equal fields,
  with limits compared as numbers, or have the same defects; and so it is with schema documents.
-/

namespace SchemaCheck

/-! ### Related readings -/

namespace Checked

variable {α β α' β' : Type} {R : α → β → Prop} {S : α' → β' → Prop}

/-- **Related readings** of a part: both find one, and the two are related, or both find the same
defects. -/
inductive Related (R : α → β → Prop) : Checked α → Checked β → Prop
  | ok {x : α} {y : β} : R x y → Related R (.ok x) (.ok y)
  | error (errors : List SpecError) : Related R (.error errors) (.error errors)

namespace Related

variable {x : Checked α} {y : Checked β}

lemma errors_eq (h : Related R x y) : x.errors = y.errors := by
  cases h <;> rfl

lemma of_eq {x y : Checked α} (h : x = y) : Related Eq x y := by
  subst h
  cases x with
  | ok x => exact .ok rfl
  | error errors => exact .error errors

/-- Related parts are put together to related outcomes. -/
lemma ap {f : Checked (α → α')} {g : Checked (β → β')}
    (hf : Related (fun f g => ∀ x y, R x y → S (f x) (g y)) f g) (h : Related R x y) :
    Related S (f.ap x) (g.ap y) := by
  cases hf with
  | ok hfg =>
      cases h with
      | ok hxy => exact .ok (hfg _ _ hxy)
      | error errors => exact .error errors
  | error errors =>
      simp only [Checked.ap, h.errors_eq]
      exact .error _

/-- What is made of related outcomes is related. -/
lemma map {f : α → α'} {g : β → β'} (h : Related R x y)
    (hfg : ∀ x y, R x y → S (f x) (g y)) : Related S (x.map f) (y.map g) := by
  cases h with
  | ok hxy => exact .ok (hfg _ _ hxy)
  | error errors => exact .error errors

lemma within (h : Related R x y) (path : Path) : Related R (x.within path) (y.within path) := by
  cases h with
  | ok hxy => exact .ok hxy
  | error errors => exact .error _

end Related

end Checked

open Checked (Related)

/-! ### Conversions -/

/-- Related options are both none, or both have a value, and the values are related. -/
lemma rel_cases {α β : Type} {R : α → β → Prop} {x : Option α} {y : Option β}
    (h : Option.Rel R x y) :
    (x = none ∧ y = none) ∨ ∃ a b, x = some a ∧ y = some b ∧ R a b := by
  cases h with
  | none => exact .inl ⟨rfl, rfl⟩
  | some hab => exact .inr ⟨_, _, rfl, rfl, hab⟩

/-- Related steps lead from related values to related ones. -/
lemma rel_bind {α β α' β' : Type} {R : α → β → Prop} {S : α' → β' → Prop} {x : Option α}
    {y : Option β} {f : α → Option α'} {g : β → Option β'} (h : Option.Rel R x y)
    (hfg : ∀ a b, R a b → Option.Rel S (f a) (g b)) : Option.Rel S (x.bind f) (y.bind g) := by
  cases h with
  | none => exact .none
  | some hab => exact hfg _ _ hab

/-- Lists are converted item by item. -/
lemma rel_mapM {R : Json → Json → Prop} {α β : Type} {S : α → β → Prop} {f : Json → Option α}
    {g : Json → Option β} (hfg : ∀ x y, R x y → Option.Rel S (f x) (g y)) {items items' : List Json}
    (h : List.Forall₂ R items items') :
    Option.Rel (List.Forall₂ S) (items.mapM f) (items'.mapM g) := by
  induction h with
  | nil => exact .some .nil
  | cons hitem _ ih =>
      rw [List.mapM_cons, List.mapM_cons]
      exact rel_bind (hfg _ _ hitem) fun _ _ hfirst =>
        rel_bind ih fun _ _ hrest => .some (.cons hfirst hrest)

/-! ### What is read -/

/-- What a value in a schema document is read as. -/
inductive Role
  | document
  | spec
  | specs
  | ranges
  | range
  | texts
  | scalar
  deriving DecidableEq

namespace Role

/-- What the items of a list are read as. -/
def item? : Role → Option Role
  | .specs => some .spec
  | .ranges => some .range
  | .texts => some .scalar
  | _ => none

/-- The keys that are read of every field spec, and what is under them. -/
def headKeys : List (String × Role) := [("name", .scalar), ("type", .scalar), ("required", .scalar)]

/-- The keys that are read of the field specs of a kind. -/
def kindKeys : Kind → List (String × Role)
  | .integer | .float =>
    [("min", .scalar), ("max", .scalar), ("positive", .scalar), ("ranges", .ranges)]
  | .string =>
    [("min_length", .scalar), ("max_length", .scalar), ("format", .scalar), ("choices", .texts)]
  | .boolean => [("value", .scalar)]
  | .array =>
    [("min_length", .scalar), ("max_length", .scalar), ("items", .spec), ("fix_items", .specs)]
  | .object => [("schema", .document)]
  | .null => []

/-- The keys of an object that are read, and what is under them; none where the object is not looked
into. -/
def keys? : Role → Members → Option (List (String × Role))
  | .document, _ => some [("strict", .scalar), ("fields", .specs)]
  | .spec, members => some (headKeys ++ (members.kind?.map kindKeys).getD [])
  | .range, _ => some [("start", .scalar), ("end", .scalar)]
  | _, _ => none

end Role

/-- Values that are converted alike, whatever scalar is asked for. -/
structure Json.SameScalar (x y : Json) : Prop where
  bool : x.bool? = y.bool?
  string : x.string? = y.string?
  int64 : Int64.ofJson? x = Int64.ofJson? y
  binary64 : Option.Rel (fun a b : Binary64 => Limit.same a b = true) (Limit.ofJson? x)
    (Limit.ofJson? y)

/-- The values under each of the keys are related. -/
def Members.RelatedAt (R : Role → Json → Json → Prop) (keys : List (String × Role))
    (members members' : Members) : Prop :=
  ∀ pair ∈ keys, Option.Rel (R pair.2) (members.lookup pair.1) (members'.lookup pair.1)

/-- **Simulation** of one value by another, for each role: the values are of one kind, scalars are
converted alike, and the values under the keys that are read, and in the places of a list, are
related in turn. -/
structure Json.Simulation (R : Role → Json → Json → Prop) : Prop where
  kind_eq {role : Role} {x y : Json} : R role x y → x.kind = y.kind
  scalar {x y : Json} : R .scalar x y → x.SameScalar y
  items {role item : Role} {x y : Json} : R role x y → role.item? = some item →
    Option.Rel (List.Forall₂ (R item)) x.items? y.items?
  members {role : Role} {members members' : Members} {keys : List (String × Role)} :
    R role (.object members) (.object members') → role.keys? members = some keys →
    members.RelatedAt R keys members'

/-- A value of the kind of objects is one. -/
lemma Json.exists_object_of_kind_eq {value : Json} (h : value.kind = .object) :
    ∃ members, value = .object members := by
  cases value with
  | object members => exact ⟨members, rfl⟩
  | number n => cases hwhole : n.whole? <;> simp [kind_number_eq, hwhole] at h
  | _ => cases h

variable {R : Role → Json → Json → Prop}

namespace Json.Simulation

variable (hR : Json.Simulation R) {x y : Json}

include hR

/-- What is related to no object is none. -/
lemma not_object {role : Role} (h : R role x y) (hx : ∀ members, x ≠ .object members) :
    ∀ members, y ≠ .object members := by
  rintro members rfl
  obtain ⟨members', hmembers⟩ := exists_object_of_kind_eq (hR.kind_eq h)
  exact hx members' hmembers

lemma exists_object {role : Role} {members : Members} (h : R role (.object members) y) :
    ∃ members', y = .object members' :=
  exists_object_of_kind_eq (hR.kind_eq h).symm

/-- Related lists of texts are read as the same texts. -/
lemma strings_eq (h : R .texts x y) :
    (x.items?.bind fun items => items.mapM string?) =
      y.items?.bind fun items => items.mapM string? := by
  have hstring : ∀ x y : Json, R .scalar x y → Option.Rel Eq x.string? y.string? := by
    intro x y hxy
    rw [(hR.scalar hxy).string]
    cases y.string? with
    | none => exact .none
    | some text => exact .some rfl
  rcases rel_cases (rel_bind (hR.items h rfl) fun _ _ => rel_mapM hstring) with
    ⟨hx, hy⟩ | ⟨texts, texts', hx, hy, htexts⟩
  · rw [hx, hy]
  · rw [List.forall₂_eq_eq_eq] at htexts
    rw [hx, hy, htexts]

/-- The end of a range, looked up in values of any kind. -/
lemma rel_end (h : R .range x y) (key : String)
    (hkey : (key, Role.scalar) ∈ [("start", Role.scalar), ("end", .scalar)]) :
    Option.Rel (R .scalar) (x.member? key) (y.member? key) := by
  cases x with
  | object members =>
      obtain ⟨members', rfl⟩ := hR.exists_object h
      exact hR.members h rfl _ hkey
  | _ =>
      have hy := hR.not_object h (by simp)
      cases y with
      | object members => exact absurd rfl (hy members)
      | _ => exact .none

end Json.Simulation

/-! ### Limits -/

/-- The ranges have the same ends. -/
def Range.Same {α : Type} [Limit α] (range range' : Range α) : Prop :=
  Limit.same range.start range'.start = true ∧ Limit.same range.stop range'.stop = true

/-- Rules are the same exactly if they are limit by limit. -/
lemma Rules.same_iff_rel {α : Type} [Limit α] {rules rules' : Rules α} :
    rules.same rules' = true ↔
      Option.Rel (fun x y => Limit.same x y = true) rules.min rules'.min ∧
        Option.Rel (fun x y => Limit.same x y = true) rules.max rules'.max ∧
        rules.sign = rules'.sign ∧
        Option.Rel (List.Forall₂ Range.Same) rules.ranges rules'.ranges := by
  obtain ⟨min, max, sign, ranges⟩ := rules
  obtain ⟨min', max', sign', ranges'⟩ := rules'
  cases min <;> cases min' <;> cases max <;> cases max' <;> cases ranges <;> cases ranges' <;>
    simp [same, List.forall₂_iff_zip, Range.Same, and_assoc]

/-! ### Keys -/

namespace Members

section

variable {members members' : Members} {key : String} {role : Role}

/-- Related members are read as related values, or with the same defect. -/
lemma related_read {α β : Type} {S : α → β → Prop} {convert : Json → Option α}
    {convert' : Json → Option β}
    (h : Option.Rel (R role) (members.lookup key) (members'.lookup key))
    (hconvert : ∀ x y, R role x y → Option.Rel S (convert x) (convert' y)) (expected : String) :
    Related (Option.Rel S) (members.read key expected convert)
      (members'.read key expected convert') := by
  rw [read, read]
  rcases rel_cases h with ⟨hx, hy⟩ | ⟨value, value', hx, hy, hvalue⟩
  · rw [hx, hy]
    exact .ok .none
  · rw [hx, hy]
    rcases rel_cases (hconvert _ _ hvalue) with ⟨ha, hb⟩ | ⟨a, b, ha, hb, hab⟩
    · simp only [ha, hb]
      exact .error _
    · simp only [ha, hb]
      exact .ok (.some hab)

/-- Related members from which the same is read have the same outcome. -/
lemma read_congr {α : Type} {convert : Json → Option α}
    (h : Option.Rel (R role) (members.lookup key) (members'.lookup key))
    (hconvert : ∀ x y, R role x y → convert x = convert y) (expected : String) :
    members.read key expected convert = members'.read key expected convert := by
  rw [read, read]
  rcases rel_cases h with ⟨hx, hy⟩ | ⟨value, value', hx, hy, hvalue⟩
  · rw [hx, hy]
  · simp only [hx, hy, hconvert _ _ hvalue]

/-- The name that is read of a text, if there is one. -/
def nameOfText? : Option (Option String) → Option String
  | some (some name) => if name.isEmpty then none else some name
  | _ => none

lemma name?_eq (members : Members) :
    members.name? = nameOfText? ((members.lookup "name").map Json.string?) := by
  rw [name?]
  rcases members.lookup "name" with _ | (_ | _ | _ | _ | _ | _) <;> rfl

/-- The kind of field that is read of a text, if there is one. -/
def kindOfText : Option (Option String) → Checked Kind
  | none => .defect .missingType
  | some none => .defect .typeNotString
  | some (some word) =>
    match Kind.ofName? word with
    | some kind => .ok kind
    | none => .defect (.unknownType word)

lemma kind_eq_kindOfText (members : Members) :
    members.kind = kindOfText ((members.lookup "type").map Json.string?) := by
  rw [kind]
  rcases members.lookup "type" with _ | (_ | _ | _ | _ | _ | _) <;> rfl

variable (hR : Json.Simulation R)

include hR

lemma bool_congr (h : Option.Rel (R .scalar) (members.lookup key) (members'.lookup key)) :
    members.bool key = members'.bool key :=
  read_congr h (fun _ _ hvalue => (hR.scalar hvalue).bool) _

lemma flag_congr (h : Option.Rel (R .scalar) (members.lookup key) (members'.lookup key)) :
    members.flag key = members'.flag key := by
  rw [flag, flag, bool_congr hR h]

lemma length_congr (h : Option.Rel (R .scalar) (members.lookup key) (members'.lookup key)) :
    members.length key = members'.length key := by
  rw [length, length, read_congr h fun _ _ hvalue => (hR.scalar hvalue).int64]

/-- Names and types are looked at as texts. -/
lemma map_string?_eq (h : Option.Rel (R .scalar) (members.lookup key) (members'.lookup key)) :
    (members.lookup key).map Json.string? = (members'.lookup key).map Json.string? := by
  rcases rel_cases h with ⟨hx, hy⟩ | ⟨value, value', hx, hy, hvalue⟩
  · rw [hx, hy]
  · rw [hx, hy, Option.map_some, Option.map_some, (hR.scalar hvalue).string]

lemma name?_congr (h : Option.Rel (R .scalar) (members.lookup "name") (members'.lookup "name")) :
    members.name? = members'.name? := by
  rw [name?_eq, name?_eq, map_string?_eq hR h]

lemma name_congr (h : Option.Rel (R .scalar) (members.lookup "name") (members'.lookup "name")) :
    members.name = members'.name := by
  rw [name, name, name?_congr hR h]

lemma kind_congr (h : Option.Rel (R .scalar) (members.lookup "type") (members'.lookup "type")) :
    members.kind = members'.kind := by
  rw [kind_eq_kindOfText, kind_eq_kindOfText, map_string?_eq hR h]

end

/-! ### Fields -/

/-- The array fields that are made of items are equal. -/
def SameItems (make make' : ArrayOf) : Prop :=
  ∀ name required lengths,
    (make name required lengths).same (make' name required lengths) = true

section

variable {members members' : Members} (hR : Json.Simulation R)

include hR

lemma lengths_congr
    (hmin : Option.Rel (R .scalar) (members.lookup "min_length") (members'.lookup "min_length"))
    (hmax : Option.Rel (R .scalar) (members.lookup "max_length") (members'.lookup "max_length")) :
    members.lengths = members'.lengths := by
  rw [lengths, lengths, length_congr hR hmin, length_congr hR hmax]

/-- The rules for texts are read alike under related keys. -/
lemma textRules_congr (h : members.RelatedAt R (Role.kindKeys .string) members') :
    members.textRules = members'.textRules := by
  have hformat : members.format = members'.format := by
    rw [format, format, read_congr (h ("format", .scalar) (by decide)) fun _ _ hvalue =>
      (hR.scalar hvalue).string]
  rw [textRules, textRules, length_congr hR (h ("min_length", .scalar) (by decide)),
    length_congr hR (h ("max_length", .scalar) (by decide)), hformat]
  exact congrArg _ (read_congr (h ("choices", .texts) (by decide))
    (fun _ _ hvalue => hR.strings_eq hvalue) _)

/-- The rules for numbers are read as the same rules under related keys. -/
lemma related_rules {α : Type} [Limit α]
    (hlimit : ∀ x y, R .scalar x y →
      Option.Rel (fun a b : α => Limit.same a b = true) (Limit.ofJson? x) (Limit.ofJson? y))
    (h : members.RelatedAt R (Role.kindKeys .float) members') :
    Related (fun rules rules' : Rules α => rules.same rules' = true) members.rules
      members'.rules := by
  have hrange : ∀ x y : Json, R .range x y →
      Option.Rel Range.Same (range? x : Option (Range α)) (range? y) := by
    intro x y hxy
    refine rel_bind (hR.rel_end hxy "start" (by decide)) fun _ _ hstart => ?_
    refine rel_bind (hlimit _ _ hstart) fun _ _ hsame => ?_
    refine rel_bind (hR.rel_end hxy "end" (by decide)) fun _ _ hstop => ?_
    exact rel_bind (hlimit _ _ hstop) fun _ _ hsame' => .some ⟨hsame, hsame'⟩
  have hranges : ∀ x y : Json, R .ranges x y → Option.Rel (List.Forall₂ Range.Same)
      (x.items?.bind fun items => items.mapM (range? (α := α)))
      (y.items?.bind fun items => items.mapM range?) := by
    intro x y hxy
    exact rel_bind (hR.items hxy rfl) fun _ _ hitems => rel_mapM hrange hitems
  refine .ap (.ap (.ap (.ap (.ok ?_)
    (related_read (h ("min", .scalar) (by decide)) hlimit _))
    (related_read (h ("max", .scalar) (by decide)) hlimit _))
    (.of_eq (bool_congr hR (h ("positive", .scalar) (by decide)))))
    (related_read (h ("ranges", .ranges) (by decide)) hranges _)
  rintro min min' hmin max max' hmax positive _ rfl ranges ranges' hranges
  exact Rules.same_iff_rel.2 ⟨hmin, hmax, rfl, hranges⟩

variable (hhead : members.RelatedAt R Role.headKeys members')

include hhead

/-- A field without specs below is read as the same field from related members. -/
lemma related_simpleField (kind : Kind) (h : members.RelatedAt R (Role.kindKeys kind) members') :
    Related (fun field field' : Field => field.same field' = true) (members.simpleField kind)
      (members'.simpleField kind) := by
  have hname := name_congr hR (hhead ("name", .scalar) (by decide))
  have hrequired := flag_congr hR (hhead ("required", .scalar) (by decide))
  have hint64 : ∀ x y, R .scalar x y →
      Option.Rel (fun a b : Int64 => Limit.same a b = true) (Limit.ofJson? x)
        (Limit.ofJson? y) := by
    intro x y hxy
    change Option.Rel _ (Int64.ofJson? x) (Int64.ofJson? y)
    rw [(hR.scalar hxy).int64]
    cases Int64.ofJson? y with
    | none => exact .none
    | some limit => exact .some (beq_self_eq_true limit)
  have hnull : Related (fun field field' : Field => field.same field' = true)
      (Checked.build (fun name _ => Field.null name) |>.ap members.name
        |>.ap (members.flag "required"))
      (Checked.build (fun name _ => Field.null name) |>.ap members'.name
        |>.ap (members'.flag "required")) := by
    refine .ap (.ap (.ok ?_) (.of_eq hname)) (.of_eq hrequired)
    rintro name _ rfl required _ rfl
    simp [Field.same]
  cases kind with
  | integer =>
      refine .ap (.ap (.ap (.ok ?_) (.of_eq hname)) (.of_eq hrequired))
        (related_rules hR hint64 h)
      rintro name _ rfl required _ rfl rules rules' hrules
      simp [Field.same, hrules]
  | float =>
      refine .ap (.ap (.ap (.ok ?_) (.of_eq hname)) (.of_eq hrequired))
        (related_rules hR (fun _ _ hvalue => (hR.scalar hvalue).binary64) h)
      rintro name _ rfl required _ rfl rules rules' hrules
      simp [Field.same, hrules]
  | string =>
      refine .ap (.ap (.ap (.ok ?_) (.of_eq hname)) (.of_eq hrequired))
        (.of_eq (textRules_congr hR h))
      rintro name _ rfl required _ rfl rules _ rfl
      simp [Field.same]
  | boolean =>
      refine .ap (.ap (.ap (.ok ?_) (.of_eq hname)) (.of_eq hrequired))
        (.of_eq (bool_congr hR (h ("value", .scalar) (by decide))))
      rintro name _ rfl required _ rfl expected _ rfl
      simp [Field.same]
  | _ => exact hnull

/-- An array field is read as the same field from related members and items. -/
lemma related_arrayField (h : members.RelatedAt R (Role.kindKeys .array) members')
    {items items' : Checked ArrayOf} (hitems : Related SameItems items items') :
    Related (fun field field' : Field => field.same field' = true) (members.arrayField items)
      (members'.arrayField items') := by
  have hname := name_congr hR (hhead ("name", .scalar) (by decide))
  have hrequired := flag_congr hR (hhead ("required", .scalar) (by decide))
  have hlengths := lengths_congr hR (h ("min_length", .scalar) (by decide))
    (h ("max_length", .scalar) (by decide))
  have htuple : Related (fun _ _ => True) members.tupleSpecs members'.tupleSpecs :=
    (related_read (h ("fix_items", .specs) (by decide)) (fun _ _ hvalue => hR.items hvalue rfl)
      _).map fun _ _ _ => trivial
  refine .ap (.ap (.ap (.ap (.ap (.ok ?_) (.of_eq hname)) (.of_eq hrequired)) htuple)
    (.of_eq hlengths)) hitems
  rintro name _ rfl required _ rfl specs specs' - lengths _ rfl make make' hmake
  exact hmake name required lengths

/-- An object field is read as the same field from related schemas. -/
lemma related_objectField {schema schema' : Checked Schema}
    (hschema : Related (fun schema schema' => schema.same schema' = true) schema schema') :
    Related (fun field field' : Field => field.same field' = true) (members.objectField schema)
      (members'.objectField schema') := by
  have hname := name_congr hR (hhead ("name", .scalar) (by decide))
  have hrequired := flag_congr hR (hhead ("required", .scalar) (by decide))
  refine .ap (.ap (.ap (.ok ?_) (.of_eq hname)) (.of_eq hrequired)) hschema
  rintro name _ rfl required _ rfl schema schema' hschema
  simp [Field.same, hschema]

omit hhead in
/-- Related lists have related specs, one by one. -/
lemma forall₂_tupleItems
    (h : Option.Rel (R .specs) (members.lookup "fix_items") (members'.lookup "fix_items")) :
    List.Forall₂ (R .spec) members.tupleItems members'.tupleItems := by
  have hitems (members : Members) :
      members.tupleItems = ((members.lookup "fix_items").bind Json.items?).getD [] := by
    rw [tupleItems]
    rcases members.lookup "fix_items" with _ | (_ | _ | _ | _ | _ | _) <;> rfl
  rw [hitems, hitems]
  rcases rel_cases (rel_bind h fun _ _ hvalue => hR.items hvalue rfl) with
    ⟨hx, hy⟩ | ⟨specs, specs', hx, hy, hspecs⟩
  · rw [hx, hy]
    exact .nil
  · rw [hx, hy]
    exact hspecs

end

end Members

/-! ### Specs -/

/-- The outcomes of reading field specs: equal fields or the same defects. -/
def SpecAlike (spec spec' : Json) : Prop :=
  Related (fun field field' => field.same field' = true) (Field.ofSpec spec) (Field.ofSpec spec')

/-- The outcomes of reading schema documents: equal schemas or the same defects. -/
def DocumentAlike (document document' : Json) : Prop :=
  Related (fun schema schema' => schema.same schema' = true) (Schema.ofSpec document)
    (Schema.ofSpec document')

namespace Json.Simulation

variable (hR : Json.Simulation R)

include hR

lemma head_keys {members members' : Members} (h : R .spec (.object members) (.object members')) :
    members.RelatedAt R Role.headKeys members' := fun pair hpair =>
  hR.members h rfl pair (List.mem_append_left _ hpair)

lemma kind_keys {members members' : Members} (h : R .spec (.object members) (.object members'))
    {kind : Kind} (hkind : members.kind? = some kind) :
    members.RelatedAt R (Role.kindKeys kind) members' := fun pair hpair =>
  hR.members h rfl pair (List.mem_append_right _ (by simpa [hkind] using hpair))

/-- Related specs have the same name. -/
lemma nameSegment?_eq {spec spec' : Json} (h : R .spec spec spec') :
    nameSegment? spec = nameSegment? spec' := by
  by_cases hobject : ∃ members, spec = .object members
  · obtain ⟨members, rfl⟩ := hobject
    obtain ⟨members', rfl⟩ := hR.exists_object h
    rw [nameSegment?, nameSegment?,
      Members.name?_congr hR (hR.head_keys h ("name", .scalar) (by decide))]
  · have hspec : ∀ members, spec ≠ .object members := fun members heq => hobject ⟨members, heq⟩
    have hspec' := hR.not_object h hspec
    have hnone : ∀ spec : Json, (∀ members, spec ≠ .object members) → nameSegment? spec = none := by
      intro spec hspec
      cases spec with
      | object members => exact absurd rfl (hspec members)
      | _ => rfl
    rw [hnone spec hspec, hnone spec' hspec']

/-- Related specs are read as the same fields, or with the same defects. -/
lemma related_fieldsOfSpecs {specs specs' : List Json} (h : List.Forall₂ (R .spec) specs specs')
    (hspecs : ∀ spec ∈ specs, ∀ spec', R .spec spec spec' → SpecAlike spec spec') (index : Nat) :
    Related (fun fields fields' => sameFields fields fields' = true) (fieldsOfSpecs index specs)
      (fieldsOfSpecs index specs') := by
  induction h generalizing index with
  | nil =>
      rw [fieldsOfSpecs_nil]
      exact .ok rfl
  | cons hspec _ ih =>
      obtain ⟨hfirst, hrest⟩ := List.forall_mem_cons.1 hspecs
      rw [fieldsOfSpecs, fieldsOfSpecs, specSegment, specSegment, hR.nameSegment?_eq hspec]
      refine .ap (.ap (.ok ?_) ((hfirst _ hspec).within _)) (ih hrest (index + 1))
      intro field field' hfield fields fields' hfields
      rw [sameFields, hfield, hfields, Bool.and_self]

lemma related_itemOfSpec {spec spec' : Json} (h : R .spec spec spec')
    (hspec : SpecAlike spec spec') :
    Related (fun field field' => field.same field' = true) (itemOfSpec spec)
      (itemOfSpec spec') := by
  rw [itemOfSpec, itemOfSpec, hR.nameSegment?_eq h]
  exact hspec.within _

/-- Related descriptions of items are read as the same, or with the same defects. -/
lemma related_itemsOfSpec {members members' : Members}
    (h : members.RelatedAt R (Role.kindKeys .array) members')
    (hitem : ∀ spec, members.lookup "items" = some spec → ∀ spec', R .spec spec spec' →
      SpecAlike spec spec')
    (hspecs : ∀ spec ∈ members.tupleItems, ∀ spec', R .spec spec spec' → SpecAlike spec spec') :
    Related Members.SameItems (itemsOfSpec members) (itemsOfSpec members') := by
  have hlookup : Option.Rel (R .spec) (members.lookup "items") (members'.lookup "items") :=
    h ("items", .spec) (by decide)
  have htuple := Members.forall₂_tupleItems hR (h ("fix_items", .specs) (by decide))
  have hfields := (hR.related_fieldsOfSpecs htuple hspecs 0).within [.key "fix_items"]
  rw [itemsOfSpec_eq, itemsOfSpec_eq]
  revert hlookup htuple hfields hitem
  generalize members.lookup "items" = spec
  generalize members'.lookup "items" = spec'
  generalize members.tupleItems = specs
  generalize members'.tupleItems = specs'
  intro hitem hlookup htuple hfields
  cases hlookup with
  | none =>
      cases htuple with
      | nil => exact .error _
      | cons _ _ =>
          refine hfields.map fun fields fields' hsame name required lengths => ?_
          simp [Field.same, hsame]
  | some hspec =>
      have hone := hR.related_itemOfSpec hspec (hitem _ rfl _ hspec)
      cases htuple with
      | nil =>
          refine hone.map fun item item' hsame name required lengths => ?_
          simp [Field.same, hsame]
      | cons _ _ =>
          simp only [hone.errors_eq, hfields.errors_eq]
          exact .error _

/-- Specs that are objects, once those below are read alike. -/
lemma specAlike_object {members members' : Members}
    (h : R .spec (.object members) (.object members'))
    (hitem : ∀ spec, members.lookup "items" = some spec → ∀ spec', R .spec spec spec' →
      SpecAlike spec spec')
    (hspecs : ∀ specs, members.lookup "fix_items" = some (.array specs) → ∀ spec ∈ specs,
      ∀ spec', R .spec spec spec' → SpecAlike spec spec')
    (hschema : ∀ document, members.lookup "schema" = some document → ∀ document',
      R .document document document' → DocumentAlike document document') :
    SpecAlike (.object members) (.object members') := by
  have hhead := hR.head_keys h
  have hname := Members.name_congr hR (hhead ("name", .scalar) (by decide))
  have hrequired := Members.flag_congr hR (hhead ("required", .scalar) (by decide))
  rw [SpecAlike, Field.ofSpec_object, Field.ofSpec_object,
    ← Members.kind_congr hR (hhead ("type", .scalar) (by decide)), Members.kind_eq]
  cases hkind : members.kind? with
  | none =>
      simp only [hname, hrequired]
      exact .error _
  | some kind =>
      have hkeys := hR.kind_keys h hkind
      cases kind with
      | array =>
          refine Members.related_arrayField hR hhead hkeys
            (hR.related_itemsOfSpec hkeys hitem fun spec hspec => ?_)
          obtain ⟨specs, hlookup, hmem⟩ := Members.lookup_of_mem_tupleItems hspec
          exact hspecs specs hlookup spec hmem
      | object =>
          refine Members.related_objectField hR hhead ?_
          rw [Members.ofSchemaKey, Members.ofSchemaKey]
          have hlookup : Option.Rel (R .document) (members.lookup "schema")
              (members'.lookup "schema") := hkeys ("schema", .document) (by decide)
          revert hlookup hschema
          generalize members.lookup "schema" = document
          generalize members'.lookup "schema" = document'
          rintro hschema (hdocument | _)
          · exact (hschema _ rfl _ hdocument).within _
          · exact .error _
      | _ => exact Members.related_simpleField hR hhead _ hkeys

omit hR in
lemma eq_array_of_items? {value : Json} {items : List Json} (h : value.items? = some items) :
    value = .array items := by
  cases value with
  | array items' => rw [Option.some.inj h]
  | _ => cases h

/-- Schema documents that are objects, once the field specs are read alike. -/
lemma documentAlike_object {members members' : Members}
    (h : R .document (.object members) (.object members'))
    (hspecs : ∀ specs, members.lookup "fields" = some (.array specs) → ∀ spec ∈ specs,
      ∀ spec', R .spec spec spec' → SpecAlike spec spec') :
    DocumentAlike (.object members) (.object members') := by
  have hread (members : Members) : Schema.ofSpec (.object members) =
      match (members.lookup "fields").map Json.items? with
      | none => (Members.flag members "strict").map fun strict => ⟨[], strict⟩
      | some (some specs) =>
        Checked.build (fun strict fields => (⟨fields, strict⟩ : Schema))
          |>.ap (Members.flag members "strict") |>.ap (fieldsOfSpecs 0 specs)
      | some none =>
        .error ((Members.flag members "strict").errors ++ [.here .fieldsNotArray]) := by
    rw [Schema.ofSpec_object]
    rcases members.lookup "fields" with _ | (_ | _ | _ | _ | _ | _) <;> rfl
  have hkeys := hR.members h rfl
  have hstrict := Members.flag_congr hR (hkeys ("strict", .scalar) (by decide))
  have hlookup : Option.Rel (R .specs) (members.lookup "fields") (members'.lookup "fields") :=
    hkeys ("fields", .specs) (by decide)
  rw [DocumentAlike, hread, hread, ← hstrict]
  rcases rel_cases hlookup with ⟨hx, hy⟩ | ⟨value, value', hx, hy, hvalue⟩
  · rw [hx, hy]
    refine Related.map (.of_eq rfl) ?_
    rintro strict _ rfl
    simp [Schema.same, sameFields]
  · rw [hx, hy, Option.map_some, Option.map_some]
    rcases rel_cases (hR.items hvalue rfl) with
      ⟨hitems, hitems'⟩ | ⟨specs, specs', hitems, hitems', hrel⟩
    · rw [hitems, hitems']
      exact .error _
    · obtain rfl : value = .array specs := eq_array_of_items? hitems
      rw [hitems']
      refine .ap (.ap (.ok ?_) (.of_eq rfl)) (hR.related_fieldsOfSpecs hrel (hspecs _ hx) 0)
      rintro strict _ rfl fields fields' hsame
      simp [Schema.same, hsame]

/-- **Related documents give equal schemas, or have the same defects**, and related specs equal
fields or the same defects. -/
theorem related_ofSpec (value : Json) :
    (∀ value', R .spec value value' → SpecAlike value value') ∧
      ∀ value', R .document value value' → DocumentAlike value value' := by
  -- Along the specs of the first value; those of the second are the ones that they are related to.
  refine Json.spec_induction
    (P := fun value => ∀ value', R .spec value value' → SpecAlike value value')
    (Q := fun value => ∀ value', R .document value value' → DocumentAlike value value')
    ?_ ?_ ?_ ?_ value
  · intro members hitem hspecs hschema value' h
    obtain ⟨members', rfl⟩ := hR.exists_object h
    exact hR.specAlike_object h hitem hspecs hschema
  · intro spec hspec value' h
    rw [SpecAlike, Field.ofSpec_of_not_object hspec,
      Field.ofSpec_of_not_object (hR.not_object h hspec), hR.kind_eq h]
    exact .error _
  · intro members hspecs value' h
    obtain ⟨members', rfl⟩ := hR.exists_object h
    exact hR.documentAlike_object h hspecs
  · intro document hdocument value' h
    rw [DocumentAlike, Schema.ofSpec_of_not_object hdocument,
      Schema.ofSpec_of_not_object (hR.not_object h hdocument), hR.kind_eq h]
    exact .error _

end Json.Simulation

end SchemaCheck
