import Mathlib.Data.Bool.Basic
import Mathlib.Order.Basic
import Mathlib.Tactic.Common
import SchemaCheck.Proofs.Conformance

/-!
# Relaxed schemas

A schema that asks for less still accepts what was accepted.

* `Rules.Relaxed`, `TextRules.Relaxed` and `Lengths.Relaxed`: looser rules.  Their lemmas `allow`
  say that what keeps to the rules keeps to looser ones.
* `Field.Relaxed` and `Schema.Relaxed`: rules are looser at any places of a tree, values are no
  longer required, schemas no longer strict, and fields are gone from schemas that are not strict.
  Fields keep their names and kinds.
* `Field.Relaxed.accepts`, by induction on the field: a relaxed field accepts what the field
  accepts.
* `Schema.validate_eq_nil_of_relaxed`: so a document without violations has none for a relaxed
  schema.
-/

namespace SchemaCheck

/-! ### Chains of comparisons -/

namespace Binary64

/-- The place of a number in the order: before, among or behind the finite numbers, and there the
count of its grains. -/
def place? : Binary64 → Option (Int × Int)
  | .finite x => some (0, x.grains)
  | .infinite true => some (-1, 0)
  | .infinite false => some (1, 0)
  | .nan => none

lemma lt_iff_place? {x y : Binary64} :
    x < y ↔ ∃ i m j n, x.place? = some (i, m) ∧ y.place? = some (j, n) ∧
      (i < j ∨ i = j ∧ m < n) := by
  rw [← order?_eq_lt_iff]
  rcases x with x | (_ | _) | _ <;> rcases y with y | (_ | _) | _ <;>
    simp [order?, place?, Int.compare_eq_lt]

lemma le_iff_place? {x y : Binary64} :
    x ≤ y ↔ ∃ i m j n, x.place? = some (i, m) ∧ y.place? = some (j, n) ∧
      (i < j ∨ i = j ∧ m ≤ n) := by
  change x.order? y = some .lt ∨ x.order? y = some .eq ↔ _
  rcases x with x | (_ | _) | _ <;> rcases y with y | (_ | _) | _ <;>
    simp [order?, place?, Int.compare_eq_lt, Int.le_iff_lt_or_eq]

lemma lt_le_trans {x y z : Binary64} (h : x < y) (h' : y ≤ z) : x < z := by
  obtain ⟨i, m, j, n, hx, hy, hxy⟩ := lt_iff_place?.1 h
  obtain ⟨j', n', k, l, hy', hz, hyz⟩ := le_iff_place?.1 h'
  obtain ⟨rfl, rfl⟩ : j = j' ∧ n = n' := by simpa using hy.symm.trans hy'
  exact lt_iff_place?.2 ⟨i, m, k, l, hx, hz, by omega⟩

lemma le_lt_trans {x y z : Binary64} (h : x ≤ y) (h' : y < z) : x < z := by
  obtain ⟨i, m, j, n, hx, hy, hxy⟩ := le_iff_place?.1 h
  obtain ⟨j', n', k, l, hy', hz, hyz⟩ := lt_iff_place?.1 h'
  obtain ⟨rfl, rfl⟩ : j = j' ∧ n = n' := by simpa using hy.symm.trans hy'
  exact lt_iff_place?.2 ⟨i, m, k, l, hx, hz, by omega⟩

end Binary64

/-! ### Looser rules -/

/-- **Looser limits** on a number: each is gone or excludes no more than before.  A least value is
lower, a greatest one higher, and ranges cover every number that they covered. -/
structure Rules.Relaxed {α β : Type} [LE β] (value : α → β) (rules rules' : Rules α) : Prop where
  sign : rules'.sign = none ∨ rules'.sign = rules.sign
  min : ∀ min', rules'.min = some min' → ∃ min, rules.min = some min ∧ value min' ≤ value min
  max : ∀ max', rules'.max = some max' → ∃ max, rules.max = some max ∧ value max ≤ value max'
  ranges : ∀ ranges', rules'.ranges = some ranges' → ∃ ranges, rules.ranges = some ranges ∧
    ∀ x, (∃ range ∈ ranges, value range.start ≤ x ∧ x ≤ value range.stop) →
      ∃ range ∈ ranges', value range.start ≤ x ∧ x ≤ value range.stop

/-- **Looser limits** on a number of items, or of characters. -/
structure Lengths.Relaxed (lengths lengths' : Lengths) : Prop where
  min : ∀ min', lengths'.min = some min' → ∃ min, lengths.min = some min ∧ min' ≤ min
  max : ∀ max', lengths'.max = some max' → ∃ max, lengths.max = some max ∧ max ≤ max'

/-- The limits on the number of characters. -/
def TextRules.lengths (rules : TextRules) : Lengths := ⟨rules.minLength, rules.maxLength⟩

/-- **Looser rules** for a string.  There are more choices, next to which the other rules may be
any; or there are none before and after, and the other rules are looser. -/
def TextRules.Relaxed (rules rules' : TextRules) : Prop :=
  match rules.choices, rules'.choices with
  | some choices, some choices' => choices ⊆ choices'
  | none, none =>
    rules.lengths.Relaxed rules'.lengths ∧
      (rules'.format = none ∨ rules'.format = rules.format)
  | _, _ => False

/-- **Relaxed rules allow what the rules allow**, for numbers of either kind. -/
lemma Rules.Relaxed.allow {α β : Type} [Limit α] [LT β] [LE β]
    (hlt : ∀ {x y z : β}, x < y → y ≤ z → x < z) (hle : ∀ {x y z : β}, x ≤ y → y < z → x < z)
    {value : α → β} {rules rules' : Rules α} (h : rules.Relaxed value rules') {x : β}
    (hallow : rules.Allow value x) : rules'.Allow value x where
  positive hsign := by
    rcases h.sign with hnone | hkept
    · exact absurd (hnone.symm.trans hsign) (by simp)
    · exact hallow.positive (hkept ▸ hsign)
  negative hsign := by
    rcases h.sign with hnone | hkept
    · exact absurd (hnone.symm.trans hsign) (by simp)
    · exact hallow.negative (hkept ▸ hsign)
  min min' hmin' := by
    obtain ⟨min, hmin, hlower⟩ := h.min min' hmin'
    exact fun hbelow => hallow.min min hmin (hlt hbelow hlower)
  max max' hmax' := by
    obtain ⟨max, hmax, hhigher⟩ := h.max max' hmax'
    exact fun habove => hallow.max max hmax (hle hhigher habove)
  ranges ranges' hranges' := by
    obtain ⟨ranges, hranges, hcover⟩ := h.ranges ranges' hranges'
    exact hcover x (hallow.ranges ranges hranges)

lemma Lengths.Relaxed.allow {lengths lengths' : Lengths} (h : lengths.Relaxed lengths')
    {count : Nat} (hallow : lengths.Allow count) : lengths'.Allow count := by
  constructor
  · intro min' hmin'
    obtain ⟨min, hmin, hlower⟩ := h.min min' hmin'
    exact Nat.le_trans hlower (hallow.1 min hmin)
  · intro max' hmax'
    obtain ⟨max, hmax, hhigher⟩ := h.max max' hmax'
    exact Nat.le_trans (hallow.2 max hmax) hhigher

/-- Relaxed rules for texts allow what the rules allow. -/
lemma TextRules.Relaxed.allow {rules rules' : TextRules} (h : rules.Relaxed rules') {text : String}
    (hallow : rules.Allow text) : rules'.Allow text := by
  rw [Relaxed] at h
  rw [Allow] at hallow ⊢
  cases hold : rules.choices with
  | some choices =>
      cases hnew : rules'.choices with
      | some choices' =>
          simp only [hold, hnew] at h hallow
          exact h hallow
      | none => simp [hold, hnew] at h
  | none =>
      cases hnew : rules'.choices with
      | some choices' => simp [hold, hnew] at h
      | none =>
          simp only [hold, hnew] at h hallow
          obtain ⟨hlengths, hformat⟩ := h
          obtain ⟨hmin, hmax, hpattern⟩ := hallow
          have hcount : rules.lengths.Allow text.length := ⟨hmin, hmax⟩
          obtain ⟨hmin', hmax'⟩ := hlengths.allow hcount
          refine ⟨hmin', hmax', fun pattern hsome => ?_⟩
          rcases hformat with hnone | hkept
          · exact absurd (hnone.symm.trans hsome) (by simp)
          · exact hpattern pattern (hkept ▸ hsome)

/-! ### Relaxed fields -/

mutual

/-- **Relaxing a field**: its own rules are looser, a value may no longer be required, and the
fields below it are relaxed in turn.  Name and kind stay. -/
def Field.Relaxed : Field → Field → Prop
  | .integer name required rules, field' =>
    ∃ required' rules', field' = .integer name required' rules' ∧ required' ≤ required ∧
      rules.Relaxed Int64.toInt rules'
  | .float name required rules, field' =>
    ∃ required' rules', field' = .float name required' rules' ∧ required' ≤ required ∧
      rules.Relaxed id rules'
  | .string name required rules, field' =>
    ∃ required' rules', field' = .string name required' rules' ∧ required' ≤ required ∧
      rules.Relaxed rules'
  | .boolean name required expected, field' =>
    ∃ required' expected', field' = .boolean name required' expected' ∧ required' ≤ required ∧
      (expected' = none ∨ expected' = expected)
  | .list name required lengths item, field' =>
    ∃ required' lengths' item', field' = .list name required' lengths' item' ∧
      required' ≤ required ∧ lengths.Relaxed lengths' ∧ item.Relaxed item'
  | .tuple name required lengths fields, field' =>
    ∃ required' lengths' fields', field' = .tuple name required' lengths' fields' ∧
      required' ≤ required ∧ lengths.Relaxed lengths' ∧ relaxedEach fields fields'
  | .object name required schema, field' =>
    ∃ required' schema', field' = .object name required' schema' ∧ required' ≤ required ∧
      schema.Relaxed schema'
  | .null name, field' => field' = .null name
termination_by structural field => field

/-- **Relaxing a schema**: its fields are relaxed, and it may no longer be strict.  If it is not,
any fields may be gone. -/
def Schema.Relaxed : Schema → Schema → Prop
  | ⟨fields, strict⟩, schema' =>
    schema'.strict ≤ strict ∧ relaxedFields schema'.strict fields schema'.fields
termination_by structural schema => schema

/-- The fields of a schema are relaxed in turn; unless it is strict after that, fields may be
gone. -/
def relaxedFields (strict' : Bool) : List Field → List Field → Prop
  | [], fields' => fields' = []
  | field :: fields, fields' =>
    (∃ field' rest, fields' = field' :: rest ∧ field.Relaxed field' ∧
      relaxedFields strict' fields rest) ∨
    strict' = false ∧ relaxedFields strict' fields fields'
termination_by structural fields => fields

/-- The fields of a tuple are relaxed one by one. -/
def relaxedEach : List Field → List Field → Prop
  | [], [] => True
  | field :: fields, field' :: fields' => field.Relaxed field' ∧ relaxedEach fields fields'
  | _, _ => False
termination_by structural fields => fields

end

/-- Every field of a relaxed schema comes from a field that was there. -/
lemma exists_of_mem_relaxedFields {strict' : Bool} {fields fields' : List Field}
    (h : relaxedFields strict' fields fields') :
    ∀ field' ∈ fields', ∃ field ∈ fields, field.Relaxed field' := by
  induction fields generalizing fields' with
  | nil =>
      obtain rfl : fields' = [] := h
      exact fun _ hmem => absurd hmem List.not_mem_nil
  | cons field fields ih =>
      intro field' hmem
      rcases h with ⟨first, rest, rfl, hfirst, hrest⟩ | ⟨-, hrest⟩
      · rcases List.mem_cons.1 hmem with rfl | hmem
        · exact ⟨field, List.mem_cons_self, hfirst⟩
        · obtain ⟨old, hold, hrelaxed⟩ := ih hrest field' hmem
          exact ⟨old, List.mem_cons_of_mem _ hold, hrelaxed⟩
      · obtain ⟨old, hold, hrelaxed⟩ := ih hrest field' hmem
        exact ⟨old, List.mem_cons_of_mem _ hold, hrelaxed⟩

/-- No field is gone from a schema that is still strict. -/
lemma exists_relaxed_of_mem {fields fields' : List Field} (h : relaxedFields true fields fields') :
    ∀ field ∈ fields, ∃ field' ∈ fields', field.Relaxed field' := by
  induction fields generalizing fields' with
  | nil => exact fun _ hmem => absurd hmem List.not_mem_nil
  | cons field fields ih =>
      rcases h with ⟨first, rest, rfl, hfirst, hrest⟩ | ⟨hstrict, -⟩
      · intro old hmem
        rcases List.mem_cons.1 hmem with rfl | hmem
        · exact ⟨first, List.mem_cons_self, hfirst⟩
        · obtain ⟨new, hnew, hrelaxed⟩ := ih hrest old hmem
          exact ⟨new, List.mem_cons_of_mem _ hnew, hrelaxed⟩
      · cases hstrict

/-! ### What is still accepted -/

namespace Field

variable {field field' : Field}

lemma Relaxed.name_eq (h : field.Relaxed field') : field'.name = field.name := by
  cases field with
  | integer | float | string | boolean | object =>
      obtain ⟨_, _, rfl, -⟩ := h
      rfl
  | list | tuple =>
      obtain ⟨_, _, _, rfl, -⟩ := h
      rfl
  | null name =>
      obtain rfl : field' = .null name := h
      rfl

lemma Relaxed.required_le (h : field.Relaxed field') : field'.required ≤ field.required := by
  cases field with
  | integer | float | string | boolean | object =>
      obtain ⟨_, _, rfl, hrequired, -⟩ := h
      exact hrequired
  | list | tuple =>
      obtain ⟨_, _, _, rfl, hrequired, -⟩ := h
      exact hrequired
  | null name =>
      obtain rfl : field' = .null name := h
      exact le_rfl

lemma Relaxed.accepts_null (h : field.Relaxed field') (haccepts : field.Accepts .null) :
    field'.Accepts .null := by
  have hrequired := h.required_le
  rw [Accepts] at haccepts ⊢
  refine Bool.eq_false_of_not_eq_true fun htrue => ?_
  exact absurd (haccepts.symm.trans (hrequired htrue)) (by simp)

/-- Only values that are present are left to be looked at. -/
lemma Relaxed.accepts_of_present (h : field.Relaxed field') {value : Json}
    (hpresent : field.Accepts value → ¬value = .null → field'.Accepts value)
    (haccepts : field.Accepts value) : field'.Accepts value := by
  by_cases hnull : value = .null
  · subst hnull
    exact h.accepts_null haccepts
  · exact hpresent haccepts hnull

end Field

/-- A document still conforms to a relaxed schema, once the fields still accept what they did. -/
lemma Schema.Relaxed.admits_of_fields {schema schema' : Schema} (h : schema.Relaxed schema')
    (hfields : ∀ field ∈ schema.fields, ∀ field', field.Relaxed field' →
      ∀ value, field.Accepts value → field'.Accepts value) {document : Json}
    (hadmits : schema.Admits document) : schema'.Admits document := by
  obtain ⟨fields, strict⟩ := schema
  obtain ⟨fields', strict'⟩ := schema'
  obtain ⟨hstrict, hrelaxed⟩ := h
  obtain ⟨hkeys, haccepts⟩ := hadmits
  rw [acceptsMembers_iff] at haccepts
  refine ⟨?_, acceptsMembers_iff.2 fun field' hfield' => ?_⟩
  -- A schema that is still strict has lost no field, so that no key has become unknown.
  · rintro rfl members hdocument member hmember
    obtain ⟨field, hfield, hname⟩ := hkeys (hstrict rfl) members hdocument member hmember
    obtain ⟨field', hfield', hboth⟩ := exists_relaxed_of_mem hrelaxed field hfield
    exact ⟨field', hfield', hboth.name_eq.trans hname⟩
  · obtain ⟨field, hfield, hboth⟩ := exists_of_mem_relaxedFields hrelaxed field' hfield'
    rw [hboth.name_eq]
    exact hfields field hfield field' hboth _ (haccepts field hfield)

/-- Items are still accepted one by one, once the fields still accept what they did. -/
lemma acceptsEach_of_relaxedEach {fields fields' : List Field} (h : relaxedEach fields fields')
    (hfields : ∀ field ∈ fields, ∀ field', field.Relaxed field' →
      ∀ value, field.Accepts value → field'.Accepts value) {items : List Json}
    (haccepts : acceptsEach fields items) : acceptsEach fields' items := by
  induction fields generalizing fields' items with
  | nil =>
      cases fields' with
      | nil => exact haccepts
      | cons => exact h.elim
  | cons field fields ih =>
      cases fields' with
      | nil => exact h.elim
      | cons field' fields' =>
          cases items with
          | nil => exact haccepts.elim
          | cons item items =>
              obtain ⟨hfirst, hrest⟩ := h
              obtain ⟨hitem, hitems⟩ := haccepts
              exact ⟨hfields field List.mem_cons_self field' hfirst item hitem,
                ih hrest (fun old hold => hfields old (List.mem_cons_of_mem _ hold)) hitems⟩

/-- **A relaxed field accepts what the field accepts.** -/
theorem Field.Relaxed.accepts {field field' : Field} (h : field.Relaxed field') {value : Json}
    (haccepts : field.Accepts value) : field'.Accepts value := by
  -- Null comes first: the equations of acceptance for each kind are about other values.
  by_cases hnull : value = .null
  · subst hnull
    exact h.accepts_null haccepts
  induction field using Field.ind generalizing field' value with
  | integer name required rules =>
      obtain ⟨required', rules', rfl, -, hrules⟩ := h
      rw [Accepts.eq_2 _ _ _ _ hnull] at haccepts ⊢
      obtain ⟨n, k, rfl, hint, hallow⟩ := haccepts
      exact ⟨n, k, rfl, hint, hrules.allow Int.lt_of_lt_of_le Int.lt_of_le_of_lt hallow⟩
  | float name required rules =>
      obtain ⟨required', rules', rfl, -, hrules⟩ := h
      rw [Accepts.eq_3 _ _ _ _ hnull] at haccepts ⊢
      obtain ⟨n, rfl, hallow⟩ := haccepts
      exact ⟨n, rfl, hrules.allow Binary64.lt_le_trans Binary64.le_lt_trans hallow⟩
  | string name required rules =>
      obtain ⟨required', rules', rfl, -, hrules⟩ := h
      rw [Accepts.eq_4 _ _ _ _ hnull] at haccepts ⊢
      obtain ⟨text, rfl, hallow⟩ := haccepts
      exact ⟨text, rfl, hrules.allow hallow⟩
  | boolean name required expected =>
      obtain ⟨required', expected', rfl, -, hexpected⟩ := h
      rw [Accepts.eq_5 _ _ _ _ hnull] at haccepts ⊢
      obtain ⟨b, rfl, hvalue⟩ := haccepts
      refine ⟨b, rfl, fun b' hb' => ?_⟩
      rcases hexpected with rfl | rfl
      · cases hb'
      · exact hvalue b' hb'
  | list name required lengths item ih =>
      obtain ⟨required', lengths', item', rfl, -, hlengths, hitem⟩ := h
      rw [Accepts.eq_6 _ _ _ _ _ hnull] at haccepts ⊢
      obtain ⟨items, rfl, hallow, hitems⟩ := haccepts
      exact ⟨items, rfl, hlengths.allow hallow, fun value hvalue =>
        hitem.accepts_of_present (ih hitem) (hitems value hvalue)⟩
  | tuple name required lengths fields ih =>
      obtain ⟨required', lengths', fields', rfl, -, hlengths, heach⟩ := h
      rw [Accepts.eq_7 _ _ _ _ _ hnull] at haccepts ⊢
      obtain ⟨items, rfl, hallow, hitems⟩ := haccepts
      exact ⟨items, rfl, hlengths.allow hallow,
        acceptsEach_of_relaxedEach heach (fun field hfield field' hrelaxed value =>
          hrelaxed.accepts_of_present (ih field hfield hrelaxed)) hitems⟩
  | object name required schema ih =>
      obtain ⟨required', schema', rfl, -, hschema⟩ := h
      rw [Accepts.eq_8 _ _ _ _ hnull] at haccepts ⊢
      obtain ⟨members, hholds, hadmits⟩ := haccepts
      exact ⟨members, hholds, hschema.admits_of_fields (fun field hfield field' hrelaxed value =>
        hrelaxed.accepts_of_present (ih field hfield hrelaxed)) hadmits⟩
  | null name =>
      obtain rfl : field' = .null name := h
      exact haccepts

/-- **Relaxing a schema never rejects a document that was accepted.**  A float limit may give way to
any other on its looser side, infinities included; one that is no number is comparable to none, and
cannot even stay. -/
theorem Schema.validate_eq_nil_of_relaxed {schema schema' : Schema} (h : schema.Relaxed schema')
    (document : Json) (hvalid : schema.validate document = []) :
    schema'.validate document = [] := by
  have hiff (schema : Schema) : schema.validate document = [] ↔ schema.Admits document :=
    Schema.validate_eq_nil_iff_of_fields (fun field _ => field.validate_eq_nil_iff) document
  rw [hiff] at hvalid ⊢
  exact h.admits_of_fields (fun _ _ _ hrelaxed _ => hrelaxed.accepts) hvalid

/-- A least value is lower and no longer required.  Below a longer list, a schema is no longer
strict and has lost a field; there are more choices, next to which the text is to be longer, and a
range covers two ranges. -/
theorem Schema.validate_eq_nil_of_relaxed_levels :
    let half : Binary64.Finite := ⟨false, Nat.pow 2 52, 1021, by decide, by decide, by decide⟩
    let name (rules : TextRules) : Field := .string "name" true rules
    let level (rules : Rules Int64) : Field := .integer "level" true rules
    let price (required : Bool) (min : Binary64.Finite) : Field :=
      .float "price" required { min := some (.finite min) }
    let item : Schema := ⟨[name { choices := some ["a"] }, .null "note",
      level { sign := some .positive, ranges := some [⟨0, 1⟩, ⟨2, 4⟩] }], true⟩
    let item' : Schema := ⟨[name { choices := some ["b", "a"], minLength := some 9 },
      level { ranges := some [⟨0, 4⟩] }], false⟩
    let schema : Schema :=
      ⟨[price true half, .list "tags" true { max := some 1 } (.object "tag" true item)], true⟩
    let schema' : Schema :=
      ⟨[price false (.zero true), .list "tags" true { max := some 2 } (.object "tag" true item')],
        true⟩
    let document : Json := .object [("price", .number (.whole 1)),
      ("tags", .array [.object [("level", .number (.whole 4)), ("name", .string "a")]])]
    schema.Relaxed schema' ∧ schema.validate document = [] ∧ schema'.validate document = [] := by
  intro half name level price item item' schema schema' document
  have hprice : (price true half).Relaxed (price false (.zero true)) := by
    refine ⟨false, _, rfl, Bool.false_le _, .inl rfl, ?_, by simp, by simp⟩
    rintro _ ⟨rfl⟩
    have hbelow : (Binary64.finite (.zero true)).order? (.finite half) = some .lt := by
      decide +kernel
    exact ⟨_, rfl, .inl hbelow⟩
  have hlevel : Rules.Relaxed Int64.toInt
      { sign := some .positive, ranges := some [⟨0, 1⟩, ⟨2, 4⟩] }
      { ranges := some [⟨0, 4⟩] } := by
    refine ⟨.inl rfl, by simp, by simp, ?_⟩
    rintro _ ⟨rfl⟩
    refine ⟨_, rfl, fun x hx => ⟨_, List.mem_singleton_self _, ?_⟩⟩
    have hends : (0 ≤ x ∧ x ≤ 1) ∨ 2 ≤ x ∧ x ≤ 4 := by simpa using hx
    change 0 ≤ x ∧ x ≤ 4
    omega
  have hitem : item.Relaxed item' := by
    refine ⟨Bool.false_le _, .inl ⟨_, _, rfl, ⟨_, _, rfl, le_rfl, ?_⟩, .inr ⟨rfl, ?_⟩⟩⟩
    · exact List.subset_cons_self "b" ["a"]
    · exact .inl ⟨_, _, rfl, ⟨_, _, rfl, le_rfl, hlevel⟩, rfl⟩
  have hlengths : Lengths.Relaxed { max := some 1 } { max := some 2 } :=
    ⟨by simp, by rintro _ ⟨rfl⟩; exact ⟨1, rfl, by decide⟩⟩
  have hschema : schema.Relaxed schema' := by
    refine ⟨le_rfl, .inl ⟨_, _, rfl, hprice, .inl ⟨_, _, rfl, ?_, rfl⟩⟩⟩
    exact ⟨_, _, _, rfl, le_rfl, hlengths, _, _, rfl, le_rfl, hitem⟩
  have hvalid : schema.validate document = [] := by
    decide +kernel
  exact ⟨hschema, hvalid, validate_eq_nil_of_relaxed hschema document hvalid⟩

end SchemaCheck
