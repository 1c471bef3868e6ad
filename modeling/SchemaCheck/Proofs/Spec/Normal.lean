import Mathlib
import SchemaCheck.Proofs.Json.Values
import SchemaCheck.Proofs.Spec.NormalForm
import SchemaCheck.Proofs.Spec.RoundTrip

/-!
# Writing what was read

Reading a schema document and writing the schema gives the normal form of the document.

* `Json.Rewrites`: a value that was converted is written as a rewriting of it.  Keys and rules
  follow (`Members.optionalMember_of_read`, `members_of_rules`, `members_of_textRules`).
* `toSpec_of_ofSpec`, by induction on specs: fields and schemas are written in normal form.
* `Schema.representable_of_withinWords`: the normal form can be read again, as no limit is too large
  for a binary number.
* `Schema.toSpec_eq_normalDocument`: both together.
-/

namespace SchemaCheck

/-! ### Writing values -/

namespace Json

variable {α : Type} {convert : Json → Option α} {toJson : α → Json} {f : Json → Json}

/-- A value that was converted is written as `f` rewrites it. -/
def Rewrites (convert : Json → Option α) (toJson : α → Json) (f : Json → Json) : Prop :=
  ∀ value x, convert value = some x → toJson x = f value

lemma rewrites_bool? : Rewrites bool? .bool id := by
  intro value b h
  cases value <;> simp_all [bool?]

lemma rewrites_string? : Rewrites string? .string id := by
  intro value text h
  cases value <;> simp_all [string?]

/-- A binary limit is written as the binary number nearest to what it was read from. -/
lemma rewrites_toBinary64 :
    Rewrites (Limit.ofJson? : Json → Option Binary64) Limit.toJson asBinary := by
  intro value x h
  obtain ⟨n, hn, rfl⟩ := Option.map_eq_some_iff.1 h
  cases value with
  | number m =>
      obtain rfl := Option.some.inj hn
      rfl
  | _ => cases hn

/-- A 64-bit integer is read from a number that is the same integer. -/
lemma whole?_of_ofJson? {value : Json} {k : Int64} (h : Int64.ofJson? value = some k) :
    ∃ n, value = .number n ∧ n.whole? = some k.toInt := by
  rw [Int64.ofJson?_eq] at h
  obtain ⟨m, hwhole, hfits⟩ := Option.bind_eq_some_iff.1 h
  obtain ⟨n, hn, hm⟩ := Option.bind_eq_some_iff.1 hwhole
  cases value with
  | number n' =>
      obtain rfl := Option.some.inj hn
      refine ⟨n', rfl, ?_⟩
      split at hfits
      · next hbounds =>
          have hmin : -2 ^ 63 ≤ m := Int64.toInt_minValue ▸ hbounds.1
          have hmax : m ≤ 2 ^ 63 - 1 := Int64.toInt_maxValue ▸ hbounds.2
          rw [hm, ← Option.some.inj hfits, Int64.toInt_ofInt_of_le hmin (by omega)]
      · cases hfits
  | _ => cases hn

lemma rewrites_int64 : Rewrites (Limit.ofJson? : Json → Option Int64) Limit.toJson asInteger := by
  intro value k h
  obtain ⟨n, rfl, hwhole⟩ := whole?_of_ofJson? h
  simp only [asInteger, hwhole]
  rfl

/-- Values that are read one by one are written as they are rewritten one by one. -/
lemma Rewrites.mapM (h : Rewrites convert toJson f) {values : List Json} {xs : List α}
    (hread : values.mapM convert = some xs) : xs.map toJson = values.map f := by
  replace hread := forall₂_of_mapM hread
  induction hread with
  | nil => rfl
  | @cons value x _ _ hx _ ih => rw [List.map_cons, List.map_cons, h value x hx, ih]

/-- A list is written item by item. -/
lemma Rewrites.list (h : Rewrites convert toJson f) :
    Rewrites (fun value => do (← value.items?).mapM convert) (fun xs => .array (xs.map toJson))
      (onItems f) := by
  intro value xs hread
  cases value with
  | array values => exact congrArg Json.array (h.mapM hread)
  | _ => cases hread

/-- A range is written with both of its ends rewritten. -/
lemma Rewrites.range? [Limit α] (h : Rewrites (Limit.ofJson? : Json → Option α) Limit.toJson f) :
    Rewrites Members.range?
      (fun range : Range α =>
        .object [("start", Limit.toJson range.start), ("end", Limit.toJson range.stop)])
      (onEnds f) := by
  intro value range hread
  obtain ⟨ends, first, last, rfl, hfirst, hstart, hlast, hstop⟩ := Members.lookup_of_range? hread
  simp only [onEnds, hfirst, hlast, optionalMember, h first _ hstart, h last _ hstop]
  rfl

/-- A whole number is negative exactly if the integer is. -/
lemma isNegative_eq {n : Number} {k : Int} (h : n.whole? = some k) :
    (Json.number n).isNegative = decide (k < 0) := by
  have hpos : (0 : Int) < Binary64.grainsPerUnit := Int.natCast_pos.2 Binary64.grainsPerUnit_pos
  have hexact : n.exact = k * Binary64.grainsPerUnit := Number.whole?_eq_some_iff.1 h
  rw [isNegative, hexact]
  refine decide_eq_decide.2 ⟨fun hneg => ?_, fun hneg => Int.mul_neg_of_neg_of_pos hneg hpos⟩
  exact Int.lt_of_mul_lt_mul_right (by rwa [Int.zero_mul]) (Int.le_of_lt hpos)

end Json

/-! ### Keys and rules -/

lemma optionalMember_map {α β : Type} (key : String) (value : Option α) (g : α → β)
    (toJson : β → Json) :
    optionalMember key (value.map g) toJson = optionalMember key value fun x => toJson (g x) := by
  cases value <;> rfl

namespace Members

variable {α : Type} {members : Members} {key expected : String} {convert : Json → Option α}
  {toJson : α → Json} {f : Json → Json}

/-- What is written of an optional key is the member that was read, rewritten. -/
lemma optionalMember_of_read (h : Json.Rewrites convert toJson f) {value : Option α}
    (hread : members.read key expected convert = .ok value) :
    optionalMember key value toJson = members.kept key f := by
  rw [kept]
  rcases lookup_of_read hread with ⟨hlookup, rfl⟩ | ⟨json, x, hlookup, hx, rfl⟩
  · rw [hlookup]
    rfl
  · rw [hlookup, optionalMember, optionalMember, h json x hx]

lemma optionalMember_of_bool {value : Option Bool} (hread : members.bool key = .ok value) :
    optionalMember key value .bool = members.kept key id :=
  optionalMember_of_read Json.rewrites_bool? hread

/-- A mark is written only where it was set. -/
lemma optionalMember_of_flag {b : Bool} (hread : members.flag key = .ok b) :
    (if b then [(key, Json.bool true)] else []) = members.keptIf key Json.isTrue id := by
  obtain ⟨value, hbool, rfl⟩ := Checked.map_eq_ok_iff.1 hread
  have hkept := optionalMember_of_bool hbool
  rw [kept] at hkept
  rw [keptIf]
  rcases hlookup : members.lookup key with _ | json <;> rw [hlookup] at hkept <;>
    rcases value with _ | b <;> try cases hkept
  · rfl
  · cases b <;> rfl

/-- A length is written as an integer, and a negative one not at all. -/
lemma optionalMember_of_length {n : Option Nat} (hread : members.length key = .ok n) :
    optionalMember key n lengthJson = members.keptIf key (!·.isNegative) Json.asInteger := by
  obtain ⟨value, hvalue, rfl⟩ := Checked.map_eq_ok_iff.1 hread
  rw [keptIf]
  rcases lookup_of_read hvalue with ⟨hlookup, rfl⟩ | ⟨json, k, hlookup, hk, rfl⟩
  · rw [hlookup]
    rfl
  · obtain ⟨m, rfl, hwhole⟩ := Json.whole?_of_ofJson? hk
    have hneg := Json.isNegative_eq hwhole
    rw [hlookup, Option.bind_some, Option.filter_some, hneg]
    by_cases hk : 0 ≤ k.toInt
    · have hnot : ¬k.toInt < 0 := Int.not_lt.2 hk
      have hnat : (k.toInt.toNat : Int) = k.toInt := Int.toNat_of_nonneg hk
      simp only [if_pos hk, hnot, decide_false, Bool.not_false, if_true, optionalMember,
        lengthJson, hnat, Json.asInteger, hwhole]
    · have hlt : k.toInt < 0 := Int.not_le.1 hk
      simp only [if_neg hk, hlt, decide_true, Bool.not_true, optionalMember]
      rfl

/-- The rules for numbers are written in the normal form of what they were read from. -/
lemma members_of_rules [Limit α]
    (h : Json.Rewrites (Limit.ofJson? : Json → Option α) Limit.toJson f) {rules : Rules α}
    (hread : Members.rules members = .ok rules) :
    rules.members = members.normalLimits f := by
  obtain ⟨hmin, hmax, ⟨positive, hpositive, hsign⟩, expected, hranges⟩ := parts_of_rules hread
  have hsign : optionalMember "positive" rules.sign (fun sign => .bool (sign == .positive)) =
      members.kept "positive" id := by
    rw [hsign, optionalMember_map, ← optionalMember_of_bool hpositive]
    rcases positive with _ | _ | _ <;> rfl
  rw [Rules.members, normalLimits, optionalMember_of_read h hmin, optionalMember_of_read h hmax,
    hsign, optionalMember_of_read h.range?.list hranges]

lemma members_of_lengths {lengths : Lengths} (hread : Members.lengths members = .ok lengths) :
    lengths.members = members.normalLengths := by
  obtain ⟨hmin, hmax⟩ := parts_of_lengths hread
  rw [Lengths.members, normalLengths, optionalMember_of_length hmin, optionalMember_of_length hmax]

/-- A format is written as it was read. -/
lemma optionalMember_of_format {format : Option Pattern}
    (hread : Members.format members = .ok format) :
    optionalMember "format" format (fun pattern => .string pattern.source) =
      members.kept "format" id := by
  rw [Members.format] at hread
  split at hread
  · cases hread
  · next hnone =>
      obtain rfl := Except.ok.inj hread
      have hkept := optionalMember_of_read Json.rewrites_string? hnone
      exact hkept
  · next source hsource =>
      have hkept := optionalMember_of_read Json.rewrites_string? hsource
      split at hread
      · next pattern hpattern =>
          obtain rfl := Except.ok.inj hread
          rw [← hkept, optionalMember, optionalMember, Pattern.source_of_ofSource? hpattern]
      · cases hread

/-- The rules for texts are written in the normal form of what they were read from. -/
lemma members_of_textRules {rules : TextRules} (hread : Members.textRules members = .ok rules) :
    rules.members = members.normalRules .string := by
  obtain ⟨hmin, hmax, hformat, expected, hchoices⟩ := parts_of_textRules hread
  have hlist := optionalMember_of_read Json.rewrites_string?.list hchoices
  rw [TextRules.members, normalRules, normalLengths, optionalMember_of_length hmin,
    optionalMember_of_length hmax, optionalMember_of_format hformat, hlist, Json.onItems_id]

lemma lookup_type_of_kind? {kind : Kind} (h : members.kind? = some kind) :
    members.lookup "type" = some (.string kind.name) := by
  rw [kind?] at h
  split at h
  · next word hlookup => rw [hlookup, Kind.ofName?_eq_some_iff.1 h]
  · cases h

/-- Name, type and requirement are written as they were read. -/
lemma commonMembers_of_head {field : Field} (hkind : members.kind? = some field.kind)
    (hne : field.kind ≠ .null) (hhead : members.Head field.name field.required) :
    field.commonMembers = members.normalHead := by
  rw [Field.commonMembers, normalHead, kept, kept, (lookup_of_name hhead.1).1,
    lookup_type_of_kind? hkind, hkind, if_neg (mt Option.some.inj hne),
    ← optionalMember_of_flag hhead.2]
  rfl

namespace Describe

variable {field : Field}

lemma kind_eq (h : members.Describe field) : members.kind? = some field.kind := by
  cases h <;> assumption

/-- What is written for every field is the normal form of the head. -/
lemma commonMembers_eq (h : members.Describe field) :
    field.commonMembers = members.normalHead := by
  have hkind := h.kind_eq
  cases h with
  | null _ hhead =>
      rw [Field.commonMembers, normalHead, kept, kept, (lookup_of_name hhead.1).1,
        lookup_type_of_kind? hkind, hkind]
      rfl
  | _ => exact commonMembers_of_head hkind (by simp [Field.kind]) ‹_›

end Describe

end Members

/-! ### The agreement -/

/-- The field that is read from a field spec has its normal form for a spec. -/
def NormalField (spec : Json) : Prop :=
  ∀ field, Field.ofSpec spec = .ok field → field.toSpec = normalSpec spec

/-- The schema that is read from a document has its normal form for a document. -/
def NormalSchema (document : Json) : Prop :=
  ∀ schema, Schema.ofSpec document = .ok schema → schema.toSpec = normalDocument document

/-- Fields are written in the normal form of the specs that they were read from. -/
lemma fieldSpecs_of_readAs {specs : List Json} {fields : List Field} (h : ReadAs specs fields)
    (hspecs : ∀ spec ∈ specs, NormalField spec) : fieldSpecs fields = specs.map normalSpec := by
  induction h with
  | nil => rfl
  | cons hfield hfields ih =>
      obtain ⟨hspec, hspecs⟩ := List.forall_mem_cons.1 hspecs
      rw [fieldSpecs, List.map_cons, hspec _ hfield, ih hspecs]

/-- **One level of specs**: a field is written in the normal form of its spec, where that holds of
the specs below. -/
lemma normalField_object {members : Members}
    (hitem : ∀ spec, members.lookup "items" = some spec → NormalField spec)
    (htuple : ∀ specs, members.lookup "fix_items" = some (.array specs) →
      ∀ spec ∈ specs, NormalField spec)
    (hschema : ∀ document, members.lookup "schema" = some document → NormalSchema document) :
    NormalField (.object members) := by
  intro field h
  have hdescribe := Field.describe_of_ofSpec h
  rw [Field.toSpec.eq_def, hdescribe.commonMembers_eq, normalSpec_object, hdescribe.kind_eq,
    Option.map_some, Option.getD_some]
  refine congrArg (fun rest => Json.object (members.normalHead ++ rest)) ?_
  cases hdescribe with
  | integer _ _ hrules =>
      exact (Members.members_of_rules Json.rewrites_int64 hrules).trans (List.append_nil _).symm
  | float _ _ hrules =>
      exact (Members.members_of_rules Json.rewrites_toBinary64 hrules).trans
        (List.append_nil _).symm
  | string _ _ hrules =>
      exact (Members.members_of_textRules hrules).trans (List.append_nil _).symm
  | boolean _ _ hexpected =>
      exact (Members.optionalMember_of_bool hexpected).trans (List.append_nil _).symm
  | list _ _ hlengths hlookup hnone hread =>
      simp only [Members.members_of_lengths hlengths, hitem _ hlookup _ hread, Field.kind,
        Members.normalRules, Members.normalBelow, Members.kept, hlookup, hnone, if_true,
        optionalMember, List.append_nil]
  | tuple _ _ hlengths hlookup hne hread =>
      have hspecs : ∀ spec ∈ members.tupleItems, NormalField spec := by
        intro spec hspec
        obtain ⟨specs, hlist, hmem⟩ := Members.lookup_of_mem_tupleItems hspec
        exact htuple specs hlist spec hmem
      simp only [Members.members_of_lengths hlengths, fieldSpecs_of_readAs hread hspecs,
        Field.kind, Members.normalRules, Members.normalBelow, Members.kept, hlookup, if_neg hne,
        optionalMember, List.nil_append]
  | object _ _ hlookup hread =>
      simp only [hschema _ hlookup _ hread, Field.kind, Members.normalRules, Members.normalBelow,
        Members.kept, hlookup, optionalMember, List.nil_append]
  | null _ _ => rfl

/-- **One level of documents**: a schema is written in the normal form of its document, where that
holds of its specs. -/
lemma normalSchema_object {members : Members}
    (hfields : ∀ specs, members.lookup "fields" = some (.array specs) →
      ∀ spec ∈ specs, NormalField spec) : NormalSchema (.object members) := by
  rintro ⟨fields, strict⟩ h
  obtain ⟨hstrict, hread⟩ := Schema.parts_of_ofSpec h
  have hspecs : ∀ spec ∈ members.fieldItems, NormalField spec := by
    intro spec hspec
    obtain ⟨specs, hlist, hmem⟩ := Members.lookup_of_mem_fieldItems hspec
    exact hfields specs hlist spec hmem
  rw [Schema.toSpec, normalDocument_object, Members.optionalMember_of_flag hstrict,
    fieldSpecs_of_readAs hread hspecs]

/-- **What is read is written in normal form**, be it a field spec or a schema document. -/
theorem toSpec_of_ofSpec (value : Json) : NormalField value ∧ NormalSchema value := by
  refine value.spec_induction (P := NormalField) (Q := NormalSchema) ?_ ?_ ?_ ?_
  · exact fun members => normalField_object
  · intro value hvalue field h
    obtain ⟨members, hmembers⟩ := Field.exists_members_of_ofSpec h
    exact absurd hmembers (hvalue members)
  · exact fun members => normalSchema_object
  · intro value hvalue schema h
    obtain ⟨members, hmembers⟩ := Schema.exists_members_of_ofSpec h
    exact absurd hmembers (hvalue members)

/-! ### Reading the normal form -/

lemma Json.hereditary_withinWords : Json.Hereditary Json.WithinWords where
  item h := (everywhere_array.1 h).2
  member h hlookup := (everywhere_object.1 h).2 _ (mem_of_lookup hlookup)

/-- A limit that is read from a number within 64 bits is finite. -/
lemma Json.isFinite_of_withinWords {value : Json} {x : Binary64} (hvalue : value.WithinWords)
    (h : Limit.ofJson? value = some x) : x.IsFinite := by
  obtain ⟨n, hn, rfl⟩ := Option.map_eq_some_iff.1 h
  cases value with
  | number m =>
      obtain rfl := Option.some.inj hn
      exact Number.exists_toBinary64_eq_finite (hvalue m rfl)
  | _ => cases hn

namespace Members

variable {α : Type} {members : Members} {key expected : String} {convert : Json → Option α}

lemma exists_of_read {x : α} (h : members.read key expected convert = .ok (some x)) :
    ∃ value, members.lookup key = some value ∧ convert value = some x := by
  rcases lookup_of_read h with ⟨-, hnone⟩ | ⟨value, x', hlookup, hx, hsome⟩
  · cases hnone
  · exact ⟨value, hlookup, hx.trans hsome.symm⟩

/-- Limits have a property that numbers of the document give them. -/
lemma all_of_rules [Limit α] {P : α → Prop} {Q : Json → Prop} (hQ : Json.Hereditary Q)
    (hP : ∀ value x, Q value → Limit.ofJson? value = some x → P x) (hmembers : Q (.object members))
    {rules : Rules α} (h : Members.rules members = .ok rules) : rules.All P := by
  obtain ⟨hmin, hmax, -, expected, hranges⟩ := parts_of_rules h
  constructor
  · intro x hx
    obtain ⟨value, hlookup, hread⟩ := exists_of_read (hx ▸ hmin)
    exact hP value x (hQ.member hmembers hlookup) hread
  · intro x hx
    obtain ⟨value, hlookup, hread⟩ := exists_of_read (hx ▸ hmax)
    exact hP value x (hQ.member hmembers hlookup) hread
  · intro ranges hx range hrange
    obtain ⟨value, hlookup, hlist⟩ := exists_of_read (hx ▸ hranges)
    have hvalue := hQ.member hmembers hlookup
    cases value with
    | array values =>
        obtain ⟨item, hmem, hread⟩ := exists_of_mapM hlist range hrange
        obtain ⟨ends, first, last, rfl, hfirst, hstart, hlast, hstop⟩ := lookup_of_range? hread
        have hitem := hQ.item hvalue _ hmem
        exact ⟨hP first _ (hQ.member hitem hfirst) hstart,
          hP last _ (hQ.member hitem hlast) hstop⟩
    | _ => cases hlist

/-- A field that is described within 64 bits has finite limits. -/
lemma Describe.finiteLimits {field : Field} (hmembers : (Json.object members).WithinWords)
    (h : members.Describe field) : field.FiniteLimits := by
  cases h with
  | float _ _ hrules =>
      exact all_of_rules Json.hereditary_withinWords (fun _ _ => Json.isFinite_of_withinWords)
        hmembers hrules
  | _ => exact trivial

end Members

lemma Schema.representable_of_withinWords {document : Json} {schema : Schema}
    (hdocument : document.WithinWords) (h : Schema.ofSpec document = .ok schema) :
    schema.Representable :=
  representable_of_ofSpec (fun _ => id) h <| everywhere_of_ofSpec Json.hereditary_withinWords
    (fun _ _ hmembers hdescribe => hdescribe.finiteLimits hmembers) hdocument h

/-- **The normal form.**  The schema that a document describes is written as the normal form of the
document, which needs no schema to be computed.  Where the integers of the document take at most 64
bits, the normal form describes the same schema, so that it is its own normal form. -/
theorem Schema.toSpec_eq_normalDocument {document : Json} {schema : Schema}
    (h : Schema.ofSpec document = .ok schema) :
    schema.toSpec = normalDocument document ∧
      (document.WithinWords →
        Schema.ofSpec (normalDocument document) = .ok schema ∧
          normalDocument (normalDocument document) = normalDocument document) := by
  have hnormal := (toSpec_of_ofSpec document).2 schema h
  refine ⟨hnormal, fun hdocument => ?_⟩
  have hback : Schema.ofSpec (normalDocument document) = .ok schema := by
    rw [← hnormal]
    exact (schema.restores_toSpec schema).2 ⟨representable_of_withinWords hdocument h, rfl⟩
  exact ⟨hback, ((toSpec_of_ofSpec _).2 schema hback).symm.trans hnormal⟩

/-- Keys out of order and at their defaults, keys that nothing reads, and limits that are none. -/
theorem Schema.toSpec_eq_normalDocument_untidy :
    let untidy : Json := .object [("fields", .array [
      .object [("schema", .object [("strict", .bool false)]), ("type", .string "object"),
        ("required", .bool false), ("name", .string "a")],
      .object [("choices", .array []), ("note", .null), ("name", .string "b"),
        ("max_length", .number (.whole (-1))), ("type", .string "string")],
      .object [("fix_items", .array []), ("min_length", .number (.whole 0)),
        ("items", .object [("name", .string "d"), ("required", .bool true),
          ("type", .string "null")]), ("type", .string "array"), ("name", .string "c")]])]
    let schema : Schema := ⟨[.object "a" false ⟨[], false⟩,
      .string "b" false { choices := some [] },
      .list "c" false { min := some 0 } (.null "d")], false⟩
    Schema.ofSpec untidy = .ok schema ∧ untidy.WithinWords ∧
      schema.toSpec = normalDocument untidy ∧ Schema.ofSpec (normalDocument untidy) = .ok schema ∧
        normalDocument (normalDocument untidy) = normalDocument untidy := by
  intro untidy schema
  have hread : Schema.ofSpec untidy = .ok schema := by cbv
  have hwords : untidy.WithinWords := by
    simp [untidy, Json.WithinWords, Json.Everywhere, Json.everyItem, Json.everyMember,
      Json.Number.InWords]
  obtain ⟨hnormal, hagain⟩ := toSpec_eq_normalDocument hread
  exact ⟨hread, hwords, hnormal, hagain hwords⟩

end SchemaCheck
