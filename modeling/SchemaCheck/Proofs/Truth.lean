import Mathlib
import SchemaCheck.Proofs.Visits

/-!
# The truth of violations

A violation says where a document breaks a rule and how.  Both can be checked in the document alone.

* `Json.walk?`: the value that a path leads to.  A step by key goes into an object, or into the
  object that a text spells.
* `Reason.TrueOf`: what a reason says of a value, whatever field reports it.
* `Schema.Has` and `Schema.Governs`: the places of fields and of nested schemas in a schema.
* `Visit.Found`: the path of a visit leads to what is visited, in the document and in the schema.
  Visits hand it on to those below them (`Visit.Found.of_mem_below`), so that it holds of a whole
  tour (`Visit.found_of_mem_tour`).
* `Field.trueOf_checks`: what a field reports of a value is true of it.
* `Schema.exists_walk_of_mem_validate`: the violations of a document lead to values that they are
  true of.
-/

namespace SchemaCheck

/-! ### Walking along a path -/

namespace Json

/-- The value that a path leads to from a value below the root.  A key that an object does not have
leads to null. -/
def follow? : Path → Json → Option Json
  | [], value => some value
  | .key key :: path, value =>
    value.object?.bind fun members => follow? path ((members.lookup key).getD .null)
  | .index i :: path, value =>
    value.items?.bind fun items => items[i]?.bind fun item => follow? path item

/-- **The value that a path leads to from the root.**  The first step is a key, and in a document
that is no object it leads to null. -/
def walk? (document : Json) : Path → Option Json
  | .key key :: path => follow? path (document.valueAt key)
  | _ => none

/-- The object that a path leads to.  At the root, a text does not count as the object that it
spells. -/
def objectAt? (document : Json) : Path → Option (List (String × Json))
  | [] =>
    match document with
    | .object members => some members
    | _ => none
  | path => (document.walk? path).bind object?

/-- A path is followed one part after the other. -/
lemma follow?_append (path path' : Path) (value : Json) :
    follow? (path ++ path') value = (follow? path value).bind (follow? path') := by
  induction path generalizing value with
  | nil => rfl
  | cons segment path ih =>
      cases segment with
      | key key =>
          rw [List.cons_append, follow?, follow?]
          cases value.object? with
          | none => rfl
          | some members => exact ih _
      | index i =>
          rw [List.cons_append, follow?, follow?]
          cases value.items? with
          | none => rfl
          | some items =>
              simp only [Option.bind_some]
              cases items[i]? with
              | none => rfl
              | some item => exact ih _

lemma walk?_append {document value : Json} {path : Path} (h : document.walk? path = some value)
    (path' : Path) : document.walk? (path ++ path') = follow? path' value := by
  rcases path with _ | ⟨key | i, path⟩
  · cases h
  · rw [walk?] at h
    rw [List.cons_append, walk?, follow?_append, h, Option.bind_some]
  · cases h

lemma objectAt?_of_walk? {document value : Json} {path : Path} {members : List (String × Json)}
    (h : document.walk? path = some value) (hobject : value.object? = some members) :
    document.objectAt? path = some members := by
  cases path with
  | nil => cases h
  | cons segment path => exact (congrArg (·.bind object?) h).trans hobject

/-- From an object a walk goes on to the value under any key, which may be missing. -/
lemma walk?_of_objectAt? {document : Json} {path : Path} {members : List (String × Json)}
    (h : document.objectAt? path = some members) (key : String) :
    document.walk? (path ++ [.key key]) = some ((members.lookup key).getD .null) := by
  cases path with
  | nil =>
      cases document with
      | object members' =>
          obtain rfl : members' = members := Option.some.inj h
          rfl
      | _ => cases h
  | cons segment path =>
      obtain ⟨value, hwalk, hobject⟩ := Option.bind_eq_some_iff.1 h
      rw [walk?_append hwalk, follow?, hobject, Option.bind_some, follow?]

end Json

/-! ### What reasons say -/

namespace Json.Number

/-- The number is below a bound: exactly where the bound is an integer, and as the nearest binary
number where it is a binary one. -/
def Below (n : Number) : Bound → Prop
  | .integer k => n.exact < k * Binary64.grainsPerUnit
  | .float x => n.toBinary64 < x

/-- The number is above a bound. -/
def Above (n : Number) : Bound → Prop
  | .integer k => k * Binary64.grainsPerUnit < n.exact
  | .float x => x < n.toBinary64

/-- The number is between two bounds of one sort, or is one of them. -/
def Between (n : Number) : Bound × Bound → Prop
  | (.integer k, .integer m) =>
    k * Binary64.grainsPerUnit ≤ n.exact ∧ n.exact ≤ m * Binary64.grainsPerUnit
  | (.float x, .float y) => x ≤ n.toBinary64 ∧ n.toBinary64 ≤ y
  | _ => False

end Json.Number

/-- **What a reason says of a value.**  That a field is unknown is said of a place, and of no
value. -/
def Reason.TrueOf : Reason → Json → Prop
  | .required, value => value = .null
  | .wrongKind expected found, value =>
    value.kind = found ∨
      expected = .object ∧
        ∃ text spelled, value = .string text ∧ Json.readText text = .ok spelled ∧
          spelled.kind = found
  | .notPositive, value => ∃ n, value = .number n ∧ n.exact < 0
  | .notNegative, value => ∃ n, value = .number n ∧ 0 < n.exact
  | .belowMinimum min, value => ∃ n, value = .number n ∧ n.Below min
  | .aboveMaximum max, value => ∃ n, value = .number n ∧ n.Above max
  | .outOfRanges ranges, value => ∃ n, value = .number n ∧ ∀ range ∈ ranges, ¬n.Between range
  | .tooFewCharacters min, value => ∃ text, value = .string text ∧ text.length < min
  | .tooManyCharacters max, value => ∃ text, value = .string text ∧ max < text.length
  | .formatMismatch source, value =>
    ∃ text pattern, value = .string text ∧ Pattern.ofSource? source = some pattern ∧
      pattern.occursIn text = false
  | .notAChoice choices, value => ∃ text, value = .string text ∧ text ∉ choices
  | .unexpectedBoolean expected, value => ∃ b, value = .bool b ∧ b ≠ expected
  | .notNull, value => value ≠ .null
  | .tooFewItems min, value => ∃ items, value = .array items ∧ items.length < min
  | .tooManyItems max, value => ∃ items, value = .array items ∧ max < items.length
  | .fixedLengthMismatch expected found, value =>
    ∃ items, value = .array items ∧ items.length = found ∧ found ≠ expected
  | .invalidJson fault, value => ∃ text, value = .string text ∧ Json.readText text = .error fault
  | .unknownField, _ => False

/-! ### Places in a schema -/

mutual

/-- A field of the schema looks at what the path leads to. -/
inductive Schema.Has (schema : Schema) : Path → Field → Prop
  | member {path : Path} {inner : Schema} {field : Field} :
      schema.Governs path inner → field ∈ inner.fields →
      schema.Has (path ++ [.key field.name]) field
  | item {path : Path} {name : String} {required : Bool} {lengths : Lengths} {field : Field}
      (i : Nat) :
      schema.Has path (.list name required lengths field) → schema.Has (path ++ [.index i]) field
  | place {path : Path} {name : String} {required : Bool} {lengths : Lengths}
      {fields : List Field} {field : Field} {i : Nat} :
      schema.Has path (.tuple name required lengths fields) → fields[i]? = some field →
      schema.Has (path ++ [.index i]) field

/-- The schema itself, or one nested in it, is the schema of the object that the path leads to. -/
inductive Schema.Governs (schema : Schema) : Path → Schema → Prop
  | root : schema.Governs [] schema
  | nested {path : Path} {name : String} {required : Bool} {inner : Schema} :
      schema.Has path (.object name required inner) → schema.Governs path inner

end

/-- The path leads to the member of an object under a key that is not declared: the schema of that
object is strict, and no field of it has the name. -/
def Schema.Undeclared (schema : Schema) (document : Json) (path : Path) (key : String) : Prop :=
  ∃ parent members value inner, path = parent ++ [.key key] ∧
    document.objectAt? parent = some members ∧ members.lookup key = some value ∧
    schema.Governs parent inner ∧ inner.strict = true ∧ ∀ field ∈ inner.fields, field.name ≠ key

/-! ### Visits are found -/

/-- The path of the visit leads to what is visited. -/
def Visit.Found (schema : Schema) (document : Json) : Visit → Prop
  | .look path field value => document.walk? path = some value ∧ schema.Has path field
  | .stray path key => schema.Undeclared document path key

namespace Visit

variable {schema : Schema} {document : Json}

/-- Where a nested schema governs, its visits are found. -/
lemma found_of_mem_visits {path : Path} {inner : Schema} {value : Json}
    (hgoverns : schema.Governs path inner)
    (hwalk : ∀ key, document.walk? (path ++ [.key key]) = some (value.valueAt key))
    (hobject : ∀ members, value = .object members → document.objectAt? path = some members)
    {visit : Visit} (h : visit ∈ inner.visits path value) : visit.Found schema document := by
  rw [Schema.visits] at h
  split at h
  · obtain ⟨field, hfield, rfl⟩ := List.mem_map.1 h
    exact ⟨hwalk field.name, .member hgoverns hfield⟩
  · obtain ⟨key, hkey, rfl⟩ := List.mem_map.1 h
    cases value with
    | object members =>
        have hstray : inner.strict = true ∧ (∃ member ∈ members, member.1 = key) ∧
            ∀ field ∈ inner.fields, field.name ≠ key := by
          rw [Schema.strayKeys] at hkey
          split at hkey
          · next hstrict =>
              obtain ⟨hmem, hfree⟩ := List.mem_filter.1 hkey
              exact ⟨hstrict, List.mem_map.1 hmem, by simpa using hfree⟩
          · cases hkey
        obtain ⟨hstrict, hmember, hfree⟩ := hstray
        have hsome : (members.lookup key).isSome = true := by
          rw [List.lookup_isSome_iff]
          exact hmember.imp fun member h => ⟨h.1, beq_iff_eq.2 h.2.symm⟩
        obtain ⟨value, hvalue⟩ := Option.isSome_iff_exists.1 hsome
        exact ⟨path, members, value, inner, rfl, hobject members rfl, hvalue, hgoverns, hstrict,
          hfree⟩
    | _ => simp [Schema.strayKeys] at hkey

/-- **One step**: the visits right below a visit that is found are found. -/
lemma Found.of_mem_below {visit next : Visit} (h : visit.Found schema document)
    (hnext : next ∈ visit.below) : next.Found schema document := by
  unfold below at hnext
  split at hnext
  · next path name required lengths item items =>
      obtain ⟨hwalk, hhas⟩ := h
      obtain ⟨⟨value, i⟩, hx, rfl⟩ := List.mem_map.1 hnext
      refine ⟨?_, .item i hhas⟩
      rw [Json.walk?_append hwalk]
      simp [Json.follow?, Json.items?, List.mem_zipIdx_iff_getElem?.1 hx]
  · next path name required lengths fields items =>
      obtain ⟨hwalk, hhas⟩ := h
      split at hnext
      · obtain ⟨⟨⟨field, value⟩, i⟩, hx, rfl⟩ := List.mem_map.1 hnext
        obtain ⟨hfield, hvalue⟩ := List.getElem?_zip_eq_some.1 (List.mem_zipIdx_iff_getElem?.1 hx)
        refine ⟨?_, .place hhas hfield⟩
        rw [Json.walk?_append hwalk]
        simp [Json.follow?, Json.items?, hvalue]
      · cases hnext
  · next path name required inner value =>
      obtain ⟨hwalk, hhas⟩ := h
      split at hnext
      · next members hmembers =>
          refine found_of_mem_visits (.nested hhas) (fun key => ?_) (fun _ heq => ?_) hnext
          · rw [Json.walk?_append hwalk]
            simp [Json.follow?, hmembers, Json.valueAt, Json.member?]
          · cases heq
            exact Json.objectAt?_of_walk? hwalk hmembers
      · cases hnext
  · exact absurd hnext List.not_mem_nil

/-- What visits hand on to those right below them holds of all visits below one that it holds of. -/
lemma forall_mem_preorder {P : Visit → Prop}
    (hstep : ∀ visit, P visit → ∀ next ∈ visit.below, P next)
    {visit : Visit} (h : P visit) : ∀ other ∈ visit.preorder, P other := by
  induction hsize : visit.size using Nat.strongRecOn generalizing visit with
  | _ size ih =>
      intro other hother
      rw [preorder_eq_cons] at hother
      rcases List.mem_cons.1 hother with rfl | hother
      · exact h
      · obtain ⟨next, hnext, hother⟩ := List.mem_flatMap.1 hother
        have hlt := size_lt_of_mem_below hnext
        exact ih _ (by omega) (hstep visit h next hnext) rfl other hother

/-- **A whole tour**: every visit is found. -/
theorem found_of_mem_tour {visit : Visit} (h : visit ∈ schema.tour document) :
    visit.Found schema document := by
  obtain ⟨first, hfirst, hvisit⟩ := List.mem_flatMap.1 h
  refine forall_mem_preorder (fun _ hfound _ => hfound.of_mem_below) ?_ visit hvisit
  refine found_of_mem_visits .root (fun key => rfl) (fun members heq => ?_) hfirst
  rw [heq, Json.objectAt?]

end Visit

/-! ### What is reported is true -/

/-- All checks that are broken are broken by the value. -/
def Check.TrueOf (checks : List Check) (value : Json) : Prop :=
  ∀ check ∈ checks, check.Broken → check.reason.TrueOf value

/-- The number `x` that stands for the number `n` shows how this is to the bounds. -/
structure Limit.Shows {α β : Type} [Limit α] [LT β] [LE β] (value : α → β) (n : Json.Number)
    (x : β) : Prop where
  negative : x < value Limit.zero → n.exact < 0
  positive : value Limit.zero < x → 0 < n.exact
  below : ∀ limit, x < value limit → n.Below (Limit.toBound limit)
  above : ∀ limit, value limit < x → n.Above (Limit.toBound limit)
  between : ∀ start stop, n.Between (Limit.toBound start, Limit.toBound stop) →
    value start ≤ x ∧ x ≤ value stop

/-- A whole number is compared with integer limits as its value is. -/
lemma Limit.shows_toInt {n : Json.Number} {k : Int} (h : n.IsInt k) :
    Limit.Shows Int64.toInt n k := by
  have hpos : (0 : Int) < Binary64.grainsPerUnit := Int.natCast_pos.2 Binary64.grainsPerUnit_pos
  have hexact : n.exact = k * Binary64.grainsPerUnit := h
  refine ⟨fun hlt => ?_, fun hgt => ?_, fun limit hlt => ?_, fun limit hgt => ?_,
    fun start stop hbetween => ?_⟩
  · rw [hexact]
    exact Int.mul_neg_of_neg_of_pos hlt hpos
  · rw [hexact]
    exact Int.mul_pos hgt hpos
  · change n.exact < limit.toInt * _
    rw [hexact]
    exact Int.mul_lt_mul_of_pos_right hlt hpos
  · change limit.toInt * _ < n.exact
    rw [hexact]
    exact Int.mul_lt_mul_of_pos_right hgt hpos
  · change start.toInt * _ ≤ n.exact ∧ n.exact ≤ stop.toInt * _ at hbetween
    rw [hexact] at hbetween
    exact ⟨Int.le_of_mul_le_mul_right hbetween.1 hpos, Int.le_of_mul_le_mul_right hbetween.2 hpos⟩

namespace Binary64

/-- Rounding keeps the sign. -/
lemma negative_of_ofRatio? {negative : Bool} {num den : Nat} {x : Finite}
    (h : Finite.ofRatio? negative num den = some x) : x.negative = negative := by
  simp only [Finite.ofRatio?] at h
  split at h <;> split at h <;> cases h <;> rfl

lemma grains_zero (negative : Bool) : (Finite.zero negative).grains = 0 := by
  cases negative <;> rfl

lemma ofRatio?_zero (negative : Bool) (den : Nat) :
    Finite.ofRatio? negative 0 den = some (.zero negative) := by
  have hexcess : Finite.excess 0 = 0 := rfl
  have hround : ∀ den, divRound 0 den = 0 := by simp [divRound]
  simp [Finite.ofRatio?, Nat.zero_div, hexcess, hround, Finite.zero]

/-- Only a negative ratio is rounded below zero. -/
lemma negative_of_ofRatio_lt_zero {negative : Bool} {num den : Nat}
    (h : ofRatio negative num den < .finite (.zero false)) : negative = true := by
  have horder := order?_eq_lt_iff.2 h
  unfold ofRatio at horder
  by_contra hnot
  rw [Bool.not_eq_true] at hnot
  subst hnot
  cases hratio : Finite.ofRatio? false num den with
  | none => simp [hratio, order?] at horder
  | some x =>
      rw [hratio, order?, Option.some.injEq, Int.compare_eq_lt, grains_zero] at horder
      have hgrains : x.grains = x.magnitude := by
        simp [Finite.grains, negative_of_ofRatio? hratio]
      omega

/-- Only a positive ratio is rounded above zero. -/
lemma positive_of_zero_lt_ofRatio {negative : Bool} {num den : Nat}
    (h : .finite (.zero false) < ofRatio negative num den) : negative = false ∧ 0 < num := by
  have horder := order?_eq_lt_iff.2 h
  unfold ofRatio at horder
  refine ⟨?_, Nat.pos_of_ne_zero ?_⟩
  · by_contra hnot
    rw [Bool.not_eq_false] at hnot
    subst hnot
    cases hratio : Finite.ofRatio? true num den with
    | none => simp [hratio, order?] at horder
    | some x =>
        rw [hratio, order?, Option.some.injEq, Int.compare_eq_lt, grains_zero] at horder
        have hgrains : x.grains = -x.magnitude := by
          simp [Finite.grains, negative_of_ofRatio? hratio]
        omega
  · rintro rfl
    simp [ofRatio?_zero, order?, grains_zero] at horder

end Binary64

/-- A number is compared with binary limits as it is rounded. -/
lemma Limit.shows_toBinary64 (n : Json.Number) : Limit.Shows id n n.toBinary64 where
  negative h := by
    have hpos : (0 : Int) < Binary64.grainsPerUnit := Int.natCast_pos.2 Binary64.grainsPerUnit_pos
    cases n with
    | whole k =>
        have hneg : decide (k < 0) = true := Binary64.negative_of_ofRatio_lt_zero h
        exact Int.mul_neg_of_neg_of_pos (of_decide_eq_true hneg) hpos
    | float x =>
        have horder : some (compare x.grains (Binary64.Finite.zero false).grains) = some .lt := h
        rwa [Option.some.injEq, Int.compare_eq_lt, Binary64.grains_zero] at horder
  positive h := by
    have hpos : (0 : Int) < Binary64.grainsPerUnit := Int.natCast_pos.2 Binary64.grainsPerUnit_pos
    cases n with
    | whole k =>
        obtain ⟨hsign, hnum⟩ := Binary64.positive_of_zero_lt_ofRatio h
        have hnonneg : ¬k < 0 := of_decide_eq_false hsign
        have habs : 0 < k.natAbs := Nat.pos_of_mul_pos_right hnum
        exact Int.mul_pos (by omega) hpos
    | float x =>
        have horder : some (compare (Binary64.Finite.zero false).grains x.grains) = some .lt := h
        rwa [Option.some.injEq, Int.compare_eq_lt, Binary64.grains_zero] at horder
  below _ h := h
  above _ h := h
  between _ _ h := h

namespace Check

lemma TrueOf.append {checks more : List Check} {value : Json} (h : TrueOf checks value)
    (hmore : TrueOf more value) : TrueOf (checks ++ more) value := by
  intro check hcheck
  rcases List.mem_append.1 hcheck with hcheck | hcheck
  · exact h check hcheck
  · exact hmore check hcheck

lemma TrueOf.singleton {check : Check} {value : Json}
    (h : check.Broken → check.reason.TrueOf value) : TrueOf [check] value := by
  intro check' hcheck
  obtain rfl := List.mem_singleton.1 hcheck
  exact h

/-- A rule that is only there where a limit is set. -/
lemma TrueOf.optional {α : Type} {limit : Option α} {check : α → Check} {value : Json}
    (h : ∀ x, (check x).Broken → (check x).reason.TrueOf value) :
    TrueOf (limit.toList.map check) value := by
  cases limit with
  | none => exact fun _ hcheck => absurd hcheck List.not_mem_nil
  | some x => exact TrueOf.singleton (h x)

lemma TrueOf.nil (value : Json) : TrueOf [] value := fun _ hcheck => absurd hcheck List.not_mem_nil

lemma TrueOf.mistyped (expected : Kind) (value : Json) :
    TrueOf [mistyped expected value] value :=
  TrueOf.singleton fun _ => .inl rfl

end Check

lemma Rules.trueOf_checks {α β : Type} [Limit α] [LT β] [LE β] [DecidableLT β] [DecidableLE β]
    {value : α → β} {n : Json.Number} {x : β} (h : Limit.Shows value n x) (rules : Rules α) :
    Check.TrueOf (rules.checks value x) (.number n) := by
  refine (((Check.TrueOf.optional ?_).append (.optional ?_)).append (.optional ?_)).append
    (.optional ?_)
  · rintro (_ | _) hbroken
    · exact ⟨n, rfl, h.negative hbroken⟩
    · exact ⟨n, rfl, h.positive hbroken⟩
  · exact fun min hbroken => ⟨n, rfl, h.below min hbroken⟩
  · exact fun max hbroken => ⟨n, rfl, h.above max hbroken⟩
  · refine fun ranges hbroken => ⟨n, rfl, fun pair hpair hbetween => ?_⟩
    obtain ⟨range, hrange, rfl⟩ := List.mem_map.1 hpair
    exact hbroken range hrange (h.between _ _ hbetween)

lemma TextRules.trueOf_checks (rules : TextRules) (text : String) :
    Check.TrueOf (rules.checks text) (.string text) := by
  rw [checks]
  split
  · exact .singleton fun hbroken => ⟨text, rfl, hbroken⟩
  · refine ((Check.TrueOf.optional ?_).append (.optional ?_)).append (.optional ?_)
    · exact fun min hbroken => ⟨text, rfl, hbroken⟩
    · exact fun max hbroken => ⟨text, rfl, hbroken⟩
    · exact fun pattern hbroken => ⟨text, pattern, rfl, pattern.ofSource?_source, hbroken⟩

lemma Lengths.trueOf_checks (lengths : Lengths) (items : List Json) :
    Check.TrueOf (lengths.checks items.length) (.array items) := by
  refine (Check.TrueOf.optional ?_).append (.optional ?_)
  · exact fun min hbroken => ⟨items, rfl, hbroken⟩
  · exact fun max hbroken => ⟨items, rfl, hbroken⟩

/-- **What a field finds broken is true of the value.** -/
theorem Field.trueOf_checks (field : Field) (value : Json) :
    Check.TrueOf (field.checks value) value := by
  induction field, value using checks_cases with
  | null name value =>
      refine .singleton fun hbroken => ?_
      exact fun hvalue => hbroken (Json.kind_eq_null_iff.2 hvalue)
  | absent field => exact .singleton fun _ => rfl
  | mistyped field value => exact .mistyped _ _
  | integer name required rules n k hwhole =>
      exact rules.trueOf_checks (Limit.shows_toInt (Json.Number.whole?_eq_some_iff.1 hwhole))
  | float name required rules n => exact rules.trueOf_checks (Limit.shows_toBinary64 n)
  | string name required rules text => exact rules.trueOf_checks text
  | boolean name required expected b => exact .optional fun expected hbroken => ⟨b, rfl, hbroken⟩
  | list name required lengths item items => exact lengths.trueOf_checks items
  | tuple name required lengths fields items =>
      refine (lengths.trueOf_checks items).append (.singleton fun hbroken => ?_)
      exact ⟨items, rfl, rfl, Ne.symm hbroken⟩
  | object => exact .nil _
  | spelled name required schema text value hread =>
      exact .singleton fun _ => .inr ⟨rfl, text, value, rfl, hread, rfl⟩
  | garbled name required schema text fault hread => exact .singleton fun _ => ⟨text, rfl, hread⟩

/-! ### The violations of a document -/

/-- **The violations of a document are true of it.**  The path of a violation is a key and perhaps
more steps, and leads to a value.  Either a field of the schema looks at that value, and the reason
is true of it; or the field is unknown, and the value is there under an undeclared key. -/
theorem Schema.exists_walk_of_mem_validate {schema : Schema} {document : Json}
    {violation : Violation} (h : violation ∈ schema.validate document) :
    ∃ key path value, violation.path = .key key :: path ∧
      document.walk? violation.path = some value ∧
      ((∃ field, schema.Has violation.path field ∧ field.name = violation.field ∧
          violation.reason.TrueOf value) ∨
        violation.reason = .unknownField ∧
          schema.Undeclared document violation.path violation.field) := by
  have hkey : ∀ {path : Path} {value : Json}, document.walk? path = some value →
      ∃ key rest, path = .key key :: rest := by
    intro path value hwalk
    rcases path with _ | ⟨key | i, rest⟩
    · cases hwalk
    · exact ⟨key, rest, rfl⟩
    · cases hwalk
  rcases exists_visit_of_mem_validate h with
    ⟨field, value, htour, hname, check, hcheck, hbroken, hreason⟩ | ⟨htour, hreason⟩
  · obtain ⟨hwalk, hhas⟩ := Visit.found_of_mem_tour htour
    obtain ⟨key, rest, hpath⟩ := hkey hwalk
    have htrue : violation.reason.TrueOf value :=
      hreason ▸ field.trueOf_checks value check hcheck hbroken
    exact ⟨key, rest, value, hpath, hwalk, .inl ⟨field, hhas, hname, htrue⟩⟩
  · obtain ⟨parent, members, value, inner, hpath, hobject, hmember, hinner⟩ :=
      Visit.found_of_mem_tour htour
    have hwalk := Json.walk?_of_objectAt? hobject violation.field
    rw [hmember, Option.getD_some, ← hpath] at hwalk
    obtain ⟨key, rest, hkeys⟩ := hkey hwalk
    exact ⟨key, rest, value, hkeys, hwalk, .inr ⟨hreason, parent, members, value, inner, hpath,
      hobject, hmember, hinner⟩⟩

/-- An object that may have no members at all, spelled by the text of an item, has one. -/
theorem Schema.exists_walk_spelled_member :
    let schema : Schema := ⟨[.list "boxes" false {} (.object "box" false ⟨[], true⟩)], false⟩
    let document : Json :=
      .object [("boxes", .array [.object [], .string "\x7b\"lid\":null\x7d"])]
    let violation : Violation :=
      ⟨[.key "boxes", .index 1, .key "lid"], "lid", .unknownField⟩
    violation ∈ schema.validate document ∧
      ∃ key path value, violation.path = .key key :: path ∧
        document.walk? violation.path = some value ∧
        ((∃ field, schema.Has violation.path field ∧ field.name = violation.field ∧
            violation.reason.TrueOf value) ∨
          violation.reason = .unknownField ∧
            schema.Undeclared document violation.path violation.field) := by
  intro schema document violation
  have hvalidate : schema.validate document = [violation] := by cbv
  have hmem : violation ∈ schema.validate document := hvalidate ▸ List.mem_singleton_self violation
  exact ⟨hmem, exists_walk_of_mem_validate hmem⟩

end SchemaCheck
