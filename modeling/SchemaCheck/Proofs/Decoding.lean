import Mathlib.Tactic.Common
import SchemaCheck.Proofs.Equality

/-!
# Reading violations back

The JSON form of a violation tells all that there is to the violation.

* `Bound.IsFinite`, `Reason.bounds`: the limits that a reason shows, of which only finite ones have
  a JSON form of their own.
* `Bound.ofJson?`, `Reason.ofParts?`, `Violation.ofJson?`: what a JSON value is read back as.
* `Violation.ofJson?_toJson`: the form of a violation is read back as that violation.
* `Violation.rel_ofJson?`: values that are equal as JSON values are read back as equal violations.
* `Violation.eq_of_toJson_eq`: so lists of violations are told apart by their JSON forms.
-/

namespace SchemaCheck

/-! ### Limits -/

/-- A limit that has a JSON form of its own. -/
def Bound.IsFinite : Bound → Prop
  | .integer _ => True
  | .float x => ∃ y, x = .finite y

/-- The limits that a reason shows. -/
def Reason.bounds : Reason → List Bound
  | .belowMinimum limit | .aboveMaximum limit => [limit]
  | .outOfRanges ranges => ranges.flatMap fun range => [range.1, range.2]
  | _ => []

/-- Every limit that the violation shows is finite. -/
def Violation.FiniteBounds (violation : Violation) : Prop :=
  ∀ bound ∈ violation.reason.bounds, bound.IsFinite

/-! ### Reading -/

/-- The limit that a value is the form of. -/
def Bound.ofJson? : Json → Option Bound
  | .number (.whole n) => some (.integer n)
  | .number (.float x) => some (.float (.finite x))
  | _ => none

namespace Json

/-- The count that a number is. -/
def count? : Json → Option Nat
  | .number (.whole n) => if 0 ≤ n then some n.toNat else none
  | _ => none

/-- The kind that a text names. -/
def kindNamed? (value : Json) : Option Kind := value.string?.bind Kind.ofName?

/-- The texts that an array holds. -/
def texts? (value : Json) : Option (List String) := value.items?.bind fun items =>
  items.mapM string?

/-- The limits that a pair holds. -/
def ends? : Json → Option (Bound × Bound)
  | .array [start, stop] => (Bound.ofJson? start).bind fun start =>
      (Bound.ofJson? stop).map fun stop => (start, stop)
  | _ => none

/-- What the member under a key is read as. -/
def part? {α : Type} (read : Json → Option α) (key : String) (value : Option Json) : Option α :=
  (value.bind fun value => value.member? key).bind read

end Json

open Json in
/-- The reason with the given tag and detail. -/
def Reason.ofParts? (tag : String) (detail : Option Json) : Option Reason :=
  match tag with
  | "required" => some .required
  | "type_mismatch" => (part? kindNamed? "expected" detail).bind fun expected =>
      (part? kindNamed? "found" detail).map fun found => .wrongKind expected found
  | "not_positive" => some .notPositive
  | "not_negative" => some .notNegative
  | "below_minimum" => (detail.bind Bound.ofJson?).map .belowMinimum
  | "above_maximum" => (detail.bind Bound.ofJson?).map .aboveMaximum
  | "out_of_ranges" => ((detail.bind items?).bind fun items => items.mapM ends?).map .outOfRanges
  | "too_few_characters" => (part? count? "min" detail).map .tooFewCharacters
  | "too_many_characters" => (part? count? "max" detail).map .tooManyCharacters
  | "format_mismatch" => (part? string? "pattern" detail).map .formatMismatch
  | "not_a_choice" => (part? texts? "choices" detail).map .notAChoice
  | "unexpected_boolean" => (part? bool? "expected" detail).map .unexpectedBoolean
  | "not_null" => some .notNull
  | "too_few_items" => (part? count? "min" detail).map .tooFewItems
  | "too_many_items" => (part? count? "max" detail).map .tooManyItems
  | "fixed_length_mismatch" => (part? count? "expected" detail).bind fun expected =>
      (part? count? "found" detail).map fun found => .fixedLengthMismatch expected found
  | "invalid_json" => (part? string? "reason" detail).map .invalidJson
  | "unknown_field" => some .unknownField
  | _ => none

open Json in
/-- The violation that a value is the form of. -/
def Violation.ofJson? (value : Json) : Option Violation :=
  ((value.member? "path").bind items?).bind fun segments =>
    (segments.mapM Segment.ofJson?).bind fun path =>
      (part? string? "field" (some value)).bind fun field =>
        (part? string? "kind" (some value)).bind fun tag =>
          (Reason.ofParts? tag (value.member? "detail")).map fun reason => ⟨path, field, reason⟩

/-! ### Violations are read back -/

/-- Items are read back one by one. -/
lemma mapM_map_eq_some {α : Type} {write : α → Json} {read : Json → Option α} {xs : List α}
    (h : ∀ x ∈ xs, read (write x) = some x) : (xs.map write).mapM read = some xs := by
  induction xs with
  | nil => rfl
  | cons x xs ih =>
      obtain ⟨hfirst, hrest⟩ := List.forall_mem_cons.1 h
      simp [hfirst, ih hrest]

/-- A finite limit is read back as it is. -/
lemma Bound.ofJson?_toJson {bound : Bound} (h : bound.IsFinite) :
    ofJson? bound.toJson = some bound := by
  cases bound with
  | integer n => rfl
  | float x =>
      obtain ⟨y, rfl⟩ := h
      rfl

lemma Json.kindNamed?_name (kind : Kind) : kindNamed? (.string kind.name) = some kind :=
  Kind.ofName?_eq_some_iff.2 rfl

lemma Json.texts?_array (texts : List String) :
    texts? (.array (texts.map .string)) = some texts :=
  mapM_map_eq_some fun _ _ => rfl

lemma Json.count?_count (n : Nat) : count? (Reason.count n) = some n := by
  simp [count?, Reason.count]

namespace Reason

/-- Ranges with finite limits are read back, each by its two ends. -/
lemma ends?_toJson {ranges : List (Bound × Bound)}
    (h : ∀ bound ∈ (outOfRanges ranges).bounds, bound.IsFinite) :
    (ranges.map fun (start, stop) => .array [start.toJson, stop.toJson]).mapM Json.ends? =
      some ranges := by
  refine mapM_map_eq_some fun (start, stop) hrange => ?_
  have hmem : ∀ bound ∈ [start, stop], bound ∈ (outOfRanges ranges).bounds := fun bound hbound =>
    List.mem_flatMap.2 ⟨_, hrange, hbound⟩
  have hstart := Bound.ofJson?_toJson (h start (hmem start (by simp)))
  have hstop := Bound.ofJson?_toJson (h stop (hmem stop (by simp)))
  simp [Json.ends?, hstart, hstop]

/-- **A reason is read back** from its tag and its detail. -/
theorem ofParts?_tag_detail? {reason : Reason} (h : ∀ bound ∈ reason.bounds, bound.IsFinite) :
    ofParts? reason.tag reason.detail? = some reason := by
  cases reason with
  | required | notPositive | notNegative | notNull | unknownField => rfl
  | belowMinimum limit | aboveMaximum limit =>
      have hback := Bound.ofJson?_toJson (h limit List.mem_cons_self)
      simp [ofParts?, tag, detail?, hback]
  | outOfRanges ranges =>
      have hback := ends?_toJson h
      simp [ofParts?, tag, detail?, Json.items?, hback]
  | wrongKind =>
      simp [ofParts?, tag, detail?, Json.part?, Json.member?, List.lookup, Json.kindNamed?_name]
  | notAChoice choices =>
      have hback := Json.texts?_array choices
      simp [ofParts?, tag, detail?, Json.part?, Json.member?, List.lookup, hback]
  | formatMismatch | invalidJson | unexpectedBoolean =>
      simp [ofParts?, tag, detail?, Json.part?, Json.member?, List.lookup, Json.string?, Json.bool?]
  | _ => simp [ofParts?, tag, detail?, Json.part?, Json.member?, List.lookup, Json.count?_count]

end Reason

/-- **A violation is read back** from its form. -/
theorem Violation.ofJson?_toJson {violation : Violation} (h : violation.FiniteBounds) :
    ofJson? violation.toJson = some violation := by
  obtain ⟨path, field, reason⟩ := violation
  have hpath : (path.map Segment.toJson).mapM Segment.ofJson? = some path :=
    mapM_map_eq_some fun segment _ => segment.ofJson?_toJson
  have hreason : Reason.ofParts? reason.tag reason.detail? = some reason :=
    Reason.ofParts?_tag_detail? h
  cases hdetail : reason.detail? <;> rw [hdetail] at hreason <;>
    simp [ofJson?, toJson, hdetail, Json.part?, Json.member?, List.lookup, Json.items?,
      Json.string?, Path.toJson, hpath, hreason]

/-! ### Equal values are read alike -/

lemma rel_bind_of_eq {α β : Type} {S : β → β → Prop} {f g : α → Option β} {x y : Option α}
    (h : x = y) (hfg : ∀ a, Option.Rel S (f a) (g a)) : Option.Rel S (x.bind f) (y.bind g) := by
  subst h
  cases x with
  | none => exact .none
  | some a => exact hfg a

namespace Json.Same

variable {α : Type} {value value' : Json} {part part' : Option Json}

lemma string?_eq (h : value.Same value') : value.string? = value'.string? := by
  cases h <;> rfl

lemma bool?_eq (h : value.Same value') : value.bool? = value'.bool? := by
  cases h <;> rfl

lemma count?_eq (h : value.Same value') : value.count? = value'.count? := by
  cases h <;> rfl

lemma segment_eq (h : value.Same value') : Segment.ofJson? value = Segment.ofJson? value' := by
  cases h <;> rfl

lemma kindNamed?_eq (h : value.Same value') : value.kindNamed? = value'.kindNamed? := by
  rw [kindNamed?, kindNamed?, h.string?_eq]

/-- Items that are read alike make equal lists. -/
lemma mapM_eq {read : Json → Option α} (hread : ∀ x y, Same x y → read x = read y)
    {items items' : List Json} (h : List.Forall₂ Same items items') :
    items.mapM read = items'.mapM read := by
  induction h with
  | nil => rfl
  | cons hitem _ ih => rw [List.mapM_cons, List.mapM_cons, hread _ _ hitem, ih]

/-- Values that are the same are read as the same texts. -/
lemma texts?_eq (h : value.Same value') : value.texts? = value'.texts? := by
  rw [texts?, texts?]
  rcases rel_cases h.rel_items? with ⟨hx, hy⟩ | ⟨items, items', hx, hy, hitems⟩
  · rw [hx, hy]
  · rw [hx, hy]
    exact mapM_eq (fun _ _ => string?_eq) hitems

lemma rel_member? (h : value.Same value') (key : String) :
    Option.Rel Same (value.member? key) (value'.member? key) := by
  cases h with
  | object hkeys hvalues => exact rel_lookup (.object hkeys hvalues) key
  | _ => exact .none

/-- A part is read alike where the members are the same. -/
lemma part?_eq {read : Json → Option α} (hread : ∀ x y, Same x y → read x = read y)
    (h : Option.Rel Same part part') (key : String) :
    part? read key part = part? read key part' := by
  rw [part?, part?]
  rcases rel_cases (rel_bind h fun _ _ hvalue => hvalue.rel_member? key) with
    ⟨hx, hy⟩ | ⟨x, y, hx, hy, hxy⟩
  · rw [hx, hy]
  · rw [hx, hy]
    exact hread x y hxy

/-- Binary numbers that are equal make equal limits. -/
lemma rel_bound (h : value.Same value') : Option.Rel (fun bound bound' => (bound == bound') = true)
    (Bound.ofJson? value) (Bound.ofJson? value') := by
  cases h with
  | whole k => exact .some (beq_self_eq_true (α := Int) k)
  | @float x y hgrains =>
      refine .some ?_
      change ((Binary64.finite x).order? (.finite y) == some .eq) = true
      simp [Binary64.order?, hgrains]
  | _ => exact .none

/-- Values that are the same are read as ranges with equal ends. -/
lemma rel_ends? (h : value.Same value') : Option.Rel (fun range range' => (range == range') = true)
    value.ends? value'.ends? := by
  cases h with
  | @array items items' hlength hitems =>
      rcases items with _ | ⟨start, _ | ⟨stop, _ | ⟨third, items⟩⟩⟩ <;>
        rcases items' with _ | ⟨start', _ | ⟨stop', _ | ⟨third', items'⟩⟩⟩ <;>
        simp only [List.length_cons, List.length_nil] at hlength <;> try omega
      · exact .none
      · exact .none
      · have hstart := (hitems 0 start start' rfl rfl).rel_bound
        have hstop := (hitems 1 stop stop' rfl rfl).rel_bound
        refine rel_bind hstart fun a b hab => ?_
        rcases rel_cases hstop with ⟨hx, hy⟩ | ⟨c, d, hx, hy, hcd⟩
        · rw [hx, hy]
          exact .none
        · rw [hx, hy]
          exact .some (Bool.and_eq_true_iff.2 ⟨hab, hcd⟩)
      · exact .none
  | _ => exact .none

end Json.Same

namespace Reason

variable {part part' : Option Json} {reason reason' : Option Reason}

/-- Equal reasons, where there are any. -/
abbrev Agree (reason reason' : Option Reason) : Prop :=
  Option.Rel (fun reason reason' => (reason == reason') = true) reason reason'

lemma agree_some {reason : Reason} (h : reason.Plain) : Agree (some reason) (some reason) :=
  .some h.beq_self

/-- Reasons that are made of agreeing parts agree. -/
lemma agree_map {α : Type} {S : α → α → Prop} {make : α → Reason} {x y : Option α}
    (h : Option.Rel S x y) (hmake : ∀ a b, S a b → (make a == make b) = true) :
    Agree (x.map make) (y.map make) := by
  cases h with
  | none => exact .none
  | some hab => exact .some (hmake _ _ hab)

/-- Reasons without limits are equal where they are made of the same. -/
lemma agree_map_of_plain {α : Type} {make : α → Reason} {x y : Option α} (h : x = y)
    (hmake : ∀ a, (make a).Plain) : Agree (x.map make) (y.map make) := by
  subst h
  cases x with
  | none => exact .none
  | some a => exact agree_some (hmake a)

/-- **Equal details** are read back as equal reasons. -/
theorem agree_ofParts? (tag : String) (h : Option.Rel Json.Same part part') :
    Agree (ofParts? tag part) (ofParts? tag part') := by
  have hpart {α : Type} {read : Json → Option α}
      (hread : ∀ x y, Json.Same x y → read x = read y) (key : String) :=
    Json.Same.part?_eq hread h key
  have hcount := hpart fun _ _ => Json.Same.count?_eq
  have htext := hpart fun _ _ => Json.Same.string?_eq
  have hkind := hpart fun _ _ => Json.Same.kindNamed?_eq
  have hlimit : Option.Rel (fun bound bound' => (bound == bound') = true)
      (part.bind Bound.ofJson?) (part'.bind Bound.ofJson?) :=
    rel_bind h fun _ _ hvalue => hvalue.rel_bound
  have hranges : Option.Rel (List.Forall₂ fun range range' => (range == range') = true)
      ((part.bind Json.items?).bind fun items => items.mapM Json.ends?)
      ((part'.bind Json.items?).bind fun items => items.mapM Json.ends?) :=
    rel_bind (rel_bind h fun _ _ hvalue => hvalue.rel_items?) fun _ _ hitems =>
      rel_mapM (fun _ _ hitem => hitem.rel_ends?) hitems
  unfold ofParts?
  split
  · exact agree_some trivial
  · exact rel_bind_of_eq (hkind _) fun _ => agree_map_of_plain (hkind _) fun _ => trivial
  · exact agree_some trivial
  · exact agree_some trivial
  · exact agree_map hlimit fun _ _ hsame => hsame
  · exact agree_map hlimit fun _ _ hsame => hsame
  · exact agree_map hranges fun _ _ hsame => beq_iff_forall₂.2 hsame
  · exact agree_map_of_plain (hcount _) fun _ => trivial
  · exact agree_map_of_plain (hcount _) fun _ => trivial
  · exact agree_map_of_plain (htext _) fun _ => trivial
  · exact agree_map_of_plain (hpart (fun _ _ => Json.Same.texts?_eq) _) fun _ => trivial
  · exact agree_map_of_plain (hpart (fun _ _ => Json.Same.bool?_eq) _) fun _ => trivial
  · exact agree_some trivial
  · exact agree_map_of_plain (hcount _) fun _ => trivial
  · exact agree_map_of_plain (hcount _) fun _ => trivial
  · exact rel_bind_of_eq (hcount _) fun _ => agree_map_of_plain (hcount _) fun _ => trivial
  · exact agree_map_of_plain (htext _) fun _ => trivial
  · exact agree_some trivial
  · exact .none

end Reason

namespace Violation

/-- **Equal values** are read back as equal violations. -/
theorem rel_ofJson? {value value' : Json} (h : value.Same value') :
    Option.Rel (fun violation violation' => (violation == violation') = true)
      (ofJson? value) (ofJson? value') := by
  have hpath : ((value.member? "path").bind Json.items?).bind
        (fun segments => segments.mapM Segment.ofJson?) =
      ((value'.member? "path").bind Json.items?).bind
        fun segments => segments.mapM Segment.ofJson? := by
    have hitems := rel_bind (h.rel_member? "path") fun _ _ hvalue => hvalue.rel_items?
    rcases rel_cases hitems with ⟨hx, hy⟩ | ⟨x, y, hx, hy, hxy⟩
    · rw [hx, hy]
    · rw [hx, hy]
      exact Json.Same.mapM_eq (fun _ _ => Json.Same.segment_eq) hxy
  have htext := Json.Same.part?_eq (fun _ _ => Json.Same.string?_eq)
    (.some h : Option.Rel Json.Same (some value) (some value'))
  rw [ofJson?, ofJson?, ← Option.bind_assoc, ← Option.bind_assoc]
  refine rel_bind_of_eq hpath fun path => ?_
  refine rel_bind_of_eq (htext "field") fun field => ?_
  refine rel_bind_of_eq (htext "kind") fun tag => ?_
  rcases rel_cases (Reason.agree_ofParts? tag (h.rel_member? "detail")) with
    ⟨hx, hy⟩ | ⟨reason, reason', hx, hy, hsame⟩
  · rw [hx, hy]
    exact .none
  · rw [hx, hy]
    exact .some (beq_mk hsame)

/-- **The JSON form of violations loses nothing**, as long as the limits that they show are finite:
from it every violation is read back.  So lists of violations with one form are one list, and lists
whose forms are equal as JSON values, in which a limit of zero has no sign, are equal one by one. -/
theorem eq_of_toJson_eq {violations violations' : List Violation}
    (h : ∀ violation ∈ violations, violation.FiniteBounds)
    (h' : ∀ violation ∈ violations', violation.FiniteBounds) :
    (Json.array (violations.map toJson) = .array (violations'.map toJson) →
      violations = violations') ∧
    ((Json.array (violations.map toJson)).Same (.array (violations'.map toJson)) →
      Equal violations violations') := by
  have hback {violations : List Violation}
      (h : ∀ violation ∈ violations, violation.FiniteBounds) :
      (violations.map toJson).mapM ofJson? = some violations :=
    mapM_map_eq_some fun violation hviolation => ofJson?_toJson (h violation hviolation)
  constructor
  · intro heq
    have hitems : violations.map toJson = violations'.map toJson := Json.array.inj heq
    exact Option.some.inj ((hback h).symm.trans (hitems ▸ hback h'))
  · intro hsame
    have hread := rel_bind hsame.rel_items? fun _ _ hitems =>
      rel_mapM (fun _ _ hvalue => rel_ofJson? hvalue) hitems
    simp only [Json.items?, Option.bind_some, hback h, hback h'] at hread
    cases hread with
    | some hequal => exact hequal

/-- A minimum that is an integer, and ranges of binary numbers one of which begins at a negative
zero. -/
theorem eq_of_toJson_eq_ranges :
    let zero (negative : Bool) : Bound := .float (.finite (.zero negative))
    let violation (negative : Bool) : Violation :=
      ⟨[.key "a", .index 0], "b",
        .outOfRanges [(zero negative, zero false), (.integer 0, .integer 1)]⟩
    let violations (negative : Bool) : List Violation :=
      [violation negative, .here "c" (.belowMinimum (.integer 0))]
    (∀ x ∈ violations true, x.FiniteBounds) ∧ (∀ x ∈ violations false, x.FiniteBounds) ∧
      (Json.array ((violations true).map toJson)).Same
        (.array ((violations false).map toJson)) ∧
      Equal (violations true) (violations false) := by
  intro zero violation violations
  have hfinite : ∀ negative, ∀ x ∈ violations negative, x.FiniteBounds := by
    intro negative
    simp [violations, violation, zero, FiniteBounds, Reason.bounds, Bound.IsFinite, here]
  have hsame : (Json.array ((violations true).map toJson)).Same
      (.array ((violations false).map toJson)) := by
    have hself {member : String × Json} : member.1 = member.1 ∧ member.2.Same member.2 :=
      ⟨rfl, .refl _⟩
    have hrange : (Json.array [(zero true).toJson, (zero false).toJson]).Same
        (.array [(zero false).toJson, (zero false).toJson]) :=
      .array_of_forall₂ (.cons (.float rfl) (.cons (.refl _) .nil))
    have hfirst : (violation true).toJson.Same (violation false).toJson :=
      .object_of_members (.cons hself (.cons hself (.cons hself
        (.cons ⟨rfl, .array_of_forall₂ (.cons hrange (.cons (.refl _) .nil))⟩ .nil))))
    exact .array_of_forall₂ (.cons hfirst (.cons (.refl _) .nil))
  exact ⟨hfinite true, hfinite false, hsame,
    (eq_of_toJson_eq (hfinite true) (hfinite false)).2 hsame⟩

/-- Limits that are not finite have one form. -/
example : (here "a" (.belowMinimum (.float .nan))).toJson =
    (here "a" (.belowMinimum (.float (.infinite true)))).toJson := rfl

end Violation

end SchemaCheck
