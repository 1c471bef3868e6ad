import Mathlib.Tactic.Common
import SchemaCheck.Spec.Reading
import SchemaCheck.Spec.Writing

/-!
# Reading what was written

What the keys that a field writes are read as.

* `Checked.Restores`: a part is read as one value under a condition, and otherwise not at all.  A
  whole is restored where all its parts are (`Restores.ap`).
* `Json.Inverts`: a conversion finds the value that was written where the value can be written, and
  fails otherwise.
* `Members.restores_rules`, `restores_textRules`, `restores_lengths`: rules are restored where their
  numbers can be written, which leaves out a bound that is not finite (`Binary64.IsFinite`) and a
  number of characters or items beyond 64 bits (`FitsInt64`).
-/

namespace SchemaCheck

/-! ### Restored parts -/

namespace Checked

variable {α β : Type} {f : Checked (α → β)} {x : Checked α} {p q : Prop} {a : α} {g : α → β}

/-- The part is read as `a` where the condition `p` holds, and cannot be read otherwise. -/
def Restores (x : Checked α) (p : Prop) (a : α) : Prop := ∀ b, x = .ok b ↔ p ∧ b = a

/-- What is given restores itself. -/
lemma restores_ok (a : α) : Restores (.ok a) True a := by
  intro b
  simp [eq_comm]

lemma restores_build (a : α) : (build a).Restores True a := restores_ok a

/-- An error restores nothing. -/
lemma restores_error (errors : List SpecError) (a : α) : Restores (.error errors) False a := by
  intro b
  simp

lemma Restores.congr (h : x.Restores p a) (hpq : p ↔ q) : x.Restores q a := by
  intro b
  rw [h b, hpq]

/-- Parts that are restored each on a condition are restored together on both. -/
lemma Restores.ap (hf : f.Restores p g) (hx : x.Restores q a) :
    (f.ap x).Restores (p ∧ q) (g a) := by
  intro b
  rw [ap_eq_ok_iff]
  constructor
  · rintro ⟨g', a', hg, ha, rfl⟩
    obtain ⟨hp, rfl⟩ := (hf g').1 hg
    obtain ⟨hq, rfl⟩ := (hx a').1 ha
    exact ⟨⟨hp, hq⟩, rfl⟩
  · rintro ⟨⟨hp, hq⟩, rfl⟩
    exact ⟨g, a, (hf g).2 ⟨hp, rfl⟩, (hx a).2 ⟨hq, rfl⟩, rfl⟩

/-- What is made of a part is restored where the part is. -/
lemma Restores.map (hx : x.Restores p a) (g : α → β) : Restores (x.map g) p (g a) := by
  intro b
  rw [map_eq_ok_iff]
  constructor
  · rintro ⟨a', ha, rfl⟩
    obtain ⟨hp, rfl⟩ := (hx a').1 ha
    exact ⟨hp, rfl⟩
  · rintro ⟨hp, rfl⟩
    exact ⟨a, (hx a).2 ⟨hp, rfl⟩, rfl⟩

lemma Restores.within (hx : x.Restores p a) (path : Path) : (x.within path).Restores p a := by
  intro b
  rw [within_eq_ok_iff, hx b]

end Checked

/-! ### Conversions that find what was written -/

/-- A binary number that is neither infinite nor a NaN. -/
def Binary64.IsFinite (x : Binary64) : Prop := ∃ y, x = .finite y

instance : DecidablePred Binary64.IsFinite
  | .finite y => isTrue ⟨y, rfl⟩
  | .infinite _ => isFalse fun ⟨_, h⟩ => by cases h
  | .nan => isFalse fun ⟨_, h⟩ => by cases h

/-- A number of characters or items that a signed integer of 64 bits can be. -/
def FitsInt64 (n : Nat) : Prop := (n : Int) ≤ Int64.maxValue.toInt

instance : DecidablePred FitsInt64 := fun n => Int.decLe n Int64.maxValue.toInt

lemma Int64.toInt_ofInt_of_fits {n : Nat} (h : FitsInt64 n) : (Int64.ofInt n).toInt = n := by
  have hmax : (n : Int) ≤ 2 ^ 63 - 1 := Int64.toInt_maxValue ▸ h
  exact Int64.toInt_ofInt_of_le (by omega) (by omega)

namespace Json

/-- Of what `toJson` writes, the conversion finds the values with the property `P` and no others. -/
def Inverts {α : Type} (convert : Json → Option α) (toJson : α → Json) (P : α → Prop) : Prop :=
  ∀ x y, convert (toJson x) = some y ↔ P x ∧ y = x

lemma inverts_bool? : Inverts bool? .bool fun _ => True := by
  intro b b'
  simp [bool?, eq_comm]

lemma inverts_string? : Inverts string? .string fun _ => True := by
  intro s s'
  simp [string?, eq_comm]

lemma inverts_items? : Inverts items? .array fun _ => True := by
  intro items items'
  simp [items?, eq_comm]

/-- An integer limit is read as it was written. -/
lemma inverts_int64 : Inverts (Limit.ofJson? : Json → Option Int64) Limit.toJson fun _ => True := by
  intro n m
  have hread : Int64.ofJson? (.number (.whole n.toInt)) = some n := by
    change (if Int64.minValue.toInt ≤ n.toInt ∧ n.toInt ≤ Int64.maxValue.toInt
      then some (Int64.ofInt n.toInt) else none) = some n
    rw [if_pos ⟨n.minValue_le_toInt, n.toInt_le⟩, Int64.ofInt_toInt]
  change Int64.ofJson? (.number (.whole n.toInt)) = some m ↔ _
  rw [hread, true_and, Option.some.injEq, eq_comm]

/-- A binary limit is read as it was written exactly if it is finite. -/
lemma inverts_binary64 :
    Inverts (Limit.ofJson? : Json → Option Binary64) Limit.toJson Binary64.IsFinite := by
  intro x y
  cases x <;>
    simp [Limit.ofJson?, Limit.toJson, Binary64.toJson, number?, Number.toBinary64,
      Binary64.IsFinite, eq_comm]

/-- A length is read as it was written exactly if it fits into 64 bits. -/
lemma ofJson?_lengthJson (n : Nat) :
    Int64.ofJson? (lengthJson n) = if FitsInt64 n then some (Int64.ofInt n) else none := by
  have hmin : Int64.minValue.toInt ≤ n := Int.le_trans (by decide) (Int.natCast_nonneg n)
  change (if Int64.minValue.toInt ≤ (n : Int) ∧ FitsInt64 n then some (Int64.ofInt n)
    else none) = _
  simp only [hmin, true_and]

variable {α : Type} {convert : Json → Option α} {toJson : α → Json} {P : α → Prop}

/-- Values that are read as they were written are so in a list. -/
lemma Inverts.mapM (h : Inverts convert toJson P) (xs ys : List α) :
    (xs.map toJson).mapM convert = some ys ↔ (∀ x ∈ xs, P x) ∧ ys = xs := by
  induction xs generalizing ys with
  | nil => simp [eq_comm]
  | cons x xs ih =>
      rw [List.map_cons, List.mapM_cons, List.forall_mem_cons]
      constructor
      · intro hread
        obtain ⟨x', hx, hrest⟩ := Option.bind_eq_some_iff.1 hread
        obtain ⟨xs', hxs, hys⟩ := Option.bind_eq_some_iff.1 hrest
        obtain ⟨hp, rfl⟩ := (h x x').1 hx
        obtain ⟨hps, rfl⟩ := (ih xs').1 hxs
        exact ⟨⟨hp, hps⟩, (Option.some.inj hys).symm⟩
      · rintro ⟨⟨hp, hps⟩, rfl⟩
        rw [(h x x).2 ⟨hp, rfl⟩, (ih xs).2 ⟨hps, rfl⟩]
        rfl

/-- A list is read as it was written exactly if its items are. -/
lemma Inverts.list (h : Inverts convert toJson P) :
    Inverts (fun value => do (← value.items?).mapM convert) (fun xs => .array (xs.map toJson))
      fun xs => ∀ x ∈ xs, P x :=
  fun xs ys => h.mapM xs ys

/-- A range is read as it was written exactly if both of its ends are. -/
lemma inverts_range? [Limit α] (h : Inverts (Limit.ofJson? : Json → Option α) Limit.toJson P) :
    Inverts Members.range?
      (fun range : Range α =>
        .object [("start", Limit.toJson range.start), ("end", Limit.toJson range.stop)])
      fun range => P range.start ∧ P range.stop := by
  rintro ⟨start, stop⟩ range
  change ((Limit.ofJson? (Limit.toJson start)).bind fun start' =>
    (Limit.ofJson? (Limit.toJson stop)).bind fun stop' => some (⟨start', stop'⟩ : Range α)) =
      some range ↔ _
  constructor
  · intro hread
    obtain ⟨start', hstart, hrest⟩ := Option.bind_eq_some_iff.1 hread
    obtain ⟨stop', hstop, hrange⟩ := Option.bind_eq_some_iff.1 hrest
    obtain ⟨hp, rfl⟩ := (h start start').1 hstart
    obtain ⟨hq, rfl⟩ := (h stop stop').1 hstop
    exact ⟨⟨hp, hq⟩, (Option.some.inj hrange).symm⟩
  · rintro ⟨⟨hp, hq⟩, rfl⟩
    rw [(h start start).2 ⟨hp, rfl⟩, Option.bind_some, (h stop stop).2 ⟨hq, rfl⟩, Option.bind_some]

end Json

/-! ### Written keys -/

/-- What is found under a key that is written where there is a value. -/
lemma lookup_optionalMember {α : Type} (key key' : String) (value : Option α) (toJson : α → Json) :
    (optionalMember key value toJson).lookup key' =
      if key' = key then value.map toJson else none := by
  cases value with
  | none => simp [optionalMember]
  | some x =>
      rw [optionalMember, List.lookup_cons]
      by_cases hkey : key' = key
      · simp [hkey]
      · simp [hkey, beq_false_of_ne hkey]

namespace Members

open Checked

variable {α : Type} {members : Members} {key : String}

/-- **A key is restored** exactly if its value is read as it was written. -/
lemma restores_read {convert : Json → Option α} {toJson : α → Json} {P : α → Prop}
    (h : Json.Inverts convert toJson P) {value : Option α}
    (hlookup : members.lookup key = value.map toJson) (expected : String) :
    (members.read key expected convert).Restores (∀ x, value = some x → P x) value := by
  rw [read, hlookup]
  cases value with
  | none => exact (restores_ok none).congr (by simp)
  | some x =>
      by_cases hp : P x
      · simp only [Option.map_some, (h x x).2 ⟨hp, rfl⟩]
        exact (restores_ok (some x)).congr (by simp [hp])
      · have hnone : convert (toJson x) = none :=
          Option.eq_none_iff_forall_ne_some.2 fun y hy => hp ((h x y).1 hy).1
        simp only [Option.map_some, hnone]
        exact (restores_error _ _).congr (by simp [hp])

lemma restores_bool {value : Option Bool} (hlookup : members.lookup key = value.map .bool) :
    (members.bool key).Restores True value :=
  (restores_read Json.inverts_bool? hlookup _).congr (by simp)

/-- A mark is restored, whether or not it is written. -/
lemma restores_flag {b : Bool}
    (hlookup : members.lookup key = if b then some (.bool true) else none) :
    (members.flag key).Restores True b := by
  rw [flag]
  cases b with
  | false => exact (@restores_bool members key none hlookup).map _
  | true => exact (@restores_bool members key (some true) hlookup).map _

/-- A length is restored exactly if it fits into 64 bits. -/
lemma restores_length {value : Option Nat} (hlookup : members.lookup key = value.map lengthJson) :
    (members.length key).Restores (∀ n, value = some n → FitsInt64 n) value := by
  rw [length, read, hlookup]
  cases value with
  | none => exact (restores_ok none).congr (by simp)
  | some n =>
      simp only [Option.map_some, Json.ofJson?_lengthJson]
      by_cases hfits : FitsInt64 n
      · have hint : (Int64.ofInt n).toInt = n := Int64.toInt_ofInt_of_fits hfits
        simp only [if_pos hfits, Except.map, Option.bind_some, hint, Int.toNat_natCast,
          if_pos (Int.natCast_nonneg n)]
        exact (restores_ok (some n)).congr (by simp [hfits])
      · simp only [if_neg hfits]
        exact (restores_error _ _).congr (by simp [hfits])

/-- A name is restored exactly if it is not empty. -/
lemma restores_name {name : String} (hlookup : members.lookup "name" = some (.string name)) :
    (Members.name members).Restores (name ≠ "") name := by
  rw [Members.name, Members.name?, hlookup]
  by_cases hempty : name = ""
  · subst hempty
    exact (restores_error _ _).congr (by simp)
  · simp only [String.isEmpty_iff, hempty, if_false]
    exact (restores_ok name).congr (by simp [hempty])

/-- A pattern is restored from its text. -/
lemma restores_format {format : Option Pattern}
    (hlookup : members.lookup "format" = format.map fun pattern => .string pattern.source) :
    (Members.format members).Restores True format := by
  rw [Members.format, read, hlookup]
  cases format with
  | none => exact restores_ok none
  | some pattern =>
      simp only [Option.map_some, Json.string?, Pattern.ofSource?_source]
      exact restores_ok (some pattern)

/-- A list of specs is restored unless it is empty. -/
lemma restores_tupleSpecs {specs : Option (List Json)}
    (hlookup : members.lookup "fix_items" = specs.map .array) :
    members.tupleSpecs.Restores True (specs.filter (!·.isEmpty)) :=
  ((restores_read Json.inverts_items? hlookup _).congr (by simp)).map _

end Members

/-! ### Written rules -/

/-- Bounds and ends of ranges alike have the property `P`. -/
structure Rules.All {α : Type} (P : α → Prop) (rules : Rules α) : Prop where
  min : ∀ min, rules.min = some min → P min
  max : ∀ max, rules.max = some max → P max
  ranges : ∀ ranges, rules.ranges = some ranges → ∀ range ∈ ranges, P range.start ∧ P range.stop

lemma Rules.all_true {α : Type} (rules : Rules α) : rules.All fun _ => True :=
  ⟨fun _ _ => trivial, fun _ _ => trivial, fun _ _ _ _ => ⟨trivial, trivial⟩⟩

/-- What follows from a property of limits holds where that does. -/
lemma Rules.All.imp {α : Type} {P Q : α → Prop} {rules : Rules α} (hPQ : ∀ x, P x → Q x)
    (h : rules.All P) : rules.All Q :=
  ⟨fun x hx => hPQ x (h.min x hx), fun x hx => hPQ x (h.max x hx),
    fun ranges hx range hrange => (h.ranges ranges hx range hrange).imp (hPQ _) (hPQ _)⟩

/-- Least and greatest number of characters can be written. -/
structure TextRules.Fit (rules : TextRules) : Prop where
  min : ∀ min, rules.minLength = some min → FitsInt64 min
  max : ∀ max, rules.maxLength = some max → FitsInt64 max

/-- Least and greatest number of items can be written. -/
structure Lengths.Fit (lengths : Lengths) : Prop where
  min : ∀ min, lengths.min = some min → FitsInt64 min
  max : ∀ max, lengths.max = some max → FitsInt64 max

namespace Members

open Checked

variable {members : Members}

/-- The rules for numbers are restored exactly if their limits are. -/
lemma restores_rules {α : Type} [Limit α] {P : α → Prop}
    (h : Json.Inverts (Limit.ofJson? : Json → Option α) Limit.toJson P) {rules : Rules α}
    (hlookup : ∀ key ∉ ["name", "type", "required"],
      members.lookup key = rules.members.lookup key) :
    (Members.rules members).Restores (rules.All P) rules := by
  have hmin : members.lookup "min" = rules.min.map Limit.toJson := by
    simp [hlookup, Rules.members, List.lookup_append, lookup_optionalMember]
  have hmax : members.lookup "max" = rules.max.map Limit.toJson := by
    simp [hlookup, Rules.members, List.lookup_append, lookup_optionalMember]
  have hpositive : members.lookup "positive" =
      (rules.sign.map (· == .positive)).map .bool := by
    simp [hlookup, Rules.members, List.lookup_append, lookup_optionalMember, Function.comp_def]
  have hranges : members.lookup "ranges" = rules.ranges.map fun ranges =>
      .array (ranges.map fun range =>
        .object [("start", Limit.toJson range.start), ("end", Limit.toJson range.stop)]) := by
    simp [hlookup, Rules.members, List.lookup_append, lookup_optionalMember]
  -- The sign is written as a truth value, which has to be turned back.
  have hsign : (rules.sign.map (· == .positive)).map
      (fun positive => if positive then Sign.positive else .negative) = rules.sign := by
    rcases rules.sign with _ | _ | _ <;> rfl
  have hrules : (Members.rules members : Checked (Rules α)).Restores _ _ :=
    ((((restores_build _).ap (restores_read h hmin _)).ap (restores_read h hmax _)).ap
      (restores_bool hpositive)).ap (restores_read (Json.inverts_range? h).list hranges _)
  rw [hsign] at hrules
  refine hrules.congr ⟨?_, ?_⟩
  · rintro ⟨⟨⟨⟨-, hmin⟩, hmax⟩, -⟩, hranges⟩
    exact ⟨hmin, hmax, hranges⟩
  · rintro ⟨hmin, hmax, hranges⟩
    exact ⟨⟨⟨⟨trivial, hmin⟩, hmax⟩, trivial⟩, hranges⟩

/-- The rules for texts are restored exactly if their lengths fit into 64 bits. -/
lemma restores_textRules {rules : TextRules}
    (hlookup : ∀ key ∉ ["name", "type", "required"],
      members.lookup key = rules.members.lookup key) :
    (Members.textRules members).Restores rules.Fit rules := by
  have hmin : members.lookup "min_length" = rules.minLength.map lengthJson := by
    simp [hlookup, TextRules.members, List.lookup_append, lookup_optionalMember]
  have hmax : members.lookup "max_length" = rules.maxLength.map lengthJson := by
    simp [hlookup, TextRules.members, List.lookup_append, lookup_optionalMember]
  have hformat : members.lookup "format" =
      rules.format.map fun pattern => .string pattern.source := by
    simp [hlookup, TextRules.members, List.lookup_append, lookup_optionalMember]
  have hchoices : members.lookup "choices" =
      rules.choices.map fun choices => .array (choices.map .string) := by
    simp [hlookup, TextRules.members, List.lookup_append, lookup_optionalMember]
  refine (((((restores_build _).ap (restores_length hmin)).ap (restores_length hmax)).ap
    (restores_format hformat)).ap
      (restores_read Json.inverts_string?.list hchoices _)).congr ⟨?_, ?_⟩
  · rintro ⟨⟨⟨⟨-, hmin⟩, hmax⟩, -⟩, -⟩
    exact ⟨hmin, hmax⟩
  · rintro ⟨hmin, hmax⟩
    exact ⟨⟨⟨⟨trivial, hmin⟩, hmax⟩, trivial⟩, fun _ _ _ _ => trivial⟩

/-- Lengths are restored exactly if they fit into 64 bits. -/
lemma restores_lengths {lengths : Lengths}
    (hmin : members.lookup "min_length" = lengths.min.map lengthJson)
    (hmax : members.lookup "max_length" = lengths.max.map lengthJson) :
    (Members.lengths members).Restores lengths.Fit lengths := by
  refine (((restores_build _).ap (restores_length hmin)).ap (restores_length hmax)).congr ⟨?_, ?_⟩
  · rintro ⟨⟨-, hmin⟩, hmax⟩
    exact ⟨hmin, hmax⟩
  · rintro ⟨hmin, hmax⟩
    exact ⟨⟨trivial, hmin⟩, hmax⟩

end Members

end SchemaCheck
