import Mathlib.Tactic.Common
import SchemaCheck.Proofs.Json.FloatText
import SchemaCheck.Proofs.Json.KeysApart
import SchemaCheck.Proofs.Json.OneLine
import SchemaCheck.Proofs.Json.Pretty

/-!
# Reading back what was written without blanks

What is read of a value that was written on one line is that value but for its binary numbers, which
a reader does not always find again.

* `reads_compact`, by induction on the value, and `toOption_read_compact` for a whole text.
* `Json.blurred`: a value without what its binary numbers are, and `Json.Sharp`: a value that has
  none of them.
* `Json.Recoverable`: integers of 64 bits, keys that are apart, and few enough levels.
* `recovered_of_keysApart`, by induction on the value: it is read again as a value that differs in
  its binary numbers alone.  `exists_readText_compact`: so it is with its text.
-/

namespace SchemaCheck.Json

/-! ### Texts without blanks -/

/-- There may be no blanks at all. -/
lemma blanks_nil : Blanks [] := fun _ h => absurd h List.not_mem_nil

/-- Texts with commas between them, in brackets, as bytes. -/
lemma bytesOf_joined {opening closing : String} {first last : UInt8}
    (hopening : bytesOf opening = [first]) (hclosing : bytesOf closing = [last])
    (texts : List String) :
    bytesOf (opening ++ ",".intercalate texts ++ closing) =
      enclosed first last [] [] [] (texts.map bytesOf) := by
  have hcomma : bytesOf "," = [','.toUInt8] := rfl
  rw [bytesOf_append, bytesOf_append, bytesOf_intercalate, hopening, hclosing, hcomma]
  cases texts with
  | nil => rfl
  | cons text texts => simp [enclosed, separated]

/-- The bytes of an array are those of its items, with nothing but commas between them. -/
lemma bytesOf_compact_array (items : List Json) :
    bytesOf (compact (.array items)) =
      enclosed '['.toUInt8 ']'.toUInt8 [] [] [] ((items.map compact).map bytesOf) := by
  rw [compact, compactItems_eq_map]
  exact bytesOf_joined rfl rfl _

/-- The bytes of an object are those of its members, with nothing but commas between them. -/
lemma bytesOf_compact_object (members : List (String × Json)) :
    bytesOf (compact (.object members)) =
      enclosed '\x7b'.toUInt8 '\x7d'.toUInt8 [] [] []
        ((members.map fun member => literal member.1 ++ ":" ++ member.2.compact).map bytesOf) := by
  rw [compact, compactMembers_eq_map]
  exact bytesOf_joined rfl rfl _

/-- Members are read from their texts as their values are. -/
lemma forall₂_compactMembers {depth : Nat} {members : List (String × Json)}
    (h : ∀ member ∈ members,
      Reads depth (bytesOf member.2.compact) (member.2.rereadWithin depth)) :
    List.Forall₂ (ReadsMember depth)
      ((members.map fun member => literal member.1 ++ ":" ++ member.2.compact).map bytesOf)
      (members.map fun member => (member.2.rereadWithin depth).map (member.1, ·)) := by
  rw [List.map_map, List.forall₂_map_left_iff, List.forall₂_map_right_iff, List.forall₂_same]
  intro member hmember
  refine ⟨member.1, [], _, _, blanks_nil, h member hmember, ?_, rfl⟩
  rw [Function.comp, bytesOf_append, bytesOf_append, List.append_assoc]
  rfl

/-- **What is read of a value that was written without blanks.** -/
theorem reads_compact (depth : Nat) (value : Json) :
    Reads depth (bytesOf value.compact) (value.rereadWithin depth) := by
  induction value using Json.ind generalizing depth with
  | null => exact reads_null depth
  | bool b =>
      cases b with
      | true => exact reads_true depth
      | false => exact reads_false depth
  | number n => exact reads_number depth n
  | string text => exact reads_string depth text
  | array items ih =>
      rw [bytesOf_compact_array]
      cases depth with
      | zero => exact reads_container_zero (.inl rfl) _
      | succ depth =>
          have htexts : List.Forall₂ (Reads depth) ((items.map compact).map bytesOf)
              (items.map (rereadWithin depth)) := by
            rw [List.map_map, List.forall₂_map_left_iff, List.forall₂_map_right_iff,
              List.forall₂_same]
            exact fun item hitem => ih item hitem depth
          rw [rereadWithin_array, ← mapM_id_rereadWithin]
          exact reads_array htexts blanks_nil blanks_nil blanks_nil
  | object members ih =>
      rw [bytesOf_compact_object]
      cases depth with
      | zero => exact reads_container_zero (.inr rfl) _
      | succ depth =>
          have htexts := forall₂_compactMembers fun member hmember => ih member hmember depth
          rw [rereadWithin_object, ← mapM_id_rereadMember]
          exact reads_object htexts blanks_nil blanks_nil blanks_nil

/-- **What is read of a compact text** is what the value is read back as, if it does not nest too
deep. -/
theorem toOption_read_compact (value : Json) :
    (read (bytesOf value.compact)).toOption = value.rereadWithin depthLimit := by
  have hread := (reads_compact depthLimit value).outcome_here endsNumber_nil
  rw [List.append_nil] at hread
  exact toOption_readAll hread rfl

/-! ### Values without their binary numbers -/

mutual

/-- The value without what its binary numbers are: each is made zero. -/
def blurred : Json → Json
  | .number (.float _) => .number (.float (.zero false))
  | .array items => .array (blurredItems items)
  | .object members => .object (blurredMembers members)
  | value => value

/-- The items without what their binary numbers are. -/
def blurredItems : List Json → List Json
  | [] => []
  | item :: items => item.blurred :: blurredItems items

/-- The members without what their binary numbers are. -/
def blurredMembers : List (String × Json) → List (String × Json)
  | [] => []
  | (key, value) :: members => (key, value.blurred) :: blurredMembers members

end

lemma blurredItems_eq_map (items : List Json) : blurredItems items = items.map blurred := by
  induction items with
  | nil => rfl
  | cons item items ih => rw [blurredItems, ih, List.map_cons]

lemma blurredMembers_eq_map (members : List (String × Json)) :
    blurredMembers members = members.map fun member => (member.1, member.2.blurred) := by
  induction members with
  | nil => rfl
  | cons member members ih => rw [blurredMembers, ih, List.map_cons]

section

variable {value : Json}

@[simp] lemma blurred_array (items : List Json) :
    (Json.array items).blurred = .array (items.map blurred) := by
  rw [blurred, blurredItems_eq_map]

@[simp] lemma blurred_object (members : List (String × Json)) :
    (Json.object members).blurred =
      .object (members.map fun member => (member.1, member.2.blurred)) := by
  rw [blurred, blurredMembers_eq_map]

/-- Only an array looks like an array once numbers are blurred. -/
lemma blurred_eq_array_iff {items : List Json} :
    value.blurred = .array items ↔
      ∃ items', value = .array items' ∧ items'.map blurred = items := by
  rcases value with _ | _ | (_ | _) | _ | _ | _ <;> simp [blurred, blurredItems_eq_map]

/-- What is done to the values of members is done to the one that is found. -/
lemma lookup_map_snd {α β : Type} (f : α → β) (members : List (String × α)) (key : String) :
    (members.map fun member => (member.1, f member.2)).lookup key = (members.lookup key).map f := by
  induction members with
  | nil => rfl
  | cons member members ih =>
      rw [List.map_cons, List.lookup_cons, List.lookup_cons, ih]
      split <;> rfl

/-- A member of a value is blurred with it. -/
lemma member?_blurred (value : Json) (key : String) :
    value.blurred.member? key = (value.member? key).map blurred := by
  rcases value with _ | _ | (_ | _) | _ | _ | members <;> try rfl
  rw [blurred_object]
  exact lookup_map_snd blurred members key

end

/-! ### Values without binary numbers -/

/-- Nothing of the value is blurred: it is the only value that comes down to the same. -/
def Sharp (value : Json) : Prop := ∀ value' : Json, value'.blurred = value.blurred → value' = value

section

variable {value other part : Json} {items : List Json} {key : String}

/-- There is nothing to blur in a text. -/
lemma sharp_string (text : String) : (Json.string text).Sharp := by
  intro value' h
  rcases value' with _ | _ | (_ | _) | _ | _ | _ <;> simp_all [blurred]

lemma sharp_bool (b : Bool) : (Json.bool b).Sharp := by
  intro value' h
  rcases value' with _ | _ | (_ | _) | _ | _ | _ <;> simp_all [blurred]

lemma sharp_whole (k : Int) : (Json.number (.whole k)).Sharp := by
  intro value' h
  rcases value' with _ | _ | (_ | _) | _ | _ | _ <;> simp_all [blurred]

/-- An array is sharp if its items are. -/
lemma sharp_array (h : ∀ item ∈ items, item.Sharp) : (Json.array items).Sharp := by
  have hitems : ∀ items' : List Json, items'.map blurred = items.map blurred → items' = items := by
    induction items with
    | nil => exact fun items' => List.map_eq_nil_iff.1
    | cons item items ih =>
        obtain ⟨hfirst, hrest⟩ := List.forall_mem_cons.1 h
        intro items' hmap
        obtain ⟨first, rest, rfl, hblurred, hmap⟩ := List.map_eq_cons_iff.1 hmap
        rw [hfirst first hblurred, ih hrest rest hmap]
  intro value' h
  rw [blurred_array, blurred_eq_array_iff] at h
  obtain ⟨items', rfl, hmap⟩ := h
  rw [hitems items' hmap]

/-- What comes down to the same has the same members but for what is blurred in them. -/
lemma map_blurred_member?_eq (h : value.blurred = other.blurred) (key : String) :
    (value.member? key).map blurred = (other.member? key).map blurred := by
  rw [← member?_blurred, h, member?_blurred]

/-- Of an object that is known but for its floats, a sharp member is known. -/
lemma member?_eq_some_of_sharp (h : value.blurred = other.blurred)
    (hmember : other.member? key = some part) (hsharp : part.Sharp) :
    value.member? key = some part := by
  have hsame := map_blurred_member?_eq h key
  rw [hmember] at hsame
  obtain ⟨part', hpart', hblurred⟩ := Option.map_eq_some_iff.1 hsame
  rw [hpart', hsharp part' hblurred]

/-- Blurring adds no members. -/
lemma member?_eq_none_of_blurred_eq (h : value.blurred = other.blurred)
    (hmember : other.member? key = none) : value.member? key = none := by
  have hsame := map_blurred_member?_eq h key
  rw [hmember] at hsame
  exact Option.map_eq_none_iff.1 hsame

end

/-! ### Values that are read again -/

/-- **What it takes to be read again**: integers of 64 bits, keys that are apart, and no more
nesting than that. -/
structure Recoverable (depth : Nat) (value : Json) : Prop where
  words : value.WithinWords
  keys : value.KeysApart
  depth_le : value.depth ≤ depth

section

variable {depth depth' : Nat} {value : Json} {items : List Json} {members : List (String × Json)}

lemma Recoverable.mono (h : value.Recoverable depth) (hle : depth ≤ depth') :
    value.Recoverable depth' := ⟨h.words, h.keys, Nat.le_trans h.depth_le hle⟩

lemma recoverable_null : Json.null.Recoverable depth :=
  ⟨fun _ h => (by cases h), trivial, Nat.zero_le _⟩

lemma recoverable_bool (b : Bool) : (Json.bool b).Recoverable depth :=
  ⟨fun _ h => (by cases h), trivial, Nat.zero_le _⟩

lemma recoverable_string (text : String) : (Json.string text).Recoverable depth :=
  ⟨fun _ h => (by cases h), trivial, Nat.zero_le _⟩

lemma recoverable_number {n : Number} (h : n.InWords) : (Json.number n).Recoverable depth :=
  ⟨fun _ hm => Json.number.inj hm ▸ h, trivial, Nat.zero_le _⟩

/-- An array needs one level more than its items. -/
lemma recoverable_array (h : ∀ item ∈ items, item.Recoverable depth) :
    (Json.array items).Recoverable (depth + 1) where
  words := everywhere_array.2 ⟨fun _ h => (by cases h), fun item hitem => (h item hitem).words⟩
  keys := keysApart_array.2 fun item hitem => (h item hitem).keys
  depth_le := Nat.succ_le_succ (depthOfItems_le_iff.2 fun item hitem => (h item hitem).depth_le)

/-- An object with different keys needs one level more than its members. -/
lemma recoverable_object (hkeys : (members.map Prod.fst).Nodup)
    (h : ∀ member ∈ members, member.2.Recoverable depth) :
    (Json.object members).Recoverable (depth + 1) where
  words := everywhere_object.2
    ⟨fun _ h => (by cases h), fun member hmember => (h member hmember).words⟩
  keys := keysApart_object.2 ⟨hkeys, fun member hmember => (h member hmember).keys⟩
  depth_le := Nat.succ_le_succ
    (depthOfMembers_le_iff.2 fun member hmember => (h member hmember).depth_le)

end

/-- The value is read again as one that differs in its binary numbers alone. -/
def Recovered (value : Json) : Prop :=
  ∃ value', value.reread = some value' ∧ value'.blurred = value.blurred

/-- Items that are recovered one by one are recovered as a list. -/
lemma exists_rereadItems {items : List Json} (h : ∀ item ∈ items, item.Recovered) :
    ∃ items', rereadItems items = some items' ∧ items'.map blurred = items.map blurred := by
  induction items with
  | nil => exact ⟨[], rfl, rfl⟩
  | cons item items ih =>
      obtain ⟨⟨item', hitem, hblurred⟩, hitems⟩ := List.forall_mem_cons.1 h
      obtain ⟨items', hreread, hrest⟩ := ih hitems
      refine ⟨item' :: items', ?_, by rw [List.map_cons, List.map_cons, hblurred, hrest]⟩
      rw [rereadItems, hitem, hreread]
      rfl

/-- Members that are recovered one by one are recovered under their keys. -/
lemma exists_rereadMembers {members : List (String × Json)}
    (h : ∀ member ∈ members, member.2.Recovered) :
    ∃ members', rereadMembers members = some members' ∧
      members'.map (fun member => (member.1, member.2.blurred)) =
        members.map fun member => (member.1, member.2.blurred) := by
  induction members with
  | nil => exact ⟨[], rfl, rfl⟩
  | cons member members ih =>
      obtain ⟨⟨value', hvalue, hblurred⟩, hmembers⟩ := List.forall_mem_cons.1 h
      obtain ⟨members', hreread, hrest⟩ := ih hmembers
      refine ⟨(member.1, value') :: members', ?_, by simp only [List.map_cons, hblurred, hrest]⟩
      rw [rereadMembers, hvalue, hreread]
      rfl

/-- **A value is read again** but for its binary numbers. -/
theorem recovered_of_keysApart {value : Json} (hwords : value.WithinWords)
    (hkeys : value.KeysApart) : value.Recovered := by
  induction value using Json.ind with
  | null | bool | string => exact ⟨_, rfl, rfl⟩
  | number n =>
      cases n with
      | whole k =>
          have hback : (Number.whole k).reread = some (.whole k) :=
            Number.readsBack_whole (hwords _ rfl)
          exact ⟨_, by rw [reread, hback]; rfl, rfl⟩
      | float x =>
          obtain ⟨y, hy⟩ := Number.exists_reread_float x
          exact ⟨.number (.float y), by rw [reread, hy]; rfl, rfl⟩
  | array items ih =>
      have hitems := (everywhere_array.1 hwords).2
      obtain ⟨items', hreread, hblurred⟩ := exists_rereadItems fun item hitem =>
        ih item hitem (hitems item hitem) (keysApart_array.1 hkeys item hitem)
      refine ⟨.array items', ?_, by rw [blurred_array, blurred_array, hblurred]⟩
      rw [reread, hreread]
      rfl
  | object members ih =>
      have hmembers := (everywhere_object.1 hwords).2
      obtain ⟨hnodup, hapart⟩ := keysApart_object.1 hkeys
      obtain ⟨members', hreread, hblurred⟩ := exists_rereadMembers fun member hmember =>
        ih member hmember (hmembers member hmember) (hapart member hmember)
      refine ⟨.object members', ?_, by rw [blurred_object, blurred_object, hblurred]⟩
      rw [reread_object_of_nodup hnodup, hreread]
      rfl

/-- **A line of JSON is decoded** as the value that it was written for, but for the binary numbers
in it. -/
theorem exists_readText_compact {value : Json} (h : value.Recoverable depthLimit) :
    ∃ value', readText value.compact = .ok value' ∧ value'.blurred = value.blurred := by
  obtain ⟨value', hreread, hblurred⟩ := recovered_of_keysApart h.words h.keys
  have hread : read (bytesOf value.compact) = .ok value' := by
    refine eq_ok_of_toOption ?_
    rw [toOption_read_compact, rereadWithin, if_pos h.depth_le, hreread]
  refine ⟨value', ?_, hblurred⟩
  rw [readText, hread]
  rfl

end SchemaCheck.Json
