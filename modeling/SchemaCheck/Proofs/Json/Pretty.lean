import Mathlib.Data.List.Forall2
import Mathlib.Tactic.Common
import SchemaCheck.Proofs.Json.Numeral

/-!
# Reading back what was written

What is read of the text that a value is written as.

* `Json.reread`: the value with its numbers as they are read again.
* `bytesOf_bracketed`: the lines of an array or object are its items or members, laid out with line
  breaks.
* `reads_prettyAt`, by induction on the value, and `read_pretty` for a whole text.
  The limit of nesting leaves out what nests deeper, and changes nothing else.
* `Legible`: the numbers of a value are read back and no key is repeated.  Such a value is read back
  (`reread_of_legible`).
-/

namespace SchemaCheck.Json

/-! ### Members with different keys -/

/-- A member with a new key is put behind the others. -/
lemma putMember_of_not_mem {α : Type} {members : List (String × α)} {key : String} (value : α)
    (h : key ∉ members.map Prod.fst) : putMember members key value = members ++ [(key, value)] := by
  induction members with
  | nil => rfl
  | cons member members ih =>
      rw [List.map_cons, List.mem_cons, not_or] at h
      rw [putMember, if_neg (Ne.symm h.1), ih h.2, List.cons_append]

/-- Members with different keys are kept as they are. -/
lemma ofPairs_of_nodup {α : Type} {members : List (String × α)}
    (h : (members.map Prod.fst).Nodup) : ofPairs members = members := by
  have hfold : ∀ before : List (String × α), ((before ++ members).map Prod.fst).Nodup →
      members.foldl (fun members pair => putMember members pair.1 pair.2) before =
        before ++ members := by
    clear h
    induction members with
    | nil => exact fun before _ => (List.append_nil before).symm
    | cons member members ih =>
        intro before h
        have hnew : member.1 ∉ before.map Prod.fst := by
          rw [List.map_append, List.map_cons, List.nodup_append] at h
          exact fun hmem => h.2.2 _ hmem _ List.mem_cons_self rfl
        have hmoved : before ++ [member] ++ members = before ++ member :: members := by
          rw [List.append_assoc, List.singleton_append]
        rw [List.foldl_cons, putMember_of_not_mem _ hnew, ih _ (hmoved.symm ▸ h), hmoved]
  exact hfold [] h

/-! ### The bytes of laid out texts -/

/-- Texts that are joined have the bytes that are joined. -/
lemma bytesOf_intercalate (separator : String) (texts : List String) :
    bytesOf (separator.intercalate texts) =
      (bytesOf separator).intercalate (texts.map bytesOf) := by
  have hchars : ∀ lists : List (List Char),
      (separator.toList.intercalate lists).flatMap String.utf8EncodeChar =
        (bytesOf separator).intercalate (lists.map (·.flatMap String.utf8EncodeChar)) := by
    intro lists
    induction lists with
    | nil => rfl
    | cons chars lists ih =>
        cases lists with
        | nil => simp [List.intercalate]
        | cons chars' lists =>
            rw [List.map_cons] at ih ⊢
            rw [List.map_cons, List.intercalate_cons_cons, List.intercalate_cons_cons,
              List.flatMap_append, List.flatMap_append, ih, ← bytesOf_eq]
  rw [bytesOf_eq, String.toList_intercalate, hchars, List.map_map]
  exact congrArg _ (List.map_congr_left fun text _ => (bytesOf_eq text).symm)

lemma blanks_space : Blanks (bytesOf " ") := by
  intro b hb
  obtain rfl : b = ' '.toUInt8 := List.mem_singleton.1 hb
  decide

/-- A line break and the indentation behind it are blanks. -/
lemma blanks_lineBreak (depth : Nat) : Blanks (bytesOf (lineBreak depth)) := by
  intro b hb
  have hnewline : bytesOf "\n" = ['\n'.toUInt8] := rfl
  rw [lineBreak, bytesOf_append, hnewline, bytesOf_ofList, List.mem_append, List.mem_flatMap] at hb
  rcases hb with hb | ⟨c, hc, hb⟩
  · obtain rfl := List.mem_singleton.1 hb
    decide
  · rw [List.eq_of_mem_replicate hc] at hb
    exact blanks_space b hb

/-- The bytes of a list in brackets, with one element on each line. -/
lemma bytesOf_bracketed {opening closing : String} {first last : UInt8}
    (hopening : bytesOf opening = [first]) (hclosing : bytesOf closing = [last]) {depth : Nat}
    {texts : List String} :
    bytesOf (bracketed opening closing depth texts) =
      enclosed first last (bytesOf (lineBreak (depth + 1))) (bytesOf (lineBreak (depth + 1)))
        (bytesOf (lineBreak depth)) (texts.map bytesOf) := by
  cases texts with
  | nil =>
      change bytesOf (opening ++ closing) = _
      rw [bytesOf_append, hopening, hclosing]
      rfl
  | cons text texts =>
      have hcomma : bytesOf "," = [','.toUInt8] := rfl
      rw [bracketed, if_neg (by simp)]
      simp only [bytesOf_append, bytesOf_intercalate, hopening, hclosing, hcomma, enclosed,
        separated, List.map_cons, reduceCtorEq, if_false, List.append_assoc, List.cons_append,
        List.nil_append]

lemma prettyItems_eq (depth : Nat) (items : List Json) :
    prettyItems depth items = items.map (prettyAt (depth + 1)) := by
  induction items with
  | nil => rfl
  | cons item items ih => rw [prettyItems, ih, List.map_cons]

lemma prettyMembers_eq (depth : Nat) (members : List (String × Json)) :
    prettyMembers depth members =
      members.map fun member => literal member.1 ++ ": " ++ prettyAt (depth + 1) member.2 := by
  induction members with
  | nil => rfl
  | cons member members ih => rw [prettyMembers, ih, List.map_cons]

lemma bytesOf_prettyAt_array (indent : Nat) (items : List Json) :
    bytesOf (prettyAt indent (.array items)) =
      enclosed '['.toUInt8 ']'.toUInt8 (bytesOf (lineBreak (indent + 1)))
        (bytesOf (lineBreak (indent + 1))) (bytesOf (lineBreak indent))
        ((prettyItems indent items).map bytesOf) :=
  bytesOf_bracketed rfl rfl

lemma bytesOf_prettyAt_object (indent : Nat) (members : List (String × Json)) :
    bytesOf (prettyAt indent (.object members)) =
      enclosed '\x7b'.toUInt8 '\x7d'.toUInt8 (bytesOf (lineBreak (indent + 1)))
        (bytesOf (lineBreak (indent + 1))) (bytesOf (lineBreak indent))
        ((prettyMembers indent members).map bytesOf) :=
  bytesOf_bracketed rfl rfl

/-! ### What is read of a written value -/

mutual

/-- **What is read of the text of a value**, however deep it nests: its numbers are read again, and
of a repeated key the last member is kept. -/
def reread : Json → Option Json
  | .number n => n.reread.map .number
  | .array items => (rereadItems items).map .array
  | .object members => (rereadMembers members).map fun members => .object (ofPairs members)
  | value => some value

/-- What is read of the texts of items, if all are read. -/
def rereadItems : List Json → Option (List Json)
  | [] => some []
  | item :: items => item.reread.bind fun item => (rereadItems items).map (item :: ·)

/-- What is read of the texts of members, if all are read. -/
def rereadMembers : List (String × Json) → Option (List (String × Json))
  | [] => some []
  | (key, value) :: members =>
    value.reread.bind fun value => (rereadMembers members).map ((key, value) :: ·)

end

/-- Members are read back under their keys. -/
lemma map_fst_of_rereadMembers {members members' : List (String × Json)}
    (h : rereadMembers members = some members') :
    members'.map Prod.fst = members.map Prod.fst := by
  induction members generalizing members' with
  | nil =>
      obtain rfl := Option.some.inj h
      rfl
  | cons member members ih =>
      rw [rereadMembers] at h
      obtain ⟨value, -, h⟩ := Option.bind_eq_some_iff.1 h
      obtain ⟨rest, hrest, rfl⟩ := Option.map_eq_some_iff.1 h
      rw [List.map_cons, List.map_cons, ih hrest]

lemma reread_object_of_nodup {members : List (String × Json)}
    (h : (members.map Prod.fst).Nodup) :
    (Json.object members).reread = (rereadMembers members).map .object := by
  rw [reread]
  refine Option.map_congr fun members' hmembers => ?_
  rw [ofPairs_of_nodup (map_fst_of_rereadMembers hmembers ▸ h)]

/-- What is read of the text of a value where at most `depth` arrays and objects may be nested. -/
def rereadWithin (depth : Nat) (value : Json) : Option Json :=
  if value.depth ≤ depth then value.reread else none

/-- Two parts keep to a limit if both do. -/
lemma bind_limit {α β γ : Type} (depth n m : Nat) (x : Option α) (y : Option β) (f : α → β → γ) :
    ((if n ≤ depth then x else none).bind fun a => (if m ≤ depth then y else none).map (f a)) =
      if max n m ≤ depth then x.bind fun a => y.map (f a) else none := by
  by_cases hn : n ≤ depth
  · by_cases hm : m ≤ depth
    · rw [if_pos hn, if_pos hm, if_pos (Nat.max_le.2 ⟨hn, hm⟩)]
    · rw [if_pos hn, if_neg hm, if_neg fun h => hm (Nat.max_le.1 h).2]
      cases x <;> rfl
  · rw [if_neg hn, if_neg fun h => hn (Nat.max_le.1 h).1]
    rfl

/-- Items are read back one by one if there is room for the deepest of them. -/
lemma mapM_id_rereadWithin (depth : Nat) (items : List Json) :
    (items.map (rereadWithin depth)).mapM id =
      if depthOfItems items ≤ depth then rereadItems items else none := by
  induction items with
  | nil => rfl
  | cons item items ih =>
      rw [List.map_cons, mapM_id_cons, ih, rereadItems, depthOfItems, rereadWithin]
      exact bind_limit _ _ _ _ _ fun item items => item :: items

/-- Members are read back one by one if there is room for the deepest of them. -/
lemma mapM_id_rereadMember (depth : Nat) (members : List (String × Json)) :
    (members.map fun member => (member.2.rereadWithin depth).map (member.1, ·)).mapM id =
      if depthOfMembers members ≤ depth then rereadMembers members else none := by
  induction members with
  | nil => rfl
  | cons member members ih =>
      have hmember : ∀ value : Option Json,
          ((value.map (member.1, ·)).bind fun member =>
            (if depthOfMembers members ≤ depth then rereadMembers members else none).map
              (member :: ·)) =
          value.bind fun value =>
            (if depthOfMembers members ≤ depth then rereadMembers members else none).map
              ((member.1, value) :: ·) := by
        intro value
        cases value <;> rfl
      rw [List.map_cons, mapM_id_cons, ih, hmember, rereadMembers, depthOfMembers, rereadWithin]
      exact bind_limit _ _ _ _ _ fun value members => (member.1, value) :: members

/-- Members are read from their lines as their values are. -/
lemma forall₂_prettyMembers {depth indent : Nat} {members : List (String × Json)}
    (h : ∀ member ∈ members,
      Reads depth (bytesOf (prettyAt (indent + 1) member.2)) (member.2.rereadWithin depth)) :
    List.Forall₂ (ReadsMember depth) ((prettyMembers indent members).map bytesOf)
      (members.map fun member => (member.2.rereadWithin depth).map (member.1, ·)) := by
  rw [prettyMembers_eq, List.map_map, List.forall₂_map_left_iff, List.forall₂_map_right_iff,
    List.forall₂_same]
  intro member hmember
  refine ⟨member.1, bytesOf " ", _, _, blanks_space, h member hmember, ?_, rfl⟩
  rw [Function.comp, bytesOf_append, bytesOf_append, List.append_assoc]
  rfl

lemma rereadWithin_array (depth : Nat) (items : List Json) :
    (Json.array items).rereadWithin (depth + 1) =
      (if depthOfItems items ≤ depth then rereadItems items else none).map .array := by
  rw [rereadWithin, reread, Json.depth]
  simp only [Nat.add_le_add_iff_right]
  split <;> rfl

lemma rereadWithin_object (depth : Nat) (members : List (String × Json)) :
    (Json.object members).rereadWithin (depth + 1) =
      (if depthOfMembers members ≤ depth then rereadMembers members else none).map
        fun members => .object (ofPairs members) := by
  rw [rereadWithin, reread, Json.depth]
  simp only [Nat.add_le_add_iff_right]
  split <;> rfl

/-- **What is read of a written value**, on whatever lines it stands. -/
theorem reads_prettyAt (depth indent : Nat) (value : Json) :
    Reads depth (bytesOf (prettyAt indent value)) (value.rereadWithin depth) := by
  induction value using Json.ind generalizing depth indent with
  | null => exact reads_null depth
  | bool b =>
      cases b with
      | true => exact reads_true depth
      | false => exact reads_false depth
  | number n => exact reads_number depth n
  | string text => exact reads_string depth text
  | array items ih =>
      rw [bytesOf_prettyAt_array]
      cases depth with
      | zero => exact reads_container_zero (.inl rfl) _
      | succ depth =>
          have htexts : List.Forall₂ (Reads depth) ((prettyItems indent items).map bytesOf)
              (items.map (rereadWithin depth)) := by
            rw [prettyItems_eq, List.map_map, List.forall₂_map_left_iff,
              List.forall₂_map_right_iff, List.forall₂_same]
            exact fun item hitem => ih item hitem depth (indent + 1)
          rw [rereadWithin_array, ← mapM_id_rereadWithin]
          exact reads_array htexts (blanks_lineBreak (indent + 1)) (blanks_lineBreak (indent + 1))
            (blanks_lineBreak indent)
  | object members ih =>
      rw [bytesOf_prettyAt_object]
      cases depth with
      | zero => exact reads_container_zero (.inr rfl) _
      | succ depth =>
          have htexts := forall₂_prettyMembers fun member hmember =>
            ih member hmember depth (indent + 1)
          rw [rereadWithin_object, ← mapM_id_rereadMember]
          exact reads_object htexts (blanks_lineBreak (indent + 1)) (blanks_lineBreak (indent + 1))
            (blanks_lineBreak indent)

/-- A whole text is what its reader reads of it, with blanks alone behind. -/
lemma toOption_readAll {α : Type} {reader : Reader α} {text rest : Bytes} {value : Option α}
    (h : outcome reader text = value.map (·, rest)) (hrest : skipBlanks rest = []) :
    (readAll reader text).toOption = value := by
  have hend : expectEnd rest = .ok () := by
    rw [expectEnd, hrest]
  rw [readAll]
  rcases cases_of_outcome h with ⟨rfl, fault, hread⟩ | ⟨x, rfl, hshorter, hread⟩
  · rw [hread]
    rfl
  · rw [hread]
    simp only [hend]
    rfl

/-- **What is read of a written text**, with blanks alone behind it. -/
theorem toOption_read_pretty (value : Json) {behind : String}
    (hends : EndsNumber (bytesOf behind)) (hblank : skipBlanks (bytesOf behind) = []) :
    (read (bytesOf (value.pretty ++ behind))).toOption = value.rereadWithin depthLimit := by
  rw [pretty, bytesOf_append]
  exact toOption_readAll ((reads_prettyAt depthLimit 0 value).outcome_here hends) hblank

/-! ### Values that are read back -/

/-- A number is read back, and no key is repeated. -/
def Legible (value : Json) : Prop :=
  (∀ n, value = .number n → n.ReadsBack) ∧
    ∀ members, value = .object members → (members.map Prod.fst).Nodup

/-- Items that are read back as they are make a list that is. -/
lemma rereadItems_eq_some {items : List Json} (h : ∀ item ∈ items, item.reread = some item) :
    rereadItems items = some items := by
  induction items with
  | nil => rfl
  | cons item items ih =>
      obtain ⟨hitem, hitems⟩ := List.forall_mem_cons.1 h
      rw [rereadItems, hitem, ih hitems]
      rfl

/-- Members that are read back as they are make an object that is. -/
lemma rereadMembers_eq_some {members : List (String × Json)}
    (h : ∀ member ∈ members, member.2.reread = some member.2) :
    rereadMembers members = some members := by
  induction members with
  | nil => rfl
  | cons member members ih =>
      obtain ⟨hmember, hmembers⟩ := List.forall_mem_cons.1 h
      rw [rereadMembers, hmember, ih hmembers]
      rfl

/-- **A legible value is read back from its text.** -/
theorem reread_of_legible {value : Json} (h : value.Everywhere Legible) :
    value.reread = some value := by
  induction value using Json.ind with
  | null | bool | string => rfl
  | number n =>
      have hback : n.reread = some n := h.1 n rfl
      rw [reread, hback]
      rfl
  | array items ih =>
      obtain ⟨-, hitems⟩ := everywhere_array.1 h
      rw [reread, rereadItems_eq_some fun item hitem => ih item hitem (hitems item hitem)]
      rfl
  | object members ih =>
      obtain ⟨hself, hmembers⟩ := everywhere_object.1 h
      rw [reread_object_of_nodup (hself.2 members rfl), rereadMembers_eq_some fun member hmember =>
        ih member hmember (hmembers member hmember)]
      rfl

lemma eq_ok_of_toOption {ε α : Type} {x : Except ε α} {a : α} (h : x.toOption = some a) :
    x = .ok a := by
  cases x with
  | error fault => cases h
  | ok b => exact congrArg Except.ok (Option.some.inj h)

/-- **A text that was written is read as the value that it was written for.** -/
theorem read_pretty {value : Json} (hlegible : value.Everywhere Legible)
    (hdepth : value.depth ≤ depthLimit) {behind : String} (hends : EndsNumber (bytesOf behind))
    (hblank : skipBlanks (bytesOf behind) = []) :
    read (bytesOf (value.pretty ++ behind)) = .ok value :=
  eq_ok_of_toOption ((toOption_read_pretty value hends hblank).trans
    ((if_pos hdepth).trans (reread_of_legible hlegible)))

/-- The text that is written of a legible value is read as that value. -/
lemma readText_pretty {value : Json} (hlegible : value.Everywhere Legible)
    (hdepth : value.depth ≤ depthLimit) : readText value.pretty = .ok value := by
  have hread := @read_pretty value hlegible hdepth "" endsNumber_nil rfl
  rw [String.append_empty] at hread
  rw [readText, hread]
  rfl

end SchemaCheck.Json
