import Mathlib.Data.List.Forall2
import Mathlib.Tactic.Common
import SchemaCheck.Proofs.Json.Scanning
import SchemaCheck.Proofs.Json.Values

/-!
# Reading laid out values

What is read of a text that spells the parts of a value with blanks between them.

* `outcome_readValue`, `outcome_readArray`, `outcome_readObject`: a reader by the first byte that is
  not a blank.
* `ReadsSequence`: the readers of items and of members have this in common, the element and the
  closing bracket apart.  `ReadsSequence.outcome_eq`, by induction on the elements: they are read
  with commas and blanks between them, up to the first one that is not.
* `Reads`: what is read of bytes, whatever is around them.
* `reads_array`, `reads_object`: brackets around bytes that are read.
* `reads_null`, `reads_true`, `reads_false`, `reads_string`, `reads_whole`: the scalars.
-/

namespace SchemaCheck.Json

/-! ### Blanks -/

/-- Nothing but blanks. -/
def Blanks (bytes : Bytes) : Prop := ∀ b ∈ bytes, isBlank b = true

lemma skipBlanks_append {blanks : Bytes} (h : Blanks blanks) (text : Bytes) :
    skipBlanks (blanks ++ text) = skipBlanks text :=
  List.dropWhile_append_of_pos h

lemma skipBlanks_cons {b : UInt8} (h : isBlank b = false) (text : Bytes) :
    skipBlanks (b :: text) = b :: text := by
  rw [skipBlanks, List.dropWhile_cons, h, if_neg Bool.false_ne_true]

/-- The end of a text ends a number. -/
lemma endsNumber_nil : EndsNumber [] := fun b hb => by cases hb

/-- A character that no number has ends one. -/
lemma endsNumber_cons {b : UInt8} (hb : isDigit b = false ∧ b ≠ '.'.toUInt8 ∧ b ≠ 'e'.toUInt8 ∧
    b ≠ 'E'.toUInt8) (rest : Bytes) : EndsNumber (b :: rest) := by
  intro c hc
  obtain rfl := Option.some.inj hc
  exact hb

/-- A blank is no part of a number. -/
lemma endsNumber_blanks {blanks rest : Bytes} (h : Blanks blanks) (hrest : EndsNumber rest) :
    EndsNumber (blanks ++ rest) := by
  cases blanks with
  | nil => exact hrest
  | cons b blanks =>
      have hb := h b List.mem_cons_self
      simp only [isBlank, Bool.or_eq_true, beq_iff_eq] at hb
      rcases hb with ((rfl | rfl) | rfl) | rfl <;> exact endsNumber_cons (by decide) _

/-! ### Values -/

/-- What is read of a scalar, and the rest; nothing for a byte that no scalar begins with. -/
def scalar (first : UInt8) (text : Bytes) : Option (Option (Json × Bytes)) :=
  (readScalar? first text).map fun taken => taken.toOption.map fun taken => (taken.1, taken.2.1)

/-- Behind the blanks the first character tells whether a scalar, an array or an object is read. -/
lemma outcome_readValue (depth : Nat) {text tail : Bytes} {first : UInt8}
    (hskip : skipBlanks text = first :: tail) :
    outcome (readValue depth) text =
      match scalar first tail with
      | some taken => taken
      | none =>
        if first = '['.toUInt8 then
          match depth with
          | 0 => none
          | depth + 1 => (outcome (readArray (readValue depth)) tail).map (Prod.map .array id)
        else if first = '\x7b'.toUInt8 then
          match depth with
          | 0 => none
          | depth + 1 => (outcome (readObject (readValue depth)) tail).map
              (Prod.map (fun members => .object (ofPairs members)) id)
        else none := by
  unfold outcome readValue
  split
  · next hnil => cases hnil.symm.trans hskip
  · next b tail' hcons =>
      obtain ⟨rfl, rfl⟩ := List.cons.inj (hcons.symm.trans hskip)
      rw [scalar]
      rcases readScalar? b tail' with _ | (fault | ⟨value, behind, hs⟩)
      · simp only [Option.map_none]
        split_ifs with hbracket hbrace
        · cases depth with
          | zero => rfl
          | succ depth => dsimp only; cases readArray (readValue depth) tail' <;> rfl
        · cases depth with
          | zero => rfl
          | succ depth => dsimp only; cases readObject (readValue depth) tail' <;> rfl
        · rfl
      · rfl
      · rfl

/-- An array is empty, or its items are read. -/
lemma outcome_readArray {item : Reader Json} {text tail : Bytes} {first : UInt8}
    (hskip : skipBlanks text = first :: tail) :
    outcome (readArray item) text =
      if first = ']'.toUInt8 then some ([], tail)
      else outcome (readItems item) (first :: tail) := by
  unfold outcome readArray
  split
  · next hnil => cases hnil.symm.trans hskip
  · next b tail' hcons =>
      obtain ⟨rfl, rfl⟩ := List.cons.inj (hcons.symm.trans hskip)
      split
      · rfl
      · cases readItems item (b :: tail') <;> rfl

/-- An object is empty, or its members are read. -/
lemma outcome_readObject {value : Reader Json} {text tail : Bytes} {first : UInt8}
    (hskip : skipBlanks text = first :: tail) :
    outcome (readObject value) text =
      if first = '\x7d'.toUInt8 then some ([], tail)
      else outcome (readMembers value) (first :: tail) := by
  unfold outcome readObject
  split
  · next hnil => cases hnil.symm.trans hskip
  · next b tail' hcons =>
      obtain ⟨rfl, rfl⟩ := List.cons.inj (hcons.symm.trans hskip)
      split
      · rfl
      · cases readMembers value (b :: tail') <;> rfl

/-! ### Separators -/

/-- Behind the last element stands the closing bracket. -/
lemma expectNext_done {closing : UInt8} {text rest : Bytes}
    (hskip : skipBlanks text = closing :: rest) (atEnd otherwise : Cause) :
    ∃ shorter, expectNext closing atEnd otherwise text = .ok (.done rest shorter) := by
  refine ⟨length_lt_of_skipBlanks hskip, ?_⟩
  unfold expectNext
  split
  · next hnil => cases hnil.symm.trans hskip
  · next b tail hcons =>
      obtain ⟨rfl, rfl⟩ := List.cons.inj (hcons.symm.trans hskip)
      exact if_pos rfl

/-- Bytes that begin with neither a blank nor a bracket that closes. -/
def Begins (bytes : Bytes) : Prop :=
  ∃ first tail, bytes = first :: tail ∧ isBlank first = false ∧ first ≠ ']'.toUInt8 ∧
    first ≠ '\x7d'.toUInt8

lemma Begins.append {bytes : Bytes} (h : Begins bytes) (rest : Bytes) : Begins (bytes ++ rest) := by
  obtain ⟨first, tail, rfl, hfirst⟩ := h
  exact ⟨first, tail ++ rest, rfl, hfirst⟩

lemma Begins.skipBlanks_eq {bytes blanks : Bytes} (h : Begins bytes) (hblanks : Blanks blanks) :
    skipBlanks (blanks ++ bytes) = bytes := by
  obtain ⟨first, tail, rfl, hfirst, -⟩ := h
  rw [skipBlanks_append hblanks]
  exact skipBlanks_cons hfirst _

/-- One of the brackets that close. -/
def Closing (closing : UInt8) : Prop := closing = ']'.toUInt8 ∨ closing = '\x7d'.toUInt8

/-- Behind a comma, and blanks around it, the next element is read. -/
lemma expectNext_more {closing : UInt8} (hclosing : Closing closing) {text behind next : Bytes}
    (hskip : skipBlanks text = ','.toUInt8 :: behind) (hbehind : skipBlanks behind = next)
    (hnext : Begins next) (atEnd otherwise : Cause) :
    ∃ shorter, expectNext closing atEnd otherwise text = .ok (.more next shorter) := by
  obtain ⟨first, tail, rfl, -, hbracket, hbrace⟩ := hnext
  have hcomma : ','.toUInt8 ≠ closing := by
    rcases hclosing with rfl | rfl <;> decide
  have hfirst : first ≠ closing := by
    rcases hclosing with rfl | rfl
    · exact hbracket
    · exact hbrace
  have hshorter := length_lt_of_skipBlanks hbehind
  refine ⟨Nat.lt_of_le_of_lt hshorter (length_lt_of_skipBlanks hskip), ?_⟩
  unfold expectNext
  split
  · next hnil => cases hnil.symm.trans hskip
  · next b tail hcons =>
      obtain ⟨rfl, rfl⟩ := List.cons.inj (hcons.symm.trans hskip)
      simp only [if_neg hcomma, ne_eq, not_true_eq_false, if_false]
      split
      · next hnil => cases hnil.symm.trans hbehind
      · next c tail hcons' =>
          obtain ⟨rfl, rfl⟩ := List.cons.inj (hcons'.symm.trans hbehind)
          exact if_neg hfirst

/-- Texts with a comma and blanks between them. -/
def separated (gap : Bytes) (texts : List Bytes) : Bytes := (','.toUInt8 :: gap).intercalate texts

lemma separated_singleton (gap text : Bytes) : separated gap [text] = text := by
  simp [separated]

lemma separated_cons_cons (gap text text' : Bytes) (texts : List Bytes) :
    separated gap (text :: text' :: texts) =
      text ++ (','.toUInt8 :: (gap ++ separated gap (text' :: texts))) := by
  simp [separated, List.intercalate]

lemma begins_separated {gap text : Bytes} (h : Begins text) (texts : List Bytes) :
    Begins (separated gap (text :: texts)) := by
  cases texts with
  | nil => exact (separated_singleton gap text).symm ▸ h
  | cons text' texts => exact separated_cons_cons gap text text' texts ▸ h.append _

/-- All values of a list, if all are there. -/
lemma mapM_id_cons {α : Type} (x : Option α) (xs : List (Option α)) :
    (x :: xs).mapM id = x.bind fun x => (xs.mapM id).map (x :: ·) := by
  rw [List.mapM_cons]
  cases x with
  | none => rfl
  | some x => cases xs.mapM id <;> simp

/-- The reader reads elements with commas between them, up to a closing bracket, and nothing where
one of them is not read. -/
structure ReadsSequence {α : Type} (closing : UInt8) (reader : Reader (List α))
    (Element : Bytes → Option α → Prop) : Prop where
  begins : ∀ {text x}, Element text x → Begins text
  last : ∀ {text x behind rest}, Element text x → EndsNumber behind →
    skipBlanks behind = closing :: rest →
    outcome reader (text ++ behind) = x.map fun x => ([x], rest)
  more : ∀ {text x behind after next}, Element text x → EndsNumber behind →
    skipBlanks behind = ','.toUInt8 :: after → skipBlanks after = next → Begins next →
    outcome reader (text ++ behind) = x.bind fun x =>
      (outcome reader next).map (Prod.map (x :: ·) id)

/-- What follows the last element. -/
lemma skipBlanks_closing {closing : UInt8} (hclosing : Closing closing) {blanks : Bytes}
    (hblanks : Blanks blanks) (rest : Bytes) :
    EndsNumber (blanks ++ closing :: rest) ∧
      skipBlanks (blanks ++ closing :: rest) = closing :: rest := by
  rw [skipBlanks_append hblanks]
  rcases hclosing with rfl | rfl
  · exact ⟨endsNumber_blanks hblanks (endsNumber_cons (by decide) rest),
      skipBlanks_cons (by decide) _⟩
  · exact ⟨endsNumber_blanks hblanks (endsNumber_cons (by decide) rest),
      skipBlanks_cons (by decide) _⟩

/-- **A list of elements** is read as the list of what they are read as, or not at all if one of
them is not read. -/
lemma ReadsSequence.outcome_eq {α : Type} {closing : UInt8} {reader : Reader (List α)}
    {Element : Bytes → Option α → Prop} (h : ReadsSequence closing reader Element)
    (hclosing : Closing closing) {gap close : Bytes} (hgap : Blanks gap) (hclose : Blanks close)
    {texts : List Bytes} {xs : List (Option α)} (hxs : List.Forall₂ Element texts xs) {text : Bytes}
    {x : Option α} (hx : Element text x) (rest : Bytes) :
    outcome reader (separated gap (text :: texts) ++ (close ++ closing :: rest)) =
      ((x :: xs).mapM id).map (·, rest) := by
  induction hxs generalizing text x with
  | nil =>
      obtain ⟨hends, hskip⟩ := skipBlanks_closing hclosing hclose rest
      rw [separated_singleton, h.last hx hends hskip]
      cases x <;> rfl
  | @cons text' x' texts xs hx' hxs ih =>
      have hbegins : Begins (separated gap (text' :: texts) ++ (close ++ closing :: rest)) :=
        (begins_separated (h.begins hx') texts).append _
      rw [separated_cons_cons, List.append_assoc, List.cons_append, List.append_assoc,
        h.more hx (endsNumber_cons (by decide) _) (skipBlanks_cons (by decide) _)
          (hbegins.skipBlanks_eq hgap) hbegins, ih hx', mapM_id_cons x]
      cases x with
      | none => rfl
      | some x => cases (x' :: xs).mapM id <;> rfl

/-! ### Items -/

/-- **What is read of the bytes**, with blanks in front of them and whatever ends a number behind,
where at most `depth` arrays and objects are nested: the value, or nothing if there is none. -/
structure Reads (depth : Nat) (bytes : Bytes) (value : Option Json) : Prop where
  begins : Begins bytes
  outcome_eq : ∀ {blanks rest}, Blanks blanks → EndsNumber rest →
    outcome (readValue depth) (blanks ++ (bytes ++ rest)) = value.map (·, rest)

lemma Reads.outcome_here {depth : Nat} {bytes rest : Bytes} {value : Option Json}
    (h : Reads depth bytes value) (hrest : EndsNumber rest) :
    outcome (readValue depth) (bytes ++ rest) = value.map (·, rest) :=
  h.outcome_eq (fun _ h => absurd h List.not_mem_nil) hrest

/-- The items of an array are read as a list. -/
lemma readsSequence_items (depth : Nat) :
    ReadsSequence ']'.toUInt8 (readItems (readValue depth)) (Reads depth) where
  begins h := h.begins
  last h hbehind hskip := by
    rcases cases_of_outcome (h.outcome_here hbehind) with
      ⟨rfl, fault, hread⟩ | ⟨x, rfl, hshorter, hread⟩
    · exact outcome_of_error (by rw [readItems, hread])
    · obtain ⟨hdone, hclose⟩ := expectNext_done hskip .endInList .expectedCommaOrBracket
      rw [outcome, readItems, hread]
      simp only [expectNextItem, hclose]
      rfl
  more {_ _ _ _ next} h hbehind hskip hafter hnext := by
    rcases cases_of_outcome (h.outcome_here hbehind) with
      ⟨rfl, fault, hread⟩ | ⟨x, rfl, hshorter, hread⟩
    · exact outcome_of_error (by rw [readItems, hread])
    · obtain ⟨hmore, hcomma⟩ :=
        expectNext_more (.inl rfl) hskip hafter hnext .endInList .expectedCommaOrBracket
      rw [outcome, readItems, hread]
      simp only [expectNextItem, hcomma, Option.bind_some]
      rw [outcome]
      cases readItems (readValue depth) next <;> rfl

/-! ### Members -/

/-- What is read of the bytes as a member: its key, a colon, blanks and its value. -/
def ReadsMember (depth : Nat) (bytes : Bytes) (member : Option (String × Json)) : Prop :=
  ∃ key blanks text value, Blanks blanks ∧ Reads depth text value ∧
    bytes = bytesOf (literal key) ++ (':'.toUInt8 :: (blanks ++ text)) ∧
    member = value.map (key, ·)

lemma begins_literal (text : String) : Begins (bytesOf (literal text)) := by
  rw [bytesOf_literal]
  exact ⟨_, _, rfl, by decide, by decide, by decide⟩

/-- A quoted key is read as that key. -/
lemma yields_key (key : String) (rest : Bytes) :
    Yields readKey (bytesOf (literal key) ++ rest) key rest := by
  obtain ⟨hshorter, hread⟩ := yields_string key rest
  rw [bytesOf_literal, yields_iff, List.cons_append, List.append_assoc]
  unfold readKey
  simp only [ne_eq, not_true_eq_false, if_false]
  simp only [List.cons_append, List.nil_append, hread]
  rfl

/-- A colon behind a key is found. -/
lemma expectColon_cons (rest : Bytes) :
    ∃ shorter, expectColon (':'.toUInt8 :: rest) = .ok ⟨rest, shorter⟩ := by
  have hskip : skipBlanks (':'.toUInt8 :: rest) = ':'.toUInt8 :: rest :=
    skipBlanks_cons (by decide) rest
  refine ⟨Nat.lt_succ_self _, ?_⟩
  unfold expectColon
  split
  · next hnil => cases hnil.symm.trans hskip
  · next b tail hcons =>
      obtain ⟨rfl, rfl⟩ := List.cons.inj (hcons.symm.trans hskip)
      exact if_pos rfl

/-- A member with what follows it, cut where its reader comes to a part of it. -/
lemma member_append (key : String) (blanks text behind : Bytes) :
    bytesOf (literal key) ++ (':'.toUInt8 :: (blanks ++ text)) ++ behind =
      bytesOf (literal key) ++ (':'.toUInt8 :: (blanks ++ (text ++ behind))) := by
  simp only [List.append_assoc, List.cons_append]

/-- The members of an object are read as a list. -/
lemma readsSequence_members (depth : Nat) :
    ReadsSequence '\x7d'.toUInt8 (readMembers (readValue depth)) (ReadsMember depth) where
  begins h := by
    obtain ⟨key, blanks, text, value, -, -, rfl, -⟩ := h
    exact (begins_literal _).append _
  last {_ _ behind _} h hbehind hskip := by
    obtain ⟨key, blanks, text, value, hblanks, hvalue, rfl, rfl⟩ := h
    obtain ⟨hkey, hreadKey⟩ := yields_key key (':'.toUInt8 :: (blanks ++ (text ++ behind)))
    obtain ⟨hcolon, hreadColon⟩ := expectColon_cons (blanks ++ (text ++ behind))
    rw [member_append]
    rcases cases_of_outcome (hvalue.outcome_eq hblanks hbehind) with
      ⟨rfl, fault, hread⟩ | ⟨x, rfl, hshorter, hread⟩
    · refine @outcome_of_error _ _ _ fault ?_
      rw [readMembers, hreadKey]
      simp only [hreadColon, hread]
    · obtain ⟨hdone, hclose⟩ := expectNext_done hskip .endInObject .expectedCommaOrBrace
      rw [outcome, readMembers, hreadKey]
      simp only [hreadColon, hread, expectNextMember, hclose]
      rfl
  more {_ _ behind _ next} h hbehind hskip hafter hnext := by
    obtain ⟨key, blanks, text, value, hblanks, hvalue, rfl, rfl⟩ := h
    obtain ⟨hkey, hreadKey⟩ := yields_key key (':'.toUInt8 :: (blanks ++ (text ++ behind)))
    obtain ⟨hcolon, hreadColon⟩ := expectColon_cons (blanks ++ (text ++ behind))
    rw [member_append]
    rcases cases_of_outcome (hvalue.outcome_eq hblanks hbehind) with
      ⟨rfl, fault, hread⟩ | ⟨x, rfl, hshorter, hread⟩
    · refine @outcome_of_error _ _ _ fault ?_
      rw [readMembers, hreadKey]
      simp only [hreadColon, hread]
    · obtain ⟨hmore, hcomma⟩ :=
        expectNext_more (.inr rfl) hskip hafter hnext .endInObject .expectedCommaOrBrace
      rw [outcome, readMembers, hreadKey]
      simp only [hreadColon, hread, expectNextMember, hcomma, Option.map_some, Option.bind_some]
      rw [outcome]
      cases readMembers (readValue depth) next <;> rfl

/-! ### Containers -/

/-- Texts between brackets, with commas between them, and blanks where there are texts. -/
def enclosed (opening closing : UInt8) (before gap after : Bytes) (texts : List Bytes) : Bytes :=
  opening ::
    if texts = [] then [closing] else before ++ (separated gap texts ++ (after ++ [closing]))

lemma enclosed_nil_append (opening closing : UInt8) (before gap after rest : Bytes) :
    enclosed opening closing before gap after [] ++ rest = opening :: closing :: rest := rfl

lemma enclosed_cons_append (opening closing : UInt8) (before gap after text rest : Bytes)
    (texts : List Bytes) :
    enclosed opening closing before gap after (text :: texts) ++ rest =
      opening :: (before ++ (separated gap (text :: texts) ++ (after ++ closing :: rest))) := by
  simp [enclosed]

section Enclosed

variable {depth : Nat} {texts : List Bytes} {before gap after : Bytes}

/-- A list in brackets is read as a whole, with blanks wherever they may be. -/
lemma ReadsSequence.outcome_enclosed {α : Type} {closing : UInt8} {reader : Reader (List α)}
    {Element : Bytes → Option α → Prop} (h : ReadsSequence closing reader Element)
    (hclosing : Closing closing) (hbefore : Blanks before) (hgap : Blanks gap)
    (hafter : Blanks after) {xs : List (Option α)} (hxs : List.Forall₂ Element texts xs)
    (opening : UInt8) (rest : Bytes) :
    ∃ tail first behind, enclosed opening closing before gap after texts ++ rest = opening :: tail ∧
      skipBlanks tail = first :: behind ∧
      (if first = closing then some ([], behind) else outcome reader (first :: behind)) =
        (xs.mapM id).map (·, rest) := by
  cases hxs with
  | nil =>
      refine ⟨_, closing, rest, enclosed_nil_append _ _ _ _ _ _, ?_, if_pos rfl⟩
      rcases hclosing with rfl | rfl <;> exact skipBlanks_cons (by decide) rest
  | @cons text x texts xs hx hxs =>
      have hbegins : Begins (separated gap (text :: texts) ++ (after ++ closing :: rest)) :=
        (begins_separated (h.begins hx) texts).append _
      have hskip := hbegins.skipBlanks_eq hbefore
      have houtcome := h.outcome_eq hclosing hgap hafter hxs hx rest
      obtain ⟨first, behind, htext, -, hbracket, hbrace⟩ := hbegins
      refine ⟨_, first, behind, enclosed_cons_append _ _ _ _ _ _ _ _, hskip.trans htext, ?_⟩
      rw [← houtcome, htext, if_neg]
      rcases hclosing with rfl | rfl
      · exact hbracket
      · exact hbrace

/-- **What is read of an array**, however its items are laid out. -/
theorem reads_array {items : List (Option Json)} (h : List.Forall₂ (Reads depth) texts items)
    (hbefore : Blanks before) (hgap : Blanks gap) (hafter : Blanks after) :
    Reads (depth + 1) (enclosed '['.toUInt8 ']'.toUInt8 before gap after texts)
      ((items.mapM id).map .array) where
  begins := ⟨_, _, rfl, by decide, by decide, by decide⟩
  outcome_eq {blanks rest} hblanks _ := by
    obtain ⟨tail, first, behind, htext, hskip, houtcome⟩ :=
      (readsSequence_items depth).outcome_enclosed (.inl rfl) hbefore hgap hafter h '['.toUInt8 rest
    have hopen : skipBlanks (blanks ++ '['.toUInt8 :: tail) = '['.toUInt8 :: tail := by
      rw [skipBlanks_append hblanks, skipBlanks_cons (by decide)]
    have hscalar : scalar '['.toUInt8 tail = none := rfl
    rw [htext, outcome_readValue _ hopen, hscalar]
    simp only [if_true, outcome_readArray hskip, houtcome]
    cases items.mapM id <;> rfl

/-- The members of an object are read from behind its opening brace. -/
lemma exists_outcome_readObject {members : List (Option (String × Json))}
    (h : List.Forall₂ (ReadsMember depth) texts members)
    (hbefore : Blanks before) (hgap : Blanks gap) (hafter : Blanks after) (rest : Bytes) :
    ∃ tail, enclosed '\x7b'.toUInt8 '\x7d'.toUInt8 before gap after texts ++ rest =
        '\x7b'.toUInt8 :: tail ∧
      outcome (readObject (readValue depth)) tail = (members.mapM id).map (·, rest) := by
  obtain ⟨tail, first, behind, htext, hskip, houtcome⟩ :=
    (readsSequence_members depth).outcome_enclosed (.inr rfl) hbefore hgap hafter h
      '\x7b'.toUInt8 rest
  exact ⟨tail, htext, (outcome_readObject hskip).trans houtcome⟩

/-- **What is read of an object**, however its members are laid out. -/
theorem reads_object {members : List (Option (String × Json))}
    (h : List.Forall₂ (ReadsMember depth) texts members)
    (hbefore : Blanks before) (hgap : Blanks gap) (hafter : Blanks after) :
    Reads (depth + 1) (enclosed '\x7b'.toUInt8 '\x7d'.toUInt8 before gap after texts)
      ((members.mapM id).map fun members => .object (ofPairs members)) where
  begins := ⟨_, _, rfl, by decide, by decide, by decide⟩
  outcome_eq {blanks rest} hblanks _ := by
    obtain ⟨tail, htext, houtcome⟩ := exists_outcome_readObject h hbefore hgap hafter rest
    have hopen : skipBlanks (blanks ++ '\x7b'.toUInt8 :: tail) = '\x7b'.toUInt8 :: tail := by
      rw [skipBlanks_append hblanks, skipBlanks_cons (by decide)]
    have hscalar : scalar '\x7b'.toUInt8 tail = none := rfl
    have hbracket : '\x7b'.toUInt8 ≠ '['.toUInt8 := by decide
    rw [htext, outcome_readValue _ hopen, hscalar]
    simp only [if_neg hbracket, if_true, houtcome]
    cases members.mapM id <;> rfl

/-- Nothing is read of a container where none may stand. -/
lemma reads_container_zero {first : UInt8} (hfirst : first = '['.toUInt8 ∨
    first = '\x7b'.toUInt8) (tail : Bytes) : Reads 0 (first :: tail) none where
  begins := by
    rcases hfirst with rfl | rfl <;> exact ⟨_, _, rfl, by decide, by decide, by decide⟩
  outcome_eq {blanks rest} hblanks _ := by
    have hopen : skipBlanks (blanks ++ first :: (tail ++ rest)) = first :: (tail ++ rest) := by
      rw [skipBlanks_append hblanks]
      rcases hfirst with rfl | rfl <;> exact skipBlanks_cons (by decide) _
    rw [List.cons_append, outcome_readValue 0 hopen]
    rcases hfirst with rfl | rfl <;> rfl

end Enclosed

/-! ### Scalars -/

/-- What is read of a scalar depends on no depth. -/
lemma reads_scalar {depth : Nat} {first : UInt8} {tail : Bytes} {value : Option Json}
    (hbegins : Begins (first :: tail))
    (h : ∀ rest, EndsNumber rest → scalar first (tail ++ rest) = some (value.map (·, rest))) :
    Reads depth (first :: tail) value where
  begins := hbegins
  outcome_eq {_ rest} hblanks hrest := by
    have hskip := (hbegins.append rest).skipBlanks_eq hblanks
    rw [List.cons_append] at hskip
    rw [List.cons_append, outcome_readValue depth hskip, h _ hrest]

lemma reads_null (depth : Nat) : Reads depth (bytesOf "null") (some .null) :=
  reads_scalar ⟨_, _, rfl, by decide, by decide, by decide⟩ fun _ _ => rfl

lemma reads_true (depth : Nat) : Reads depth (bytesOf "true") (some (.bool true)) :=
  reads_scalar ⟨_, _, rfl, by decide, by decide, by decide⟩ fun _ _ => rfl

lemma reads_false (depth : Nat) : Reads depth (bytesOf "false") (some (.bool false)) :=
  reads_scalar ⟨_, _, rfl, by decide, by decide, by decide⟩ fun _ _ => rfl

/-- What is read of a scalar is what the reader for its sort reads. -/
lemma toOption_map_eq {α : Type} {reader : Reader α} {text rest : Bytes} {value : Option α}
    (h : outcome reader text = value.map (·, rest)) (f : α → Json) {n : Nat}
    (hle : ∀ taken : Taken α text, taken.rest.length ≤ n) :
    (((reader text).map fun taken =>
      (f taken.value, (⟨taken.rest, hle taken⟩ : { rest : Bytes // rest.length ≤ n }))).toOption.map
        fun taken => (taken.1, taken.2.1)) = (value.map f).map (·, rest) := by
  rcases cases_of_outcome h with ⟨rfl, fault, hread⟩ | ⟨x, rfl, hshorter, hread⟩
  · rw [hread]
    rfl
  · rw [hread]
    rfl

/-- **A quoted text is read as that text.** -/
lemma reads_string (depth : Nat) (text : String) :
    Reads depth (bytesOf (literal text)) (some (.string text)) := by
  have hbegins := begins_literal text
  rw [bytesOf_literal] at hbegins ⊢
  refine reads_scalar hbegins fun rest _ => ?_
  rw [List.append_assoc]
  have hread : outcome readString _ = (some text).map (·, rest) :=
    outcome_eq_some_iff.2 (yields_string text rest)
  exact congrArg some (toOption_map_eq hread .string _)

/-- A number is read from behind its minus sign. -/
lemma reads_signed {text : Bytes} {value : Option Number}
    (h : ∀ rest, EndsNumber rest →
      outcome (readNumber true) (text ++ rest) = value.map (·, rest)) (depth : Nat) :
    Reads depth ('-'.toUInt8 :: text) (value.map .number) :=
  reads_scalar ⟨_, _, rfl, by decide, by decide, by decide⟩ fun rest hrest =>
    congrArg some (toOption_map_eq (h rest hrest) .number _)

lemma ne_of_isDigit {b c : UInt8} (hb : isDigit b = true) (hc : isDigit c = false) : b ≠ c := by
  rintro rfl
  exact Bool.false_ne_true (hc.symm.trans hb)

lemma begins_digit {b : UInt8} (hb : isDigit b = true) (text : Bytes) : Begins (b :: text) := by
  have hne : ∀ c, isDigit c = false → b ≠ c := fun c => ne_of_isDigit hb
  refine ⟨b, text, rfl, ?_, hne _ (by decide), hne _ (by decide)⟩
  simp [isBlank, hne 0x20 (by decide), hne 0x09 (by decide), hne 0x0A (by decide),
    hne 0x0D (by decide)]

/-- A number without a sign is read from its first digit on. -/
lemma reads_unsigned {b : UInt8} (hb : isDigit b = true) {text : Bytes} {value : Option Number}
    (h : ∀ rest, EndsNumber rest →
      outcome (readNumber false) (b :: text ++ rest) = value.map (·, rest)) (depth : Nat) :
    Reads depth (b :: text) (value.map .number) := by
  refine reads_scalar (begins_digit hb text) fun rest hrest => ?_
  have hne : ∀ c, isDigit c = false → b ≠ c := fun c => ne_of_isDigit hb
  rw [scalar, readScalar?, if_neg (hne _ (by decide)), if_neg (hne _ (by decide)),
    if_neg (hne _ (by decide)), if_neg (hne _ (by decide)), if_neg (hne _ (by decide)), if_pos hb]
  exact congrArg some (toOption_map_eq (h rest hrest) .number _)

/-- A natural number below 2 to the 64 is read as that number. -/
lemma reads_nat (depth : Nat) {n : Nat} (hn : n < 2 ^ 64) :
    Reads depth (bytesOf n.repr) (some (.number (.whole n))) := by
  have hread : ∀ rest, EndsNumber rest →
      outcome (readNumber false) (bytesOf n.repr ++ rest) = (some (.whole n)).map (·, rest) :=
    fun rest hrest => outcome_eq_some_iff.2 (yields_number hn false hrest)
  obtain ⟨b, tail, hbytes, hb⟩ := exists_bytesOf_repr_eq_cons n
  rw [hbytes] at hread ⊢
  exact reads_unsigned hb hread depth

/-- A negative integer of 64 bits is read as that integer. -/
lemma reads_negative (depth : Nat) {n : Nat} (hzero : n ≠ 0) (hn : n ≤ 2 ^ 63) :
    Reads depth (bytesOf ("-" ++ n.repr)) (some (.number (.whole (-n)))) := by
  have hlt : n < 2 ^ 64 := Nat.lt_of_le_of_lt hn (by decide)
  have hinteger : integer true n = .whole (-n) := by
    have hsmall : ¬(n = 0 ∨ Nat.pow 2 63 < n) := by
      rintro (h | h)
      · exact hzero h
      · exact Nat.not_lt.2 hn h
    exact if_neg hsmall
  have hbytes : bytesOf ("-" ++ n.repr) = '-'.toUInt8 :: bytesOf n.repr := by
    rw [bytesOf_append]
    rfl
  have hread : ∀ rest, EndsNumber rest →
      outcome (readNumber true) (bytesOf n.repr ++ rest) = (some (.whole (-n))).map (·, rest) :=
    fun rest hrest => outcome_eq_some_iff.2 (hinteger ▸ yields_number hlt true hrest)
  rw [hbytes]
  exact reads_signed hread depth

/-- **An integer of 64 bits is read back.** -/
theorem reads_whole (depth : Nat) {k : Int} (h : (Number.whole k).InWords) :
    Reads depth (bytesOf (Number.whole k).spell) (some (.number (.whole k))) := by
  obtain ⟨hmin, hmax⟩ := h
  have hmin' : -2 ^ 63 ≤ k := Int64.toInt_minValue ▸ hmin
  rw [Number.spell, Int.repr_eq_if]
  split
  · next hpos =>
      have hlt : k.toNat < 2 ^ 64 := by omega
      have hread := reads_nat depth hlt
      rwa [Int.toNat_of_nonneg hpos] at hread
  · next hneg =>
      have hzero : (-k).toNat ≠ 0 := by omega
      have hle : (-k).toNat ≤ 2 ^ 63 := by omega
      have hread := reads_negative depth hzero hle
      rwa [Int.toNat_of_nonneg (by omega), Int.neg_neg] at hread

end SchemaCheck.Json
