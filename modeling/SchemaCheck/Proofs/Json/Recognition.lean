import Mathlib.Data.List.DropRight
import Mathlib.Tactic.Common
import SchemaCheck.Proofs.Json.Layout

/-!
# Recognizing sequences

The readers of arrays and objects, and those that pass them over, cut a text at its commas in one
way.  Which texts they accept is said here without them, by the texts of their elements.

* `Recognizes`: what a reader does is to take a text of some language off the front of a longer one.
  `Solid`: such a text may begin with blanks, but it does not end in one; `Core` is what is left
  without them.
* `Separated`, `Enclosed`: texts of elements with commas between them, and with blanks around them.
  `MemberText`: a key, a colon and a value.
* `Lists`: what the readers of sequences have in common, as a relation.  `lists_iff`, by induction
  in both directions: they recognize separated texts.
* `outcome_readArray_iff`, `outcome_readObject_iff`: so do the readers of arrays and objects.
-/

namespace SchemaCheck.Json

variable {α κ : Type}

/-! ### Languages -/

lemma exists_blanks_append (text : Bytes) :
    ∃ blanks, Blanks blanks ∧ text = blanks ++ skipBlanks text :=
  ⟨text.takeWhile isBlank, fun _ h => List.mem_takeWhile_imp h,
    List.takeWhile_append_dropWhile.symm⟩

lemma exists_blanks_of_skipBlanks {text rest : Bytes} {b : UInt8}
    (h : skipBlanks text = b :: rest) :
    ∃ blanks, Blanks blanks ∧ text = blanks ++ b :: rest :=
  h ▸ exists_blanks_append text

lemma skipBlanks_skipBlanks (text : Bytes) : skipBlanks (skipBlanks text) = skipBlanks text :=
  List.dropWhile_idempotent _ _

/-- Bytes of which the last one is not a blank. -/
def Ends (bytes : Bytes) : Prop := ∃ init last, bytes = init ++ [last] ∧ isBlank last = false

lemma Ends.append {bytes : Bytes} (h : Ends bytes) (before : Bytes) : Ends (before ++ bytes) := by
  obtain ⟨init, last, rfl, hlast⟩ := h
  exact ⟨before ++ init, last, (List.append_assoc ..).symm, hlast⟩

/-- Bytes that begin like an element, and do not end in a blank. -/
def Core (bytes : Bytes) : Prop := Begins bytes ∧ Ends bytes

/-- The same with blanks in front. -/
def Solid (bytes : Bytes) : Prop :=
  ∃ blanks core, Blanks blanks ∧ Core core ∧ bytes = blanks ++ core

lemma Solid.ends {bytes : Bytes} (h : Solid bytes) : Ends bytes := by
  obtain ⟨blanks, core, -, ⟨-, hends⟩, rfl⟩ := h
  exact hends.append blanks

lemma Solid.begins {bytes : Bytes} (h : Solid bytes) (rest : Bytes) :
    Begins (skipBlanks (bytes ++ rest)) := by
  obtain ⟨blanks, core, hblanks, ⟨hbegins, -⟩, rfl⟩ := h
  rw [List.append_assoc, (hbegins.append rest).skipBlanks_eq hblanks]
  exact hbegins.append rest

lemma Solid.pos {bytes : Bytes} (h : Solid bytes) : 0 < bytes.length := by
  obtain ⟨init, last, rfl, -⟩ := h.ends
  simp

/-- The run passes over blanks in front. -/
def Blind (run : Bytes → Option (α × Bytes)) : Prop := ∀ text, run (skipBlanks text) = run text

/-- **The run takes a text of the language off the front of a text**, and nothing else.  Where a
number ends is told by what follows it. -/
structure Recognizes (run : Bytes → Option (α × Bytes)) (Language : Bytes → α → Prop) : Prop where
  solid : ∀ {bytes x}, Language bytes x → Solid bytes
  sound : ∀ {text x rest}, run text = some (x, rest) →
    ∃ bytes, text = bytes ++ rest ∧ Language bytes x
  complete : ∀ {bytes x rest}, Language bytes x → EndsNumber rest →
    run (bytes ++ rest) = some (x, rest)

namespace Recognizes

variable {run : Bytes → Option (α × Bytes)} {Language : Bytes → α → Prop} {text rest : Bytes}
  {x : α}

lemma begins (h : Recognizes run Language) (hrun : run text = some (x, rest)) :
    Begins (skipBlanks text) := by
  obtain ⟨bytes, rfl, hbytes⟩ := h.sound hrun
  exact (h.solid hbytes).begins rest

/-- Something is taken. -/
lemma shorter (h : Recognizes run Language) (hrun : run text = some (x, rest)) :
    rest.length < text.length := by
  obtain ⟨bytes, rfl, hbytes⟩ := h.sound hrun
  have hpos := (h.solid hbytes).pos
  rw [List.length_append]
  omega

/-- The same with other values in the place of those that are read. -/
lemma map {Language' : Bytes → κ → Prop} (h : Recognizes run Language) (f : α → κ)
    (hlanguage : ∀ {bytes y}, Language' bytes y ↔ ∃ x, f x = y ∧ Language bytes x) :
    Recognizes (fun text => (run text).map (Prod.map f id)) Language' where
  solid hbytes := by
    obtain ⟨x, -, hx⟩ := hlanguage.1 hbytes
    exact h.solid hx
  sound hrun := by
    obtain ⟨⟨x, rest⟩, hx, heq⟩ := Option.map_eq_some_iff.1 hrun
    cases heq
    obtain ⟨bytes, htext, hbytes⟩ := h.sound hx
    exact ⟨bytes, htext, hlanguage.2 ⟨x, rfl, hbytes⟩⟩
  complete hbytes hrest := by
    obtain ⟨x, rfl, hx⟩ := hlanguage.1 hbytes
    rw [h.complete hx hrest]
    rfl

end Recognizes

/-- A text of the language with blanks in front. -/
def Padded (Language : Bytes → α → Prop) (bytes : Bytes) (x : α) : Prop :=
  ∃ blanks core, Blanks blanks ∧ Language core x ∧ bytes = blanks ++ core

/-- **What is read behind blanks** is recognized with blanks in front. -/
lemma recognizes_padded {run : Bytes → Option (α × Bytes)} {Language : Bytes → α → Prop}
    (hcore : ∀ {core x}, Language core x → Core core)
    (hnil : ∀ {text}, skipBlanks text = [] → run text = none)
    (hsound : ∀ {text tail first x rest}, skipBlanks text = first :: tail →
      run text = some (x, rest) → ∃ core, first :: tail = core ++ rest ∧ Language core x)
    (hcomplete : ∀ {text core x rest}, Language core x → EndsNumber rest →
      skipBlanks text = core ++ rest → run text = some (x, rest)) :
    Recognizes run (Padded Language) where
  solid := by
    rintro bytes x ⟨blanks, core, hblanks, hlanguage, rfl⟩
    exact ⟨blanks, core, hblanks, hcore hlanguage, rfl⟩
  sound := by
    intro text x rest hrun
    cases hskip : skipBlanks text with
    | nil => cases (hnil hskip).symm.trans hrun
    | cons first tail =>
        obtain ⟨core, hcons, hlanguage⟩ := hsound hskip hrun
        obtain ⟨blanks, hblanks, rfl⟩ := exists_blanks_of_skipBlanks hskip
        exact ⟨blanks ++ core, by rw [hcons, List.append_assoc], blanks, core, hblanks, hlanguage,
          rfl⟩
  complete := by
    rintro bytes x rest ⟨blanks, core, hblanks, hlanguage, rfl⟩ hrest
    refine hcomplete hlanguage hrest ?_
    rw [List.append_assoc, ((hcore hlanguage).1.append rest).skipBlanks_eq hblanks]

/-! ### Sequences -/

/-- Elements with commas between them, each with blanks behind it. -/
inductive Separated (Element : Bytes → α → Prop) : Bytes → List α → Prop
  | one {bytes blanks : Bytes} {x : α} (element : Element bytes x) (blank : Blanks blanks) :
      Separated Element (bytes ++ blanks) [x]
  | cons {bytes blanks more : Bytes} {x : α} {xs : List α} (element : Element bytes x)
      (blank : Blanks blanks) (others : Separated Element more xs) :
      Separated Element (bytes ++ (blanks ++ ','.toUInt8 :: more)) (x :: xs)

/-- What stands between two brackets: elements, or blanks alone. -/
def Enclosed (Element : Bytes → α → Prop) (bytes : Bytes) (xs : List α) : Prop :=
  xs = [] ∧ Blanks bytes ∨ Separated Element bytes xs

/-- The same with the brackets. -/
def Bracketed (opening closing : UInt8) (Element : Bytes → α → Prop) (bytes : Bytes) (xs : List α) :
    Prop :=
  ∃ inner, Enclosed Element inner xs ∧ bytes = opening :: (inner ++ [closing])

/-- A bracketed text begins with the bracket that opens. -/
lemma Bracketed.core {opening closing : UInt8} {Element : Bytes → α → Prop} {bytes : Bytes}
    {xs : List α} (h : Bracketed opening closing Element bytes xs)
    (hopening : isBlank opening = false ∧ opening ≠ ']'.toUInt8 ∧ opening ≠ '\x7d'.toUInt8)
    (hclosing : isBlank closing = false) : Core bytes := by
  obtain ⟨inner, -, rfl⟩ := h
  exact ⟨⟨opening, _, rfl, hopening⟩, opening :: inner, closing, rfl, hclosing⟩

/-- Only an element's own bytes count. -/
lemma Separated.imp {Element Element' : Bytes → α → Prop} {bytes : Bytes} {xs : List α}
    (h : Separated Element bytes xs)
    (himp : ∀ element x, element.length ≤ bytes.length → Element element x → Element' element x) :
    Separated Element' bytes xs := by
  induction h with
  | one element blank =>
      exact .one (himp _ _ (by simp) element) blank
  | cons element blank others ih =>
      refine .cons (himp _ _ (by simp) element) blank (ih fun part x hpart => ?_)
      exact himp part x (by simp; omega)

lemma Enclosed.imp {Element Element' : Bytes → α → Prop} {bytes : Bytes} {xs : List α}
    (h : Enclosed Element bytes xs)
    (himp : ∀ element x, element.length ≤ bytes.length → Element element x → Element' element x) :
    Enclosed Element' bytes xs :=
  Or.imp_right (fun h => Separated.imp h himp) h

/-- Each element has its text. -/
lemma Enclosed.exists_of_mem {Element : Bytes → α → Prop} {bytes : Bytes} {xs : List α} {x : α}
    (h : Enclosed Element bytes xs) (hx : x ∈ xs) : ∃ element, Element element x := by
  rcases h with ⟨rfl, -⟩ | h
  · exact absurd hx List.not_mem_nil
  · induction h with
    | one element blank =>
        obtain rfl := List.mem_singleton.1 hx
        exact ⟨_, element⟩
    | cons element blank others ih =>
        rcases List.mem_cons.1 hx with rfl | hx
        · exact ⟨_, element⟩
        · exact ih hx

/-- **How a sequence is read**, element by element: behind each of them there is a comma and another
one, or the byte that closes the sequence. -/
inductive Lists (run : Bytes → Option (α × Bytes)) (closing : UInt8) :
    Bytes → List α → Bytes → Prop
  | last {text behind rest : Bytes} {x : α} (read : run text = some (x, behind))
      (close : skipBlanks behind = closing :: rest) : Lists run closing text [x] rest
  | more {text behind next rest : Bytes} {x : α} {xs : List α} (read : run text = some (x, behind))
      (comma : skipBlanks behind = ','.toUInt8 :: next) (others : Lists run closing next xs rest) :
      Lists run closing text (x :: xs) rest

section Sequences

variable {run : Bytes → Option (α × Bytes)} {Element : Bytes → α → Prop} {closing : UInt8}
  {text rest : Bytes} {xs : List α}

lemma Lists.congr {text' : Bytes} (h : Lists run closing text xs rest)
    (hrun : run text' = run text) : Lists run closing text' xs rest := by
  cases h with
  | last read close => exact .last (hrun.trans read) close
  | more read comma others => exact .more (hrun.trans read) comma others

lemma Lists.begins (h : Lists run closing text xs rest) (hrun : Recognizes run Element) :
    Begins (skipBlanks text) := by
  cases h with
  | last read close => exact hrun.begins read
  | more read comma others => exact hrun.begins read

/-- **A sequence is read exactly if its elements are there**, separated by commas, and then the byte
that closes it. -/
theorem lists_iff (h : Recognizes run Element) (hclosing : Closing closing) :
    Lists run closing text xs rest ↔
      ∃ inner, text = inner ++ closing :: rest ∧ Separated Element inner xs := by
  constructor
  · intro hlists
    induction hlists with
    | last read close =>
        obtain ⟨bytes, rfl, helement⟩ := h.sound read
        obtain ⟨blanks, hblanks, rfl⟩ := exists_blanks_of_skipBlanks close
        exact ⟨bytes ++ blanks, (List.append_assoc ..).symm, .one helement hblanks⟩
    | more read comma others ih =>
        obtain ⟨bytes, rfl, helement⟩ := h.sound read
        obtain ⟨blanks, hblanks, rfl⟩ := exists_blanks_of_skipBlanks comma
        obtain ⟨inner, rfl, hinner⟩ := ih
        exact ⟨_, by simp only [List.append_assoc, List.cons_append],
          .cons helement hblanks hinner⟩
  · rintro ⟨inner, rfl, hinner⟩
    induction hinner with
    | one element blank =>
        obtain ⟨hends, hskip⟩ := skipBlanks_closing hclosing blank rest
        refine .last ?_ hskip
        rw [List.append_assoc]
        exact h.complete element hends
    | @cons bytes blanks more x xs element blank others ih =>
        have hends : EndsNumber (blanks ++ ','.toUInt8 :: (more ++ closing :: rest)) :=
          endsNumber_blanks blank (endsNumber_cons (by decide) _)
        have hskip : skipBlanks (blanks ++ ','.toUInt8 :: (more ++ closing :: rest)) =
            ','.toUInt8 :: (more ++ closing :: rest) := by
          rw [skipBlanks_append blank, skipBlanks_cons (by decide)]
        refine .more ?_ hskip ih
        rw [List.append_assoc, List.append_assoc, List.cons_append]
        exact h.complete element hends

/-- What stands between two brackets is read: nothing, or a sequence. -/
lemma enclosed_iff (h : Recognizes run Element) (hclosing : Closing closing) :
    (∃ inner, text = inner ++ closing :: rest ∧ Enclosed Element inner xs) ↔
      xs = [] ∧ skipBlanks text = closing :: rest ∨ Lists run closing text xs rest := by
  rw [lists_iff h hclosing]
  constructor
  · rintro ⟨inner, rfl, ⟨rfl, hblanks⟩ | hinner⟩
    · exact .inl ⟨rfl, (skipBlanks_closing hclosing hblanks rest).2⟩
    · exact .inr ⟨inner, rfl, hinner⟩
  · rintro (⟨rfl, hskip⟩ | ⟨inner, rfl, hinner⟩)
    · obtain ⟨blanks, hblanks, rfl⟩ := exists_blanks_of_skipBlanks hskip
      exact ⟨blanks, rfl, .inl ⟨rfl, hblanks⟩⟩
    · exact ⟨inner, rfl, .inr hinner⟩

end Sequences

/-! ### Members -/

/-- The texts of keys that a run takes off the front of a text. -/
structure RecognizesKey (run : Bytes → Option (κ × Bytes)) (Key : Bytes → κ → Prop) : Prop where
  quoted : ∀ {bytes key}, Key bytes key → ∃ tail, bytes = '"'.toUInt8 :: tail
  iff : ∀ {text key rest}, run text = some (key, rest) ↔
    ∃ bytes, text = bytes ++ rest ∧ Key bytes key

/-- The text behind the colon that comes next. -/
def colon? (text : Bytes) : Option Bytes :=
  match skipBlanks text with
  | [] => none
  | b :: rest => if b = ':'.toUInt8 then some rest else none

lemma colon?_eq_some_iff {text rest : Bytes} :
    colon? text = some rest ↔ skipBlanks text = ':'.toUInt8 :: rest := by
  rw [colon?]
  cases skipBlanks text with
  | nil => simp
  | cons b tail =>
      by_cases hb : b = ':'.toUInt8 <;> simp [hb]

/-- How a member is read: a key, a colon and a value, which may be read by its key. -/
def member (key : Bytes → Option (κ × Bytes)) (value : κ → Bytes → Option (α × Bytes))
    (text : Bytes) : Option ((κ × α) × Bytes) :=
  (key (skipBlanks text)).bind fun taken => (colon? taken.2).bind fun behind =>
    (value taken.1 behind).map (Prod.map (taken.1, ·) id)

/-- A member is a key, a colon and a value, with blanks between them. -/
lemma member_eq_some_iff {key : Bytes → Option (κ × Bytes)}
    {value : κ → Bytes → Option (α × Bytes)} {text rest : Bytes} {found : κ × α} :
    member key value text = some (found, rest) ↔
      ∃ afterKey afterColon, key (skipBlanks text) = some (found.1, afterKey) ∧
        skipBlanks afterKey = ':'.toUInt8 :: afterColon ∧
          value found.1 afterColon = some (found.2, rest) := by
  obtain ⟨k, v⟩ := found
  simp only [member, Option.bind_eq_some_iff, Option.map_eq_some_iff, colon?_eq_some_iff]
  constructor
  · rintro ⟨⟨k', afterKey⟩, hkey, afterColon, hcolon, ⟨v', rest'⟩, hvalue, heq⟩
    cases heq
    exact ⟨afterKey, afterColon, hkey, hcolon, hvalue⟩
  · rintro ⟨afterKey, afterColon, hkey, hcolon, hvalue⟩
    exact ⟨(k, afterKey), hkey, afterColon, hcolon, (v, rest), hvalue, rfl⟩

lemma blind_member (key : Bytes → Option (κ × Bytes)) (value : κ → Bytes → Option (α × Bytes)) :
    Blind (member key value) :=
  fun text => by rw [member, skipBlanks_skipBlanks, member]

/-- The text of a member: a key, a colon and a value, with blanks before them. -/
def MemberText (Key : Bytes → κ → Prop) (Value : κ → Bytes → α → Prop) (bytes : Bytes)
    (found : κ × α) : Prop :=
  ∃ blanks key gap value, Blanks blanks ∧ Key key found.1 ∧ Blanks gap ∧
    Value found.1 value found.2 ∧ bytes = blanks ++ (key ++ (gap ++ ':'.toUInt8 :: value))

/-- **A member is recognized** if its key and its value are. -/
theorem recognizes_member {key : Bytes → Option (κ × Bytes)} {Key : Bytes → κ → Prop}
    {value : κ → Bytes → Option (α × Bytes)} {Value : κ → Bytes → α → Prop}
    (hkey : RecognizesKey key Key) (hvalue : ∀ k, Recognizes (value k) (Value k)) :
    Recognizes (member key value) (MemberText Key Value) where
  solid := by
    rintro bytes ⟨k, v⟩ ⟨blanks, keyBytes, gap, valueBytes, hblanks, hkeyBytes, -, hvalueBytes, rfl⟩
    obtain ⟨tail, rfl⟩ := hkey.quoted hkeyBytes
    have hends := ((hvalue k).solid hvalueBytes).ends
    refine ⟨blanks, _, hblanks, ⟨?_, ?_⟩, rfl⟩
    · exact ⟨'"'.toUInt8, _, rfl, by decide, by decide, by decide⟩
    · have hcolon : ∀ before, before ++ ':'.toUInt8 :: valueBytes =
          (before ++ [':'.toUInt8]) ++ valueBytes := by simp
      rw [← List.append_assoc, hcolon]
      exact hends.append _
  sound := by
    rintro text ⟨k, v⟩ rest hrun
    obtain ⟨afterKey, afterColon, hread, hcolon, hfound⟩ := member_eq_some_iff.1 hrun
    obtain ⟨keyBytes, hskip, hkeyBytes⟩ := hkey.iff.1 hread
    obtain ⟨gap, hgap, rfl⟩ := exists_blanks_of_skipBlanks hcolon
    obtain ⟨valueBytes, rfl, hvalueBytes⟩ := (hvalue k).sound hfound
    obtain ⟨blanks, hblanks, htext⟩ := exists_blanks_append text
    refine ⟨_, ?_, blanks, keyBytes, gap, valueBytes, hblanks, hkeyBytes, hgap, hvalueBytes, rfl⟩
    rw [htext, hskip]
    simp only [List.append_assoc, List.cons_append]
  complete := by
    rintro bytes ⟨k, v⟩ rest
      ⟨blanks, keyBytes, gap, valueBytes, hblanks, hkeyBytes, hgap, hvalueBytes, rfl⟩ hrest
    have hread : key (keyBytes ++ (gap ++ ':'.toUInt8 :: (valueBytes ++ rest))) =
        some (k, gap ++ ':'.toUInt8 :: (valueBytes ++ rest)) := hkey.iff.2 ⟨_, rfl, hkeyBytes⟩
    have hskip : skipBlanks (gap ++ ':'.toUInt8 :: (valueBytes ++ rest)) =
        ':'.toUInt8 :: (valueBytes ++ rest) := by
      rw [skipBlanks_append hgap, skipBlanks_cons (by decide)]
    obtain ⟨tail, rfl⟩ := hkey.quoted hkeyBytes
    refine member_eq_some_iff.2 ⟨_, _, ?_, hskip, (hvalue k).complete hvalueBytes hrest⟩
    rw [← hread]
    simp only [List.append_assoc, List.cons_append]
    rw [skipBlanks_append hblanks, skipBlanks_cons (by decide)]

/-! ### Readers of sequences -/

section Readers

variable {closing : UInt8} {atEnd otherwise : Cause} {text rest : Bytes}

/-- A list is done at its closing bracket. -/
lemma skipBlanks_of_done {shorter : rest.length < text.length}
    (h : expectNext closing atEnd otherwise text = .ok (.done rest shorter)) :
    skipBlanks text = closing :: rest := by
  unfold expectNext at h
  split at h
  · cases h
  · next b behind hskip =>
      split at h
      · next hb =>
          cases h
          exact hb ▸ hskip
      · split at h
        · cases h
        · split at h
          · cases h
          · split at h <;> cases h

/-- A list goes on behind a comma. -/
lemma skipBlanks_of_more {shorter : rest.length < text.length}
    (h : expectNext closing atEnd otherwise text = .ok (.more rest shorter)) :
    ∃ behind, skipBlanks text = ','.toUInt8 :: behind ∧ skipBlanks behind = rest := by
  unfold expectNext at h
  split at h
  · cases h
  · next b behind hskip =>
      split at h
      · cases h
      · split at h
        · cases h
        · next hb =>
            split at h
            · cases h
            · next c tail hbehind =>
                split at h
                · cases h
                · cases h
                  exact ⟨behind, not_not.1 hb ▸ hskip, hbehind⟩

end Readers

section Readers

variable {run : Bytes → Option (α × Bytes)} {item : Reader α} {Element : Bytes → α → Prop}
  {text rest : Bytes} {xs : List α} {members : List (String × α)}

/-- **What is read of an array is a list of items.** -/
lemma lists_of_readItems (h : Blind (outcome item)) :
    ∀ taken, readItems item text = .ok taken →
      Lists (outcome item) ']'.toUInt8 text taken.value taken.rest := by
  fun_induction readItems item text with
  | case3 text value rest hr hread behind hb hnext =>
      intro taken htaken
      obtain rfl := Except.ok.inj htaken
      exact .last (outcome_of_ok hread) (skipBlanks_of_done hnext)
  | case5 text value rest hr hread next hn hnext values last hl hrest ih =>
      intro taken htaken
      obtain rfl := Except.ok.inj htaken
      obtain ⟨behind, hcomma, rfl⟩ := skipBlanks_of_more hnext
      exact .more (outcome_of_ok hread) hcomma ((ih _ hrest).congr (h behind).symm)
  | _ =>
      -- A fault comes first.
      intro taken htaken
      cases htaken

/-- **A list of items is read as they are**, each by the reader of one. -/
lemma outcome_readItems_of_lists (h : Recognizes (outcome item) Element)
    (hblind : Blind (outcome item))
    (hlists : Lists (outcome item) ']'.toUInt8 text xs rest) :
    outcome (readItems item) (skipBlanks text) = some (xs, rest) := by
  induction hlists with
  | last read close =>
      rw [← hblind] at read
      obtain ⟨hshorter, hread⟩ := outcome_eq_some_iff.1 read
      obtain ⟨hdone, hclose⟩ := expectNext_done close .endInList .expectedCommaOrBracket
      rw [outcome, readItems, hread]
      simp only [expectNextItem, hclose]
      rfl
  | more read comma others ih =>
      rw [← hblind] at read
      obtain ⟨hshorter, hread⟩ := outcome_eq_some_iff.1 read
      obtain ⟨hmore, hcomma⟩ := expectNext_more (.inl rfl) comma rfl (others.begins h) .endInList
        .expectedCommaOrBracket
      obtain ⟨hbehind, hothers⟩ := outcome_eq_some_iff.1 ih
      rw [outcome, readItems, hread]
      simp only [expectNextItem, hcomma, hothers]
      rfl

/-- Items are read exactly as they are listed. -/
lemma outcome_readItems_iff (h : Recognizes (outcome item) Element)
    (hblind : Blind (outcome item)) :
    outcome (readItems item) (skipBlanks text) = some (xs, rest) ↔
      Lists (outcome item) ']'.toUInt8 text xs rest := by
  constructor
  · intro hread
    obtain ⟨hshorter, hitems⟩ := outcome_eq_some_iff.1 hread
    exact (lists_of_readItems hblind _ hitems).congr (hblind text).symm
  · exact outcome_readItems_of_lists h hblind

/-! ### Members -/

/-- A key is a string in quotes. -/
lemma readKey_eq_ok_iff {key : String} :
    outcome readKey text = some (key, rest) ↔
      ∃ tail, text = '"'.toUInt8 :: tail ∧ outcome readString tail = some (key, rest) := by
  unfold outcome readKey
  cases text with
  | nil => simp [Except.toOption]
  | cons q tail =>
      by_cases hq : q = '"'.toUInt8
      · subst hq
        simp only [ne_eq, not_true_eq_false, if_false, List.cons.injEq, true_and, exists_eq_left']
        cases readString tail <;> rfl
      · simp [hq, Except.toOption]

lemma skipBlanks_of_readKey {key : String} (h : outcome readKey text = some (key, rest)) :
    skipBlanks text = text := by
  obtain ⟨tail, rfl, -⟩ := readKey_eq_ok_iff.1 h
  exact skipBlanks_cons (by decide) tail

/-- A colon is expected behind blanks. -/
lemma expectColon_eq_ok_iff :
    (∃ shorter, expectColon text = .ok ⟨rest, shorter⟩) ↔
      skipBlanks text = ':'.toUInt8 :: rest := by
  constructor
  · rintro ⟨shorter, h⟩
    unfold expectColon at h
    split at h
    · cases h
    · next hskip =>
        split at h
        · next hb =>
            cases h
            exact hb ▸ hskip
        · cases h
  · intro h
    refine ⟨length_lt_of_skipBlanks h, ?_⟩
    unfold expectColon
    split
    · next hnil => cases hnil.symm.trans h
    · next hcons =>
        obtain ⟨rfl, rfl⟩ := List.cons.inj (hcons.symm.trans h)
        exact if_pos rfl

/-- How a member is read, by its parts. -/
lemma member_outcome_iff {value : String → Reader α} {key : String} {x : α} :
    member (outcome readKey) (fun key => outcome (value key)) text = some ((key, x), rest) ↔
      ∃ afterKey afterColon, Yields readKey (skipBlanks text) key afterKey ∧
        (∃ shorter, expectColon afterKey = .ok ⟨afterColon, shorter⟩) ∧
          Yields (value key) afterColon x rest := by
  simp only [member_eq_some_iff, outcome_eq_some_iff, expectColon_eq_ok_iff]

/-- A member is put together of a key, a colon and a value that are read. -/
lemma member_of_ok (value : String → Reader α) {key : String} {x : α} {afterKey afterColon : Bytes}
    {hk : afterKey.length < text.length} {hc : afterColon.length < afterKey.length}
    {hv : rest.length < afterColon.length} (hkey : readKey text = .ok ⟨key, afterKey, hk⟩)
    (hcolon : expectColon afterKey = .ok ⟨afterColon, hc⟩)
    (hvalue : value key afterColon = .ok ⟨x, rest, hv⟩) :
    member (outcome readKey) (fun key => outcome (value key)) text = some ((key, x), rest) := by
  refine member_outcome_iff.2 ⟨afterKey, afterColon, ?_, ⟨hc, hcolon⟩, hv, hvalue⟩
  rw [← outcome_eq_some_iff, skipBlanks_of_readKey (outcome_of_ok hkey)]
  exact outcome_of_ok hkey

/-- **What is read of an object is a list of members.** -/
lemma lists_of_readMembers :
    ∀ taken, readMembers item text = .ok taken →
      Lists (member (outcome readKey) fun _ => outcome item) '\x7d'.toUInt8 text taken.value
        taken.rest := by
  fun_induction readMembers item text with
  | case5 text key afterKey hk hkey afterColon hc hcolon value rest hr hread behind hb hnext =>
      intro taken htaken
      obtain rfl := Except.ok.inj htaken
      exact .last (member_of_ok (fun _ => item) hkey hcolon hread)
        (skipBlanks_of_done hnext)
  | case7 text key afterKey hk hkey afterColon hc hcolon value rest hr hread next hn hnext members
      last hl hrest ih =>
      intro taken htaken
      obtain rfl := Except.ok.inj htaken
      obtain ⟨behind, hcomma, rfl⟩ := skipBlanks_of_more hnext
      exact .more (member_of_ok (fun _ => item) hkey hcolon hread) hcomma
        ((ih _ hrest).congr (blind_member _ _ behind).symm)
  | _ =>
      intro taken htaken
      cases htaken

/-- **A list of members is read as they are**, each by key and value. -/
lemma outcome_readMembers_of_lists {Member : Bytes → String × α → Prop}
    (h : Recognizes (member (outcome readKey) fun _ => outcome item) Member)
    (hlists : Lists (member (outcome readKey) fun _ => outcome item) '\x7d'.toUInt8 text members
      rest) :
    outcome (readMembers item) (skipBlanks text) = some (members, rest) := by
  induction hlists with
  | last read close =>
      obtain ⟨afterKey, afterColon, ⟨hk, hkey⟩, ⟨hc, hcolon⟩, hv, hvalue⟩ :=
        member_outcome_iff.1 read
      obtain ⟨hdone, hclose⟩ := expectNext_done close .endInObject .expectedCommaOrBrace
      rw [outcome, readMembers, hkey]
      simp only [hcolon, hvalue, expectNextMember, hclose]
      rfl
  | more read comma others ih =>
      obtain ⟨afterKey, afterColon, ⟨hk, hkey⟩, ⟨hc, hcolon⟩, hv, hvalue⟩ :=
        member_outcome_iff.1 read
      obtain ⟨hmore, hcomma⟩ := expectNext_more (.inr rfl) comma rfl (others.begins h) .endInObject
        .expectedCommaOrBrace
      obtain ⟨hbehind, hothers⟩ := outcome_eq_some_iff.1 ih
      rw [outcome, readMembers, hkey]
      simp only [hcolon, hvalue, expectNextMember, hcomma, hothers]
      rfl

lemma outcome_readMembers_iff {Member : Bytes → String × α → Prop}
    (h : Recognizes (member (outcome readKey) fun _ => outcome item) Member) :
    outcome (readMembers item) (skipBlanks text) = some (members, rest) ↔
      Lists (member (outcome readKey) fun _ => outcome item) '\x7d'.toUInt8 text members rest := by
  constructor
  · intro hread
    obtain ⟨hshorter, hmembers⟩ := outcome_eq_some_iff.1 hread
    exact (lists_of_readMembers _ hmembers).congr (blind_member _ _ text).symm
  · exact outcome_readMembers_of_lists h

end Readers

/-! ### Brackets -/

/-- What is read from behind a bracket that opens: the one that closes, or elements from the first
one on, of which something is kept. -/
def insideBrackets (keep : List α → κ) (closing : UInt8) (elements : Bytes → Option (κ × Bytes))
    (text : Bytes) : Option (κ × Bytes) :=
  match skipBlanks text with
  | [] => none
  | b :: rest => if b = closing then some (keep [], rest) else elements (b :: rest)

section Brackets

variable {run : Bytes → Option (α × Bytes)} {Element : Bytes → α → Prop} {closing : UInt8}
  {keep : List α → κ} {elements : Bytes → Option (κ × Bytes)} {text rest : Bytes} {kept : κ}

lemma insideBrackets_nil (hskip : skipBlanks text = []) :
    insideBrackets keep closing elements text = none := by
  rw [insideBrackets, hskip]

lemma insideBrackets_cons {b : UInt8} {tail : Bytes} (hskip : skipBlanks text = b :: tail) :
    insideBrackets keep closing elements text =
      if b = closing then some (keep [], tail) else elements (b :: tail) := by
  rw [insideBrackets, hskip]

/-- The bracket that closes is no beginning of an element. -/
lemma Lists.ne_closing {tail : Bytes} {b : UInt8} {xs : List α} (h : Recognizes run Element)
    (hclosing : Closing closing) (hskip : skipBlanks text = b :: tail)
    (hlists : Lists run closing text xs rest) : b ≠ closing := by
  obtain ⟨first, tail', hcons, -, hbracket, hbrace⟩ := hlists.begins h
  obtain ⟨rfl, -⟩ := List.cons.inj (hskip.symm.trans hcons)
  rcases hclosing with rfl | rfl
  · exact hbracket
  · exact hbrace

/-- **What is in brackets** is a list of elements, with blanks wherever they may be. -/
lemma insideBrackets_eq_some_iff (h : Recognizes run Element) (hclosing : Closing closing)
    (helements : elements (skipBlanks text) = some (kept, rest) ↔
      ∃ xs, keep xs = kept ∧ Lists run closing text xs rest) :
    insideBrackets keep closing elements text = some (kept, rest) ↔
      ∃ xs, keep xs = kept ∧
        ∃ inner, text = inner ++ closing :: rest ∧ Enclosed Element inner xs := by
  simp only [enclosed_iff h hclosing]
  cases hskip : skipBlanks text with
  | nil =>
      rw [insideBrackets_nil hskip]
      constructor
      · intro hread
        cases hread
      · rintro ⟨xs, -, ⟨-, hclose⟩ | hlists⟩
        · cases hclose
        · obtain ⟨first, tail, hcons, -⟩ := hlists.begins h
          cases hskip.symm.trans hcons
  | cons b tail =>
      rw [hskip] at helements
      rw [insideBrackets_cons hskip]
      split
      · next hb =>
          subst hb
          constructor
          · intro hread
            obtain ⟨rfl, rfl⟩ := Prod.mk.inj (Option.some.inj hread)
            exact ⟨[], rfl, .inl ⟨rfl, rfl⟩⟩
          · rintro ⟨xs, rfl, ⟨rfl, hclose⟩ | hlists⟩
            · rw [(List.cons.inj hclose).2]
            · exact absurd rfl (hlists.ne_closing h hclosing hskip)
      · next hb =>
          rw [helements]
          refine exists_congr fun xs => and_congr_right fun _ => ?_
          exact (or_iff_right fun hclose => hb (List.cons.inj hclose.2).1).symm

end Brackets

section Brackets

variable {item : Reader Json} {Element : Bytes → Json → Prop}
  {Member : Bytes → String × Json → Prop} {text rest : Bytes} {xs : List Json}
  {members : List (String × Json)}

/-- An array is a list of items in brackets. -/
lemma outcome_readArray_eq (item : Reader Json) (text : Bytes) :
    outcome (readArray item) text =
      insideBrackets id ']'.toUInt8 (outcome (readItems item)) text := by
  cases hskip : skipBlanks text with
  | cons b tail => rw [insideBrackets_cons hskip, outcome_readArray hskip, id]
  | nil =>
      rw [insideBrackets_nil hskip]
      unfold outcome readArray
      split
      · rfl
      · next hcons => cases hskip.symm.trans hcons

/-- An object is a list of members in brackets. -/
lemma outcome_readObject_eq (value : Reader Json) (text : Bytes) :
    outcome (readObject value) text =
      insideBrackets id '\x7d'.toUInt8 (outcome (readMembers value)) text := by
  cases hskip : skipBlanks text with
  | cons b tail => rw [insideBrackets_cons hskip, outcome_readObject hskip, id]
  | nil =>
      rw [insideBrackets_nil hskip]
      unfold outcome readObject
      split
      · rfl
      · next hcons => cases hskip.symm.trans hcons

/-- **An array is read** up to the bracket that closes it, if its items are there. -/
theorem outcome_readArray_iff (h : Recognizes (outcome item) Element)
    (hblind : Blind (outcome item)) :
    outcome (readArray item) text = some (xs, rest) ↔
      ∃ inner, text = inner ++ ']'.toUInt8 :: rest ∧ Enclosed Element inner xs := by
  rw [outcome_readArray_eq, insideBrackets_eq_some_iff h (.inl rfl)]
  · simp only [id_eq, exists_eq_left]
  · simp only [id_eq, exists_eq_left, outcome_readItems_iff h hblind]

/-- **An object is read** up to the brace that closes it, if its members are there. -/
theorem outcome_readObject_iff
    (h : Recognizes (member (outcome readKey) fun _ => outcome item) Member) :
    outcome (readObject item) text = some (members, rest) ↔
      ∃ inner, text = inner ++ '\x7d'.toUInt8 :: rest ∧ Enclosed Member inner members := by
  rw [outcome_readObject_eq, insideBrackets_eq_some_iff h (.inr rfl)]
  · simp only [id_eq, exists_eq_left]
  · simp only [id_eq, exists_eq_left, outcome_readMembers_iff h]

end Brackets

end SchemaCheck.Json
