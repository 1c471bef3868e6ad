import Mathlib.Data.List.TakeWhile
import Mathlib.Tactic.Common
import SchemaCheck.Path

/-!
# The text of a path

A path can be told from its text where no key could be taken for several steps.

* `Segment.Plain`: a key is not empty and has neither of the characters that begin a further step.
* `cut_unique_atStep`: so a step ends where the next one begins.
* `Path.joined_injective`, by induction on the steps: their texts, put together, can be taken apart
  again.
* `Path.joined_eq`: the text of a path lacks nothing of that but the point of a leading key, and its
  first character shows whether it does.
* `Path.spell_eq_spell_iff_of_plain`: the text of a plain path tells the path.
-/

namespace SchemaCheck

/-- A character that a step begins with. -/
def beginsStep (c : Char) : Bool := c == '.' || c == '['

/-- Nothing, or the text of a step. -/
def AtStep (text : List Char) : Prop := text.head?.all beginsStep = true

/-- No further step begins in the text. -/
def WithinStep (text : List Char) : Prop := ∀ c ∈ text, beginsStep c = false

lemma atStep_nil : AtStep [] := rfl

lemma atStep_cons {c : Char} {text : List Char} : AtStep (c :: text) ↔ beginsStep c = true := .rfl

/-- A step ends where the next one begins. -/
lemma cut_unique_atStep {body body' rest rest' : List Char} (hbody : WithinStep body)
    (hbody' : WithinStep body') (hrest : AtStep rest) (hrest' : AtStep rest')
    (h : body ++ rest = body' ++ rest') : body = body' ∧ rest = rest' := by
  have htake : ∀ {body rest : List Char}, WithinStep body → AtStep rest →
      (body ++ rest).takeWhile (!beginsStep ·) = body := by
    intro body rest hbody hrest
    have hnone : rest.takeWhile (!beginsStep ·) = [] := by
      cases rest with
      | nil => rfl
      | cons c rest => simp [atStep_cons.1 hrest]
    rw [List.takeWhile_append_of_pos fun c hc => by simp [hbody c hc], hnone, List.append_nil]
  have hsame : body = body' := by
    rw [← htake hbody hrest, h, htake hbody' hrest']
  subst hsame
  exact ⟨rfl, List.append_cancel_left h⟩

/-! ### Steps -/

namespace Segment

/-- **A key that cannot be taken for several steps**: it is not empty and has neither of the
characters that begin a step. -/
def Plain : Segment → Prop
  | .key k => k ≠ "" ∧ '.' ∉ k.toList ∧ '[' ∉ k.toList
  | .index _ => True

/-- A plain key has no character that begins a step. -/
lemma withinStep_key {k : String} (h : (Segment.key k).Plain) : WithinStep k.toList := by
  intro c hc
  obtain ⟨-, hpoint, hbracket⟩ := h
  have hne : c ≠ '.' ∧ c ≠ '[' := ⟨fun h => hpoint (h ▸ hc), fun h => hbracket (h ▸ hc)⟩
  simp [beginsStep, hne]

/-- What the text of a step has behind its first character. -/
def body : Segment → List Char
  | .key k => k.toList
  | .index i => i.repr.toList ++ [']']

/-- The first character of the text of a step. -/
def mark : Segment → Char
  | .key _ => '.'
  | .index _ => '['

lemma toList_spell (segment : Segment) : segment.spell.toList = segment.mark :: segment.body := by
  cases segment <;> simp [spell, mark, body]

lemma beginsStep_mark (segment : Segment) : beginsStep segment.mark = true := by
  cases segment <;> rfl

/-- Behind its mark a plain step does not begin another one. -/
lemma withinStep_body {segment : Segment} (h : segment.Plain) : WithinStep segment.body := by
  cases segment with
  | key k => exact withinStep_key h
  | index i =>
      intro c hc
      rcases List.mem_append.1 hc with hdigit | hclose
      · have hdigit := Nat.isDigit_of_mem_toDigits (by decide) (by decide)
          (String.toList_ofList ▸ Nat.repr_eq_ofList_toDigits ▸ hdigit)
        have hne : c ≠ '.' ∧ c ≠ '[' := by
          constructor <;> rintro rfl <;> exact absurd hdigit (by decide)
        simp [beginsStep, hne]
      · obtain rfl := List.mem_singleton.1 hclose
        rfl

/-- A number is told by its digits. -/
lemma index_eq_of_toDigits_eq {i j : Nat} (h : Nat.toDigits 10 i = Nat.toDigits 10 j) : i = j := by
  have hvalue : ∀ n, Nat.ofDigitChars 10 (Nat.toDigits 10 n) 0 = n := fun n =>
    Nat.ofDigitChars_toDigits (by decide) (by decide)
  rw [← hvalue i, h, hvalue j]

/-- A step is told by the parts of its text. -/
lemma eq_of_body_eq {segment segment' : Segment} (hmark : segment.mark = segment'.mark)
    (hbody : segment.body = segment'.body) : segment = segment' := by
  cases segment with
  | key k =>
      cases segment' with
      | key k' => exact congrArg key (String.toList_inj.1 hbody)
      | index => simp [mark] at hmark
  | index i =>
      cases segment' with
      | key => simp [mark] at hmark
      | index j =>
          have hdigits : Nat.toDigits 10 i = Nat.toDigits 10 j := by
            simpa [body, Nat.repr_eq_ofList_toDigits] using hbody
          exact congrArg index (index_eq_of_toDigits_eq hdigits)

end Segment

/-! ### Paths -/

namespace Path

/-- All keys of the path are plain. -/
def Plain (path : Path) : Prop := ∀ segment ∈ path, segment.Plain

/-- The texts of the steps, put together. -/
def joined (path : Path) : List Char := path.flatMap fun segment => segment.spell.toList

lemma joined_cons (segment : Segment) (path : Path) :
    joined (segment :: path) = segment.mark :: (segment.body ++ path.joined) := by
  rw [joined, List.flatMap_cons, Segment.toList_spell, List.cons_append]
  rfl

/-- The text of a path ends, or goes on with a step. -/
lemma atStep_joined (path : Path) : AtStep path.joined := by
  cases path with
  | nil => exact atStep_nil
  | cons segment path =>
      rw [joined_cons]
      exact atStep_cons.2 segment.beginsStep_mark

/-- **The steps can be taken apart** again. -/
theorem joined_injective {path path' : Path} (h : path.Plain) (h' : path'.Plain)
    (hjoined : path.joined = path'.joined) : path = path' := by
  induction path generalizing path' with
  | nil =>
      cases path' with
      | nil => rfl
      | cons segment' path' =>
          rw [joined_cons] at hjoined
          cases hjoined
  | cons segment path ih =>
      cases path' with
      | nil =>
          rw [joined_cons] at hjoined
          cases hjoined
      | cons segment' path' =>
          obtain ⟨hsegment, hpath⟩ := List.forall_mem_cons.1 h
          obtain ⟨hsegment', hpath'⟩ := List.forall_mem_cons.1 h'
          rw [joined_cons, joined_cons, List.cons.injEq] at hjoined
          obtain ⟨hmark, hrest⟩ := hjoined
          obtain ⟨hbody, hjoined⟩ := cut_unique_atStep (Segment.withinStep_body hsegment)
            (Segment.withinStep_body hsegment') (atStep_joined path) (atStep_joined path') hrest
          rw [Segment.eq_of_body_eq hmark hbody, ih hpath hpath' hjoined]

/-- Joining the steps is writing them one after another. -/
lemma toList_join (path : Path) :
    (String.join (path.map Segment.spell)).toList = path.joined := by
  induction path with
  | nil => rfl
  | cons segment path ih =>
      rw [List.map_cons, String.join_cons, String.toList_append, ih]
      rfl

lemma toList_spell_key (k : String) (path : Path) :
    (spell (.key k :: path)).toList = k.toList ++ path.joined := by
  rw [spell, String.toList_append, toList_join]

lemma toList_spell_index (i : Nat) (path : Path) :
    (spell (.index i :: path)).toList = joined (.index i :: path) :=
  toList_join (.index i :: path)

/-- **The text of a path begins** with a step unless a key leads, whose point it lacks. -/
lemma joined_eq {path : Path} (h : path.Plain) :
    path.joined =
      if path.spell.toList.head?.all beginsStep then path.spell.toList
      else '.' :: path.spell.toList := by
  cases path with
  | nil => rfl
  | cons segment path =>
      cases segment with
      | index i =>
          rw [toList_spell_index]
          exact (if_pos (atStep_joined _)).symm
      | key k =>
          have hplain := h _ List.mem_cons_self
          have hwithin := Segment.withinStep_key hplain
          obtain ⟨c, chars, hk⟩ : ∃ c chars, k.toList = c :: chars :=
            List.exists_cons_of_ne_nil fun hnil => hplain.1 (String.toList_eq_nil_iff.1 hnil)
          have hfirst : beginsStep c = false := hwithin c (hk ▸ List.mem_cons_self)
          rw [toList_spell_key, if_neg, joined_cons]
          · rfl
          · simp [hk, hfirst]

/-- **The text of a path tells the path**, however many steps there are, where no key is empty or
has a point or an opening bracket in it; and only the root has the empty text. -/
theorem spell_eq_spell_iff_of_plain {path path' : Path} (h : path.Plain) (h' : path'.Plain) :
    (path.spell = path'.spell ↔ path = path') ∧ (path.spell = "" ↔ path = []) := by
  have hroot : Plain [] := fun segment hsegment => by cases hsegment
  have htells : ∀ {path'}, Plain path' → path.spell = path'.spell → path = path' := by
    intro path' h' hspell
    refine joined_injective h h' ?_
    rw [joined_eq h, joined_eq h', hspell]
  exact ⟨⟨htells h', congrArg spell⟩, htells hroot, congrArg spell⟩

/-- Keys of digits and brackets that close beside an index. -/
theorem spell_eq_spell_iff_brackets :
    let path : Path := [.key "0", .index 1, .key "2]"]
    let path' : Path := [.key "0", .index 12, .key "]"]
    path.Plain ∧ path'.Plain ∧
      (path.spell = path'.spell ↔ path = path') ∧ (path.spell = "" ↔ path = []) := by
  intro path path'
  have h : path.Plain := by simp [path, Plain, Segment.Plain]
  have h' : path'.Plain := by simp [path', Plain, Segment.Plain]
  exact ⟨h, h', spell_eq_spell_iff_of_plain h h'⟩

/-- A key with a point in it reads like two steps. -/
example : Path.spell [.key "a.b"] = Path.spell [.key "a", .key "b"] := by decide

end Path

end SchemaCheck
