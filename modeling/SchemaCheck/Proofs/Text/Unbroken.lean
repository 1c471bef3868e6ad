import Mathlib.Algebra.Ring.Nat
import Mathlib.Tactic.Common
import SchemaCheck.Proofs.Text.Lines
import SchemaCheck.Text.Quoted

/-!
# Texts on one line

* `Unbroken`: a text without a line feed.  What is put together from texts is unbroken exactly if
  its parts are.
* `unbroken_quoted`: a text between quotes is unbroken, whatever the text is.
* `pieceCount`: into how many pieces a text is cut at its line feeds.
* `pieceCount_intercalate`: texts with a line feed between each two are cut into the pieces of each.
* `sum_pieceCount_eq_length_iff`: so they take more lines than they are as soon as one of them is
  broken.
-/

namespace SchemaCheck.Text

/-- The text has no line feed. -/
structure Unbroken (text : String) : Prop where
  notMem : '\n' ∉ text.toList

lemma unbroken_iff {text : String} : Unbroken text ↔ '\n' ∉ text.toList :=
  ⟨Unbroken.notMem, Unbroken.mk⟩

instance : DecidablePred Unbroken := fun _ => decidable_of_iff _ unbroken_iff.symm

section

variable {s t : String} {texts : List String}

@[simp] lemma unbroken_append : Unbroken (s ++ t) ↔ Unbroken s ∧ Unbroken t := by
  simp [unbroken_iff]

/-- A text behind a word. -/
lemma unbroken_behind (hword : Unbroken s) : Unbroken (s ++ t) ↔ Unbroken t := by
  rw [unbroken_append, and_iff_right hword]

/-- A text between words. -/
lemma unbroken_between {u : String} (hword : Unbroken s) (hword' : Unbroken u) :
    Unbroken (s ++ t ++ u) ↔ Unbroken t := by
  rw [unbroken_append, and_iff_left hword', unbroken_behind hword]

@[simp] lemma unbroken_join : Unbroken (String.join texts) ↔ ∀ text ∈ texts, Unbroken text := by
  simp [unbroken_iff, String.toList_join]

/-- Texts with something unbroken between them are unbroken exactly if each of them is. -/
lemma unbroken_intercalate (h : Unbroken s) :
    Unbroken (s.intercalate texts) ↔ ∀ text ∈ texts, Unbroken text := by
  induction texts with
  | nil => simp [unbroken_iff]
  | cons text texts ih =>
      cases texts with
      | nil => simp
      | cons next texts =>
          rw [String.intercalate_cons_cons, unbroken_append, unbroken_append, ih,
            List.forall_mem_cons (a := text)]
          simp only [h, and_true]

/-- No digit is a line feed, whatever the base. -/
lemma newline_notMem_toDigits {base : Nat} (h : 1 < base) (n : Nat) :
    '\n' ∉ Nat.toDigits base n := by
  have digit (k : Nat) : Nat.digitChar k ≠ '\n' := by
    grind [Nat.digitChar]
  induction n using Nat.strong_induction_on with
  | _ n ih =>
      rw [Nat.toDigits_eq_if h]
      split
      · simp [(digit n).symm]
      · have smaller : n / base < n := Nat.div_lt_self (by omega) h
        simp [ih _ smaller, (digit (n % base)).symm]

/-- The text of a natural number is unbroken. -/
@[simp] lemma unbroken_natRepr (n : Nat) : Unbroken n.repr := by
  rw [unbroken_iff, Nat.repr_eq_ofList_toDigits, String.toList_ofList]
  exact newline_notMem_toDigits (by decide) n

@[simp] lemma unbroken_intRepr (n : Int) : Unbroken n.repr := by
  cases n with
  | ofNat n => exact unbroken_natRepr n
  | negSucc n => exact unbroken_append.2 ⟨by decide, unbroken_natRepr _⟩

/-- Between quotes every line feed is escaped. -/
lemma unbroken_quotedChar (c : Char) : Unbroken (quotedChar c) := by
  unfold quotedChar
  split
  case h_7 hfeed _ _ _ =>
    split
    · simpa [unbroken_iff, eq_comm] using hfeed
    · rw [unbroken_append, unbroken_append]
      refine ⟨⟨by decide, ?_⟩, by decide⟩
      rw [unbroken_iff, String.toList_ofList]
      exact newline_notMem_toDigits (by decide) _
  all_goals decide

/-- **A text between quotes is unbroken**: its line feeds are escaped. -/
theorem unbroken_quoted (text : String) : Unbroken (quoted text) := by
  rw [quoted, unbroken_append, unbroken_append, unbroken_join]
  refine ⟨⟨by decide, fun piece hpiece => ?_⟩, by decide⟩
  obtain ⟨c, -, rfl⟩ := List.mem_map.1 hpiece
  exact unbroken_quotedChar c

end

/-! ### Pieces and lines -/

/-- The number of pieces that a text is cut into at its line feeds. -/
def pieceCount (text : String) : Nat := (text.toList.splitOn '\n').length

section

variable {s t : String} {texts : List String}

lemma pieceCount_pos (text : String) : 0 < pieceCount text :=
  List.length_pos_of_ne_nil (List.splitOn_ne_nil _ _)

/-- A line feed adds the pieces behind it to those before it. -/
lemma pieceCount_append_feed (s t : String) :
    pieceCount (s ++ "\n" ++ t) = pieceCount s + pieceCount t := by
  have chars : (s ++ "\n" ++ t).toList = s.toList ++ '\n' :: t.toList := by simp
  rw [pieceCount, chars, List.splitOn_append_cons_self, List.length_append]
  rfl

/-- A text is one piece exactly if it is unbroken. -/
lemma pieceCount_eq_one_iff : pieceCount s = 1 ↔ Unbroken s := by
  constructor
  · refine fun hone => ⟨fun hmem => ?_⟩
    obtain ⟨before, behind, hs⟩ := List.append_of_mem hmem
    have hbefore := List.length_pos_of_ne_nil (List.splitOn_ne_nil '\n' before)
    have hbehind := List.length_pos_of_ne_nil (List.splitOn_ne_nil '\n' behind)
    rw [pieceCount, hs, List.splitOn_append_cons_self, List.length_append] at hone
    omega
  · intro h
    rw [pieceCount, List.splitOn_eq_singleton h.notMem, List.length_singleton]

/-- Texts with a line feed between each two are cut into the pieces of each. -/
lemma pieceCount_intercalate (h : texts ≠ []) :
    pieceCount ("\n".intercalate texts) = (texts.map pieceCount).sum := by
  induction texts with
  | nil => exact absurd rfl h
  | cons text texts ih =>
      cases texts with
      | nil => simp
      | cons next texts =>
          rw [String.intercalate_cons_cons, pieceCount_append_feed, ih (List.cons_ne_nil _ _),
            List.map_cons (a := text), List.sum_cons (a := pieceCount text)]

/-- Before a line feed there are as many lines as pieces. -/
lemma length_charLines_append_cons (text rest : List Char) :
    (charLines (text ++ '\n' :: rest)).length =
      (text.splitOn '\n').length + (charLines rest).length := by
  induction text using lines_induction with
  | last text h =>
      rw [charLines_append_cons h, List.splitOn_eq_singleton h]
      simp
      omega
  | line first behind h ih =>
      rw [List.append_assoc, List.cons_append, charLines_append_cons h,
        List.splitOn_append_cons_self_of_not_mem h, List.length_cons, List.length_cons, ih]
      omega

/-- **Texts are as many as their pieces** exactly if none of them is broken. -/
lemma sum_pieceCount_eq_length_iff (texts : List String) :
    (texts.map pieceCount).sum = texts.length ↔ ∀ text ∈ texts, Unbroken text := by
  have atLeast (texts : List String) : texts.length ≤ (texts.map pieceCount).sum := by
    induction texts with
    | nil => exact Nat.le_refl _
    | cons text texts ih =>
        have := pieceCount_pos text
        rw [List.map_cons, List.sum_cons, List.length_cons]
        omega
  induction texts with
  | nil => simp
  | cons text texts ih =>
      have hfirst := pieceCount_pos text
      have hrest := atLeast texts
      rw [List.forall_mem_cons, ← pieceCount_eq_one_iff, List.map_cons, List.sum_cons,
        List.length_cons]
      constructor
      · intro hsum
        exact ⟨by omega, ih.1 (by omega)⟩
      · rintro ⟨hone, hunbroken⟩
        have hsum := ih.2 hunbroken
        omega

end

end SchemaCheck.Text
