import Mathlib.Data.List.DropRight
import Mathlib.Logic.Relation
import Mathlib.Tactic.Common
import SchemaCheck.Text.Blank
import SchemaCheck.Text.Lines

/-!
# The lines of a text

* `LineAt`: the line of a number, said of the text itself: what is before it, and what ends it.
* `lines_induction`: induction line by line, and by it `getElem?_charLines_eq_some_iff`: the lines
  are those of all numbers.
* `Relaid`: a text laid out anew, with another blank line or another line end.
* `gists_eq_of_relaid`: nothing changes in what the lines come down to.
-/

namespace SchemaCheck.Text

/-- What is before a line: nothing, or a text that ends in a line feed. -/
def BeforeLine (before : List Char) : Prop := ∀ c ∈ before.getLast?, c = '\n'

/-- **What ends a line**: a line feed, with the carriage return before it if there is one, or the
end of the text. -/
inductive EndsLine (line : List Char) : List Char → Prop
  | feed {rest : List Char} (bare : line.getLast? ≠ some '\r') : EndsLine line ('\n' :: rest)
  | returned {rest : List Char} : EndsLine line ('\r' :: '\n' :: rest)
  | text (nonempty : line ≠ []) : EndsLine line []

/-- **The line of a number**, counted from one.  There is one line feed fewer before it. -/
def LineAt (text : List Char) (number : Nat) (line : List Char) : Prop :=
  ∃ before behind, text = before ++ (line ++ behind) ∧ before.count '\n' + 1 = number ∧
    BeforeLine before ∧ '\n' ∉ line ∧ EndsLine line behind

/-- Induction line by line. -/
lemma lines_induction {P : List Char → Prop} (last : ∀ text, '\n' ∉ text → P text)
    (line : ∀ first rest, '\n' ∉ first → P rest → P (first ++ '\n' :: rest)) (text : List Char) :
    P text := by
  induction hlength : text.length using Nat.strong_induction_on generalizing text with
  | _ length ih =>
      subst hlength
      by_cases h : '\n' ∈ text
      · obtain ⟨first, rest, rfl, hfirst⟩ := List.eq_append_cons_of_mem h
        exact line first rest hfirst (ih rest.length (by simp; omega) rest rfl)
      · exact last text h

/-- The lines of a text, as lists of characters. -/
def charLines (text : List Char) : List (List Char) :=
  let pieces := text.splitOn '\n'
  let last := pieces.getLast?.getD []
  pieces.dropLast.map withoutReturn ++ if last.isEmpty then [] else [last]

lemma lines_eq (text : String) : lines text = (charLines text.toList).map String.ofList := rfl

section

variable {text first rest line : List Char} {k : Nat}

lemma charLines_of_notMem (h : '\n' ∉ text) :
    charLines text = if text.isEmpty then [] else [text] := by
  rw [charLines, List.splitOn_eq_singleton h]
  rfl

/-- A text has the line before its first line feed, and then those behind it. -/
lemma charLines_append_cons (h : '\n' ∉ first) :
    charLines (first ++ '\n' :: rest) = withoutReturn first :: charLines rest := by
  have hne : rest.splitOn '\n' ≠ [] := List.splitOn_ne_nil _ _
  rw [charLines, charLines, List.splitOn_append_cons_self_of_not_mem h]
  simp only [List.dropLast_cons_of_ne_nil hne, List.map_cons, List.cons_append,
    List.getLast?_cons_of_ne_nil hne]

lemma beforeLine_nil : BeforeLine [] := fun c hc => by cases hc

/-- Behind a line feed only what follows it decides where a line begins. -/
lemma beforeLine_append_cons (init before : List Char) :
    BeforeLine (init ++ '\n' :: before) ↔ BeforeLine before := by
  cases before with
  | nil => simp [BeforeLine]
  | cons c before =>
      rw [BeforeLine, BeforeLine, List.getLast?_append_of_ne_nil _ (List.cons_ne_nil _ _),
        List.getLast?_cons_of_ne_nil (List.cons_ne_nil _ _)]

/-- Without a line feed only the first line can begin. -/
lemma eq_nil_of_beforeLine {before : List Char} (h : BeforeLine before) (hnone : '\n' ∉ before) :
    before = [] := by
  rcases List.eq_nil_or_concat' before with rfl | ⟨init, c, rfl⟩
  · rfl
  · obtain rfl := h c (by simp)
    simp at hnone

/-- A text without a line feed has no line but itself, and that only if it is not empty. -/
lemma lineAt_of_notMem (h : '\n' ∉ text) :
    LineAt text (k + 1) line ↔ k = 0 ∧ line = text ∧ text ≠ [] := by
  constructor
  · rintro ⟨before, behind, rfl, hnumber, hbefore, hline, hends⟩
    simp only [List.mem_append, not_or] at h
    obtain rfl := eq_nil_of_beforeLine hbefore h.1
    cases hends with
    | feed => simp at h
    | returned => simp at h
    | text hne =>
        refine ⟨?_, by simp, by simpa using hne⟩
        simpa using hnumber.symm
  · rintro ⟨rfl, rfl, hne⟩
    exact ⟨[], [], by simp, rfl, beforeLine_nil, h, .text hne⟩

/-- The first line feed of a text stands in one place. -/
lemma cut_unique {first' rest' : List Char} (heq : first ++ '\n' :: rest = first' ++ '\n' :: rest')
    (h : '\n' ∉ first) (h' : '\n' ∉ first') : first = first' ∧ rest = rest' := by
  rcases List.append_eq_append_iff.1 heq with ⟨c, rfl, hc⟩ | ⟨c, rfl, hc⟩
  · rcases List.cons_eq_append_iff.1 hc with ⟨rfl, hc⟩ | ⟨d, rfl, -⟩
    · simpa [eq_comm] using hc
    · simp at h'
  · rcases List.cons_eq_append_iff.1 hc with ⟨rfl, hc⟩ | ⟨d, rfl, -⟩
    · simpa [eq_comm] using hc
    · simp at h

lemma withoutReturn_of_bare (h : line.getLast? ≠ some '\r') : withoutReturn line = line :=
  if_neg h

lemma withoutReturn_append_return (line : List Char) : withoutReturn (line ++ ['\r']) = line := by
  rw [withoutReturn, if_pos (by simp), List.dropLast_concat]

/-- A line is ended by its line feed. -/
lemma endsLine_iff (h : '\n' ∉ first) (hline : '\n' ∉ line) :
    (∃ behind, first ++ '\n' :: rest = line ++ behind ∧ EndsLine line behind) ↔
      withoutReturn first = line := by
  constructor
  · rintro ⟨behind, heq, hends⟩
    cases hends with
    | feed bare =>
        obtain ⟨rfl, -⟩ := cut_unique heq h hline
        exact withoutReturn_of_bare bare
    | returned =>
        have hcut := heq.trans (List.append_cons line '\r' _)
        obtain ⟨rfl, -⟩ := cut_unique hcut h (by simp [hline])
        exact withoutReturn_append_return line
    | text =>
        rw [List.append_nil] at heq
        simp [← heq] at hline
  · rintro rfl
    by_cases hlast : first.getLast? = some '\r'
    · obtain ⟨init, rfl⟩ := List.getLast?_eq_some_iff.1 hlast
      rw [withoutReturn_append_return]
      exact ⟨'\r' :: '\n' :: rest, by simp, .returned⟩
    · rw [withoutReturn_of_bare hlast]
      exact ⟨'\n' :: rest, rfl, .feed hlast⟩

/-- Taking a carriage return off adds no line feed. -/
lemma notMem_withoutReturn (h : '\n' ∉ first) : '\n' ∉ withoutReturn first := by
  rw [withoutReturn]
  split
  · exact fun hmem => h (List.dropLast_subset _ hmem)
  · exact h

/-- The first line is what stands before the first line feed. -/
lemma lineAt_first (h : '\n' ∉ first) :
    LineAt (first ++ '\n' :: rest) 1 line ↔ withoutReturn first = line := by
  constructor
  · rintro ⟨before, behind, heq, hnumber, hbefore, hline, hends⟩
    obtain rfl := eq_nil_of_beforeLine hbefore (List.count_eq_zero.1 (Nat.succ.inj hnumber))
    exact (endsLine_iff h hline).1 ⟨behind, heq, hends⟩
  · rintro rfl
    have hline := notMem_withoutReturn h
    obtain ⟨behind, heq, hends⟩ := (endsLine_iff h hline).2 rfl
    exact ⟨[], behind, heq, rfl, beforeLine_nil, hline, hends⟩

/-- Behind the first line feed the lines are those of the rest. -/
lemma lineAt_rest (h : '\n' ∉ first) :
    LineAt (first ++ '\n' :: rest) (k + 2) line ↔ LineAt rest (k + 1) line := by
  constructor
  · rintro ⟨before, behind, heq, hnumber, hbefore, hline, hends⟩
    have hmem : '\n' ∈ before := by
      rw [← List.count_pos_iff]
      omega
    obtain ⟨first', before, rfl, hfirst'⟩ := List.eq_append_cons_of_mem hmem
    rw [List.append_assoc, List.cons_append] at heq
    obtain ⟨rfl, rfl⟩ := cut_unique heq h hfirst'
    refine ⟨before, behind, rfl, ?_, (beforeLine_append_cons _ _).1 hbefore, hline, hends⟩
    simpa [List.count_eq_zero.2 h] using hnumber
  · rintro ⟨before, behind, rfl, hnumber, hbefore, hline, hends⟩
    refine ⟨first ++ '\n' :: before, behind, by simp, ?_, (beforeLine_append_cons _ _).2 hbefore,
      hline, hends⟩
    simp [List.count_eq_zero.2 h, hnumber]

/-- **The lines of a text** are those of all numbers, in their order. -/
theorem getElem?_charLines_eq_some_iff :
    (charLines text)[k]? = some line ↔ LineAt text (k + 1) line := by
  induction text using lines_induction generalizing k with
  | last text h =>
      rw [lineAt_of_notMem h, charLines_of_notMem h]
      cases text with
      | nil => simp
      | cons c text => simp [List.getElem?_singleton, eq_comm]
  | line first rest h ih =>
      rw [charLines_append_cons h]
      cases k with
      | zero => rw [lineAt_first h, List.getElem?_cons_zero, Option.some.injEq]
      | succ k => rw [lineAt_rest h, List.getElem?_cons_succ, ih]

end

/-! ### Texts that are laid out anew -/

/-- A line feed, with a carriage return before it or without. -/
def LineEnd (chars : List Char) : Prop := chars = ['\n'] ∨ chars = ['\r', '\n']

/-- **One change of layout**: a blank line is put before another line or at the end, a line end gets
its carriage return, or the text gets a last line end. -/
inductive Relaid : List Char → List Char → Prop
  | blank {before line lineEnd behind : List Char} (start : BeforeLine before)
      (blank : ∀ c ∈ line, isBlank c = true) (single : '\n' ∉ line) (ends : LineEnd lineEnd) :
      Relaid (before ++ behind) (before ++ (line ++ (lineEnd ++ behind)))
  | returned {before behind : List Char} :
      Relaid (before ++ '\n' :: behind) (before ++ '\r' :: '\n' :: behind)
  | last {text lineEnd : List Char} (ends : LineEnd lineEnd) : Relaid text (text ++ lineEnd)

/-- A line without the carriage returns at its end. -/
def bared (line : List Char) : List Char := line.rdropWhile (· == '\r')

/-- What a line comes down to: nothing if it is blank, and otherwise all of it but the carriage
returns at its end. -/
def gist (line : List Char) : List (List Char) := if line.all isBlank then [] else [bared line]

/-- What the lines of a text come down to. -/
def gists (text : List Char) : List (List Char) := (text.splitOn '\n').flatMap gist

section

variable {text text' first rest line : List Char}

lemma isBlank_return : isBlank '\r' = true := by decide +kernel

lemma bared_append_return (line : List Char) : bared (line ++ ['\r']) = bared line :=
  List.rdropWhile_concat_pos _ _ _ rfl

lemma gist_append_return (line : List Char) : gist (line ++ ['\r']) = gist line := by
  rw [gist, gist, List.all_append, bared_append_return]
  simp [isBlank_return]

/-- What a line comes down to does not depend on its carriage return. -/
lemma gist_withoutReturn (line : List Char) : gist (withoutReturn line) = gist line := by
  by_cases hlast : line.getLast? = some '\r'
  · obtain ⟨init, rfl⟩ := List.getLast?_eq_some_iff.1 hlast
    rw [withoutReturn_append_return, gist_append_return]
  · rw [withoutReturn_of_bare hlast]

lemma gist_of_blank (h : ∀ c ∈ line, isBlank c = true) : gist line = [] :=
  if_pos (List.all_eq_true.2 h)

/-- Only lines that are not blank come down to anything. -/
lemma flatMap_gist (lines : List (List Char)) :
    lines.flatMap gist = (lines.filter fun line => !line.all isBlank).map bared := by
  induction lines with
  | nil => rfl
  | cons line lines ih =>
      rw [List.flatMap_cons, ih, gist, List.filter_cons]
      cases line.all isBlank <;> rfl

lemma gists_of_notMem (h : '\n' ∉ text) : gists text = gist text := by
  rw [gists, List.splitOn_eq_singleton h, List.flatMap_singleton]

lemma gists_append_cons (before behind : List Char) :
    gists (before ++ '\n' :: behind) = gists before ++ gists behind := by
  rw [gists, List.splitOn_append_cons_self, List.flatMap_append]
  rfl

/-- The lines of a text come down to what is between its line feeds. -/
lemma flatMap_gist_charLines (text : List Char) : (charLines text).flatMap gist = gists text := by
  induction text using lines_induction with
  | last text h =>
      rw [charLines_of_notMem h, gists_of_notMem h]
      cases text with
      | nil => rfl
      | cons c text => exact List.flatMap_singleton _ _
  | line first rest h ih =>
      rw [charLines_append_cons h, gists_append_cons, gists_of_notMem h, List.flatMap_cons,
        gist_withoutReturn, ih]

/-- A carriage return at the end of a text does not count. -/
lemma gists_append_return (text : List Char) : gists (text ++ ['\r']) = gists text := by
  induction text using lines_induction with
  | last text h => rw [gists_of_notMem (by simp [h]), gists_of_notMem h, gist_append_return]
  | line first rest h ih =>
      rw [List.append_assoc, List.cons_append, gists_append_cons, gists_append_cons, ih]

/-- The end of a line, of either form, separates what is before it from what is behind it. -/
lemma gists_append_lineEnd (text : List Char) {lineEnd : List Char} (h : LineEnd lineEnd)
    (behind : List Char) : gists (text ++ (lineEnd ++ behind)) = gists text ++ gists behind := by
  rcases h with rfl | rfl
  · exact gists_append_cons text behind
  · have hreturn : text ++ (['\r', '\n'] ++ behind) = (text ++ ['\r']) ++ '\n' :: behind := by simp
    rw [hreturn, gists_append_cons, gists_append_return]

/-- **One step**: a change of layout leaves what the lines come down to. -/
lemma Relaid.gists_eq (h : Relaid text text') : gists text = gists text' := by
  cases h with
  | @blank before line lineEnd behind start blank single ends =>
      have hblank : gists (line ++ (lineEnd ++ behind)) = gists behind := by
        rw [gists_append_lineEnd line ends, gists_of_notMem single, gist_of_blank blank,
          List.nil_append]
      rcases List.eq_nil_or_concat' before with rfl | ⟨init, c, rfl⟩
      · exact hblank.symm
      · obtain rfl := start c (by simp)
        simp only [List.append_assoc, List.singleton_append, gists_append_cons, hblank]
  | @returned before behind =>
      rw [gists_append_cons, List.append_cons, gists_append_cons, gists_append_return]
  | last ends =>
      have hlast := gists_append_lineEnd text ends []
      rw [List.append_nil, gists_of_notMem List.not_mem_nil, gist_of_blank (by simp),
        List.append_nil] at hlast
      exact hlast.symm

/-- **A text may be laid out anew** in any number of steps, to and fro. -/
theorem gists_eq_of_relaid (h : Relation.EqvGen Relaid text text') : gists text = gists text' := by
  induction h with
  | rel _ _ h => exact h.gists_eq
  | refl _ => rfl
  | symm _ _ _ ih => exact ih.symm
  | trans _ _ _ _ _ ih ih' => exact ih.trans ih'

end

end SchemaCheck.Text
