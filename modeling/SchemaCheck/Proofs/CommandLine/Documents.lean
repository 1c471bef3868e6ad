import Mathlib.Data.List.Basic
import Mathlib.Tactic.Common
import SchemaCheck.Proofs.Text.Lines
import SchemaCheck.Report

/-!
# The documents of an input

An input is one document, or each of its lines that is not blank is one.

* `Text.Numbers`: the lines of a text that are not blank, by their numbers.
* `Input.numbered` lists them, and `Input.numbers_numbered` says that these are all of them, each
  once, in their order.
* `Input.CutInto`: the documents that an input is cut into, and `Input.cutInto_documents`: these are
  the ones that are read.
-/

namespace SchemaCheck

/-! ### Lines by number -/

namespace Text

/-- **The lines of a text that are not blank**, by their numbers: all of them, each once, in their
order. -/
def Numbers (text : String) (lines : List (Nat × String)) : Prop :=
  lines.Pairwise (fun line line' => line.1 < line'.1) ∧
    ∀ number line, (number, line) ∈ lines ↔
      LineAt text.toList number line.toList ∧ ∃ c ∈ line.toList, isBlank c = false

lemma LineAt.pos {text line : List Char} {number : Nat} (h : LineAt text number line) :
    0 < number := by
  obtain ⟨before, behind, -, hnumber, -⟩ := h
  omega

lemma getElem?_lines_eq_some_iff {text line : String} {k : Nat} :
    (lines text)[k]? = some line ↔ LineAt text.toList (k + 1) line.toList := by
  rw [← getElem?_charLines_eq_some_iff, lines_eq, List.getElem?_map, Option.map_eq_some_iff]
  constructor
  · rintro ⟨chars, hchars, rfl⟩
    rwa [String.toList_ofList]
  · intro h
    exact ⟨line.toList, h, String.ofList_toList⟩

end Text

namespace Input

open Text (Numbers LineAt)

/-- The lines of an input that are not blank, by their numbers. -/
def numbered (input : Input) : List (Nat × String) :=
  (((Text.lines input.text).zipIdx 1).filter fun entry => !isBlank entry.1).map Prod.swap

/-- A line of an input as an input of its own. -/
def line (input : Input) (entry : Nat × String) : Input :=
  ⟨input.source ++ ":" ++ entry.1.repr, entry.2⟩

lemma byLine_eq (input : Input) : input.byLine = input.numbered.map input.line := by
  rw [numbered, List.map_map]
  rfl

/-- **Every line that is not blank is numbered**, once, and no other. -/
theorem numbers_numbered (input : Input) : Numbers input.text input.numbered := by
  constructor
  · have hsorted : ((Text.lines input.text).zipIdx 1).Pairwise fun entry entry' =>
        entry.2 < entry'.2 := by
      rw [← List.pairwise_map (f := Prod.snd), List.zipIdx_map_snd]
      exact List.pairwise_lt_range'
    exact List.pairwise_map.2 (hsorted.filter _)
  · intro number line
    have hmem : (number, line) ∈ input.numbered ↔
        (line, number) ∈ (Text.lines input.text).zipIdx 1 ∧ isBlank line = false := by
      simp [numbered]
    have hblank : isBlank line = false ↔ ∃ c ∈ line.toList, Text.isBlank c = false := by
      simp [isBlank, List.all_eq_false]
    rw [hmem, hblank, List.mk_mem_zipIdx_iff_le_and_getElem?_sub]
    refine and_congr_left fun _ => ⟨?_, fun h => ⟨h.pos, ?_⟩⟩
    · rintro ⟨hpos, hline⟩
      rw [Text.getElem?_lines_eq_some_iff] at hline
      rwa [Nat.sub_add_cancel hpos] at hline
    · rw [Text.getElem?_lines_eq_some_iff]
      rwa [Nat.sub_add_cancel h.pos]

/-! ### Documents -/

/-- The documents that an input holds: itself, or its lines. -/
def documents (byLine : Bool) (input : Input) : List Input :=
  if byLine then input.byLine else [input]

/-- **The documents that an input is cut into**: the input as a whole; or, line by line, its lines
that are not blank, each under the name of the input and the number of the line. -/
inductive CutInto (input : Input) : Bool → List Input → Prop
  | whole : CutInto input false [input]
  | lines {lines : List (Nat × String)} (numbers : Numbers input.text lines) :
      CutInto input true
        (lines.map fun (number, line) => ⟨input.source ++ ":" ++ number.repr, line⟩)

/-- An input is cut into the documents that it holds. -/
lemma cutInto_documents (byLine : Bool) (input : Input) :
    input.CutInto byLine (input.documents byLine) := by
  cases byLine with
  | false => exact .whole
  | true =>
      have hlines : input.documents true = input.numbered.map input.line := input.byLine_eq
      rw [hlines]
      exact .lines input.numbers_numbered

end Input

end SchemaCheck
