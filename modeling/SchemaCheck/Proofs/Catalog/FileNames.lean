import Mathlib.Data.String.Basic
import Mathlib.Tactic.Common
import SchemaCheck.Files

/-!
# Names in paths

What is left of the name of an entry in the path that leads to it through its directory.

* `splitOn_slash`: a path is split at its slashes, character by character.
* `Files.fileName?_join`: the last part of the path is the name, whether or not the directory is
  written with a slash at its end.
* `Files.append_eq_of_splitName`: a name is its stem, a point and its extension.
* `Files.stem_join_append`: hence the stem of the path tells which document it is that of.
-/

namespace SchemaCheck

/-! ### Splitting at slashes -/

section Slashes

open String

/-- Splitting at slashes from inside of a text: some pieces have been found, and of the next one a
part has been walked. -/
lemma splitOnAux_slash (pieces : List String) (walked piece rest : List Char) :
    (ofList (walked ++ piece ++ rest)).splitOnAux "/" ⟨utf8Len walked⟩
        ⟨utf8Len walked + utf8Len piece⟩ 0 pieces =
      pieces.reverse ++ (rest.splitOnPPrepend (· == '/') piece.reverse).map ofList := by
  induction rest generalizing pieces walked piece with
  | nil =>
      have hend := (atEnd_of_valid (walked ++ piece) []).2 rfl
      rw [utf8Len_append] at hend
      rw [splitOnAux, if_pos hend, extract_of_valid]
      simp
  | cons c rest ih =>
      have hend := mt (atEnd_of_valid (walked ++ piece) (c :: rest)).1 (List.cons_ne_nil c rest)
      have hget := get_of_valid (walked ++ piece) (c :: rest)
      have hnext := next_of_valid (walked ++ piece) c rest
      rw [utf8Len_append] at hend hget hnext
      have hslash : Pos.Raw.get "/" 0 = '/' := rfl
      rw [splitOnAux, if_neg hend, hget, List.headD_cons, hslash, List.splitOnPPrepend_cons_eq_if]
      split
      · next hc =>
          obtain rfl := eq_of_beq hc
          have hdone : Pos.Raw.atEnd "/" (Pos.Raw.next "/" 0) = true := rfl
          have hpiece := extract_of_valid walked piece ('/' :: rest)
          have hback : (⟨utf8Len walked + utf8Len piece + Char.utf8Size '/'⟩ : Pos.Raw).unoffsetBy
              (Pos.Raw.next "/" 0) = ⟨utf8Len walked + utf8Len piece⟩ := rfl
          have hstep := ih (ofList piece :: pieces) (walked ++ piece ++ ['/']) []
          simp only [hdone, if_true, hnext, hback, hpiece]
          simpa [Nat.add_assoc] using hstep
      · next hc =>
          have hback : (⟨utf8Len walked + utf8Len piece⟩ : Pos.Raw).unoffsetBy 0 =
              ⟨utf8Len walked + utf8Len piece⟩ := rfl
          have hstep := ih pieces walked (piece ++ [c])
          rw [hback, hnext]
          simpa [Nat.add_assoc] using hstep

/-- **Splitting at slashes**: the pieces are those of the list of characters. -/
theorem splitOn_slash (text : String) :
    text.splitOn "/" = (text.toList.splitOn '/').map ofList := by
  have h := splitOnAux_slash [] [] [] text.toList
  rw [List.splitOn_eq_splitOnP, List.splitOnP_eq_splitOnPPrepend]
  simpa [splitOn] using h

end Slashes

namespace Files

variable {directory name : String}

/-! ### The path of an entry -/

/-- There is a slash before the name, and one only if the directory has one at its end. -/
lemma exists_toList_join (directory name : String) :
    ∃ above, (join directory name).toList = above ++ '/' :: name.toList := by
  rw [join]
  split
  · next hend =>
      rw [String.endsWith_eq_endsWith_toSlice, String.Slice.endsWith_string_iff] at hend
      obtain ⟨above, habove⟩ := hend
      rw [String.copy_toSlice] at habove
      exact ⟨above, by rw [String.toList_append, ← habove]; simp⟩
  · exact ⟨directory.toList, by simp⟩

/-- **The last part of the path of an entry** is the name of the entry. -/
theorem fileName?_join (hslash : '/' ∉ name.toList) (hempty : name ≠ "") (hhere : name ≠ ".")
    (habove : name ≠ "..") : fileName? (join directory name) = some name := by
  obtain ⟨above, hjoin⟩ := exists_toList_join directory name
  have hparts : (join directory name).splitOn "/" =
      (above.splitOn '/').map String.ofList ++ [name] := by
    rw [splitOn_slash, hjoin, List.splitOn_append_cons_self, List.splitOn_eq_singleton hslash,
      List.map_append, List.map_singleton, String.ofList_toList]
  have hkept : ([name].filter fun part => part ≠ "" ∧ part ≠ ".") = [name] := by
    simp [hempty, hhere]
  rw [fileName?, hparts, List.filter_append, hkept, List.getLast?_concat]
  split
  · next heq => exact absurd (Option.some.inj heq) habove
  · rfl

/-! ### Stems and extensions -/

lemma append_eq_of_splitName {stem extension : String}
    (h : splitName name = (stem, some extension)) : stem ++ ("." ++ extension) = name := by
  have hjoined := List.prefix_iff_eq_append.1
    (@List.takeWhile_prefix _ name.toList.reverse (· ≠ '.'))
  rw [splitName] at h
  split at h
  · next c rest hrest =>
      obtain ⟨rfl, hextension⟩ := Prod.mk.inj h
      obtain rfl := Option.some.inj hextension
      have htext := List.reverse_eq_iff.1 hjoined.symm
      rw [hrest] at htext
      refine String.toList_inj.1 (Eq.trans ?_ htext.symm)
      simp
  · cases h

/-- The stem of the path of an entry is that of its name. -/
lemma stem_join (hslash : '/' ∉ name.toList) (h : extension? name = some "json") :
    stem (join directory name) = (splitName name).1 := by
  have hne : ∀ other, extension? other ≠ some "json" → name ≠ other :=
    fun _ hother heq => hother (heq ▸ h)
  rw [stem, fileName?_join hslash (hne "" (by decide)) (hne "." (by decide)) (hne ".." (by decide))]
  rfl

/-- **The stem of an entry** that has the extension is what its name has before that. -/
theorem stem_join_append (hslash : '/' ∉ name.toList) (h : extension? name = some "json") :
    stem (join directory name) ++ ".json" = name := by
  have hsplit : splitName name = ((splitName name).1, some "json") := Prod.ext rfl h
  rw [stem_join hslash h]
  exact append_eq_of_splitName hsplit

end Files

end SchemaCheck
