import Mathlib.Tactic.Common
import SchemaCheck.Catalog.Bundle
import SchemaCheck.Proofs.Json.Pretty

/-!
# Written bundles

What is read of a bundle that was written.  Its documents stand two levels deep in its text, and the
text nests no deeper than any other.

* `Json.outcome_readMap`: an object that was written, with its members as they are read again.
* `Bundle.toOption_read_write`: so it is with the documents of a bundle, each of which may nest 125
  arrays and objects.
-/

namespace SchemaCheck

lemma NameMap.nodup_names {α : Type} (map : NameMap α) : (map.entries.map Prod.fst).Nodup := by
  refine List.pairwise_map.2 (map.sorted.imp ?_)
  rintro entry entry' hlt heq
  exact String.lt_irrefl _ (heq ▸ hlt)

namespace Json

/-- A reader that skips blanks first decides by the character behind them. -/
lemma outcome_behindBlanks {α : Type} {text rest : Bytes} {b : UInt8}
    {reader : (first : UInt8) → (text : Bytes) → Except Fault (Taken α (first :: text))}
    (hskip : skipBlanks text = b :: rest) :
    outcome (behindBlanks reader) text =
      (reader b rest).toOption.map fun taken => (taken.value, taken.rest) := by
  unfold outcome behindBlanks
  split
  · next hnil => cases hnil.symm.trans hskip
  · next b' rest' hcons =>
      obtain ⟨rfl, rfl⟩ := List.cons.inj (hcons.symm.trans hskip)
      cases reader b' rest' <;> rfl

/-- **What is read of an object that was written**, with the same limit for all its values. -/
lemma outcome_readMap (depth indent : Nat) (members : List (String × Json)) {blanks : Bytes}
    (hblanks : Blanks blanks) (rest : Bytes) :
    outcome (readMap depth) (blanks ++ (bytesOf (prettyAt indent (.object members)) ++ rest)) =
      (if depthOfMembers members ≤ depth then rereadMembers members else none).map
        fun members => (ofPairs members, rest) := by
  have htexts := forall₂_prettyMembers fun member (_ : member ∈ members) =>
    reads_prettyAt depth (indent + 1) member.2
  obtain ⟨tail, htail, houtcome⟩ := exists_outcome_readObject htexts (blanks_lineBreak (indent + 1))
    (blanks_lineBreak (indent + 1)) (blanks_lineBreak indent) rest
  rw [mapM_id_rereadMember] at houtcome
  have hopen : skipBlanks (blanks ++ '\x7b'.toUInt8 :: tail) = '\x7b'.toUInt8 :: tail := by
    rw [skipBlanks_append hblanks, skipBlanks_cons (by decide)]
  rw [bytesOf_prettyAt_object, htail, readMap, outcome_behindBlanks hopen, if_pos rfl]
  rcases cases_of_outcome houtcome with ⟨hnone, fault, hread⟩ | ⟨x, hsome, hshorter, hread⟩
  · rw [hread, hnone]
    rfl
  · rw [hread, hsome]
    rfl

end Json

namespace Bundle

open Json

/-- **What is read of documents that were written.** -/
lemma outcome_readDocuments (indent : Nat) {documents : List (String × Json)}
    (hkeys : (documents.map Prod.fst).Nodup) {blanks : Bytes} (hblanks : Blanks blanks)
    (rest : Bytes) :
    outcome readDocuments (blanks ++ (bytesOf (prettyAt indent (.object documents)) ++ rest)) =
      (if depthOfMembers documents ≤ 125 then rereadMembers documents else none).map (·, rest) := by
  have hroom : depthLimit - 2 = 125 := rfl
  rw [readDocuments, outcome_readMap _ _ _ hblanks, hroom]
  split
  · refine Option.map_congr fun documents' hdocuments => ?_
    rw [ofPairs_of_nodup (map_fst_of_rereadMembers hdocuments ▸ hkeys)]
  · rfl

/-! ### The text of a bundle -/

variable {text behind rest : Bytes} {documents : Option (List (String × Json))}

/-- The text from the key on, up to the documents. -/
def keyed (text : Bytes) : Bytes := bytesOf (literal key) ++ ':'.toUInt8 :: text

lemma bytesOf_write (documents : NameMap Json) :
    bytesOf (write documents) =
      '\x7b'.toUInt8 :: (bytesOf (lineBreak 1) ++ keyed (bytesOf " " ++
        (bytesOf (prettyAt 1 (.object documents.entries)) ++
          (bytesOf (lineBreak 0) ++ ['\x7d'.toUInt8])))) := by
  have hcolon : bytesOf ": " = [':'.toUInt8, ' '.toUInt8] := rfl
  have hspace : bytesOf " " = [' '.toUInt8] := rfl
  rw [write, pretty, bytesOf_prettyAt_object]
  simp only [prettyMembers, List.map_cons, List.map_nil, enclosed, separated_singleton,
    bytesOf_append, hcolon, hspace, keyed, reduceCtorEq, if_false, List.append_assoc,
    List.cons_append, List.nil_append]

/-- Behind the one key of a bundle its documents are found, up to the brace. -/
lemma outcome_readMembers (h : outcome readDocuments text = documents.map (·, behind))
    (hend : skipBlanks behind = '\x7d'.toUInt8 :: rest) :
    outcome (readMembers none) (keyed text) = documents.map (·, rest) := by
  obtain ⟨hkey, hreadKey⟩ := yields_key key (':'.toUInt8 :: text)
  obtain ⟨hcolon, hreadColon⟩ := expectColon_cons text
  rcases cases_of_outcome h with ⟨rfl, fault, hread⟩ | ⟨found, rfl, hshorter, hread⟩
  · refine @outcome_of_error _ _ _ fault ?_
    rw [keyed, readMembers, hreadKey]
    simp only [Option.isSome_none, Bool.false_eq_true, and_false, if_false, hreadColon, readMember,
      if_true, hread]
  · obtain ⟨hdone, hclose⟩ := expectNext_done hend .endInObject .expectedCommaOrBrace
    rw [outcome, keyed, readMembers, hreadKey]
    simp only [Option.isSome_none, Bool.false_eq_true, and_false, if_false, hreadColon, readMember,
      if_true, hread, Taken.map, expectNextMember, hclose, Option.some_or]
    rfl

/-- What is read of a bundle that is an object is what is read of its members. -/
lemma toOption_read {bytes : Bytes} (hbytes : bytes = '\x7b'.toUInt8 :: text) {first : UInt8}
    {tail : Bytes} (hskip : skipBlanks text = first :: tail) (hfirst : first ≠ '\x7d'.toUInt8)
    (h : outcome (readMembers none) (first :: tail) = documents.map (·, [])) :
    (Bundle.read bytes).toOption = documents := by
  have hopen : skipBlanks bytes = '\x7b'.toUInt8 :: text := by
    rw [hbytes, skipBlanks_cons (by decide)]
  have hobject : outcome readObject text = documents.map (·, []) := by
    rw [← h]
    unfold outcome readObject
    split
    · next hnil => cases hnil.symm.trans hskip
    · next b rest hcons =>
        obtain ⟨rfl, rfl⟩ := List.cons.inj (hcons.symm.trans hskip)
        simp only [if_neg hfirst]
        cases readMembers none (b :: rest) <;> rfl
  refine @toOption_readAll _ _ bytes [] documents ?_ rfl
  rw [outcome_behindBlanks hopen, if_pos rfl, ← hobject, outcome]
  cases readObject text <;> rfl

/-- **What is read of a bundle that was written**: each document as it is read again, if none nests
more than 125 arrays and objects. -/
theorem toOption_read_write (documents : NameMap Json) :
    (Bundle.read (bytesOf (write documents))).toOption =
      if depthOfMembers documents.entries ≤ 125 then rereadMembers documents.entries else none := by
  have hbegins := (begins_literal key).append (':'.toUInt8 :: (bytesOf " " ++
    (bytesOf (prettyAt 1 (.object documents.entries)) ++
      (bytesOf (lineBreak 0) ++ ['\x7d'.toUInt8]))))
  have hskip := hbegins.skipBlanks_eq (blanks_lineBreak 1)
  have hend : skipBlanks (bytesOf (lineBreak 0) ++ ['\x7d'.toUInt8]) = ['\x7d'.toUInt8] := by
    rw [skipBlanks_append (blanks_lineBreak 0), skipBlanks_cons (by decide)]
  have hread := outcome_readMembers
    (outcome_readDocuments 1 documents.nodup_names blanks_space _) hend
  obtain ⟨first, tail, htext, -, -, hfirst⟩ := hbegins
  exact toOption_read (bytesOf_write documents) (hskip.trans htext) hfirst
    (htext ▸ hread)

end Bundle

end SchemaCheck
