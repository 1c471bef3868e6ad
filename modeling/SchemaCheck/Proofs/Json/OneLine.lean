import Mathlib.Tactic.Common
import SchemaCheck.Json.Writer
import SchemaCheck.Proofs.Json.Numeral
import SchemaCheck.Proofs.Json.Values
import SchemaCheck.Proofs.Text.Unbroken

/-!
# JSON on one line

What the compact writer writes, and what is said of a text that is not JSON, has no line feed.

* `DecimalStyle.unbroken_spell`: the text of a decimal, in every style.
* `unbroken_literal`, `unbroken_compact`: the text of a string and of a value without blanks, by
  induction on the value.
* `Cause.Textual`: the causes that are about a text as such, with a fixed wording.
* `Textual`: an outcome of a reader whose fault, if it is one, has such a cause.  There is one lemma
  for each scanner and reader, up to `textual_read`.
* `unbroken_of_readText_error`: so no part of a text is repeated in the message about its fault.
-/

namespace SchemaCheck

/-! ### Numbers -/

section

variable {chars : List Char}

/-- No digit is a line feed. -/
lemma Text.unbroken_digits (h : ∀ c ∈ chars, c.isDigit = true) :
    Unbroken (String.ofList chars) := by
  rw [unbroken_iff, String.toList_ofList]
  intro hmem
  cases h _ hmem

/-- **The text of a decimal** has no line feed, whatever its style. -/
theorem DecimalStyle.unbroken_spell {style : DecimalStyle}
    (hending : Text.Unbroken style.wholeEnding) {d : Decimal} (h : d.HasDigits) :
    Text.Unbroken (style.spell d) := by
  obtain ⟨-, hdigits⟩ := h
  have htake (count : Nat) : Text.Unbroken (String.ofList (d.digits.take count)) :=
    Text.unbroken_digits fun c hc => hdigits c (List.mem_of_mem_take hc)
  have hdrop (count : Nat) : Text.Unbroken (String.ofList (d.digits.drop count)) :=
    Text.unbroken_digits fun c hc => hdigits c (List.mem_of_mem_drop hc)
  have hzeros (count : Nat) : Text.Unbroken (String.ofList (List.replicate count '0')) :=
    Text.unbroken_digits (Json.isDigit_of_mem_replicate count)
  have hall := Text.unbroken_digits hdigits
  have hpoint : Text.Unbroken "0." ∧ Text.Unbroken "." ∧ Text.Unbroken "" := by decide
  have hexponent : Text.Unbroken "e-" ∧ Text.Unbroken "e+" := by decide
  unfold spell spellPositional spellScientific
  dsimp only
  split_ifs <;>
    simp only [String.ofList_append, Text.unbroken_append, Text.unbroken_natRepr, htake, hdrop,
      hzeros, hall, hending, hpoint, hexponent, and_self]

end

/-- The text of a binary number has no line feed, whatever its style. -/
lemma Binary64.Finite.unbroken_spell {style : DecimalStyle}
    (hending : Text.Unbroken style.wholeEnding) (tie : TieBreak) (x : Binary64.Finite) :
    Text.Unbroken (x.spell style tie) := by
  rw [spell, Text.unbroken_append]
  refine ⟨?_, DecimalStyle.unbroken_spell hending (Decimal.hasDigits_shortest tie x)⟩
  split <;> decide

namespace Json

/-- The text of a number has no line feed. -/
lemma Number.unbroken_spell (n : Number) : Text.Unbroken n.spell := by
  cases n with
  | whole k => exact Text.unbroken_intRepr k
  | float x => exact x.unbroken_spell (by decide) _

/-! ### Strings and values -/

/-- A line feed in a string is escaped, as every character that would break it. -/
lemma unbroken_escaped (c : Char) : Text.Unbroken (escaped c) := by
  unfold escaped
  split
  case h_8 hfeed _ _ =>
    split
    · have digit (k : Nat) : Nat.digitChar k ≠ '\n' := by grind [Nat.digitChar]
      rw [Text.unbroken_append]
      refine ⟨by decide, ?_⟩
      simp [Text.unbroken_iff, (digit _).symm]
    · simpa [Text.unbroken_iff, eq_comm] using hfeed
  all_goals decide

/-- **The text of a string** has no line feed, whatever the string is. -/
theorem unbroken_literal (text : String) : Text.Unbroken (literal text) := by
  rw [literal, Text.unbroken_append, Text.unbroken_append, Text.unbroken_join]
  refine ⟨⟨by decide, fun piece hpiece => ?_⟩, by decide⟩
  obtain ⟨c, -, rfl⟩ := List.mem_map.1 hpiece
  exact unbroken_escaped c

/-- The compact texts of items are those of each. -/
lemma compactItems_eq_map (items : List Json) : compactItems items = items.map compact := by
  induction items with
  | nil => rfl
  | cons item items ih => rw [compactItems, ih, List.map_cons]

/-- The compact texts of members are those of each, behind its key. -/
lemma compactMembers_eq_map (members : List (String × Json)) :
    compactMembers members =
      members.map fun member => literal member.1 ++ ":" ++ member.2.compact := by
  induction members with
  | nil => rfl
  | cons member members ih => rw [compactMembers, ih, List.map_cons]

/-- **A value without blanks** is written on one line. -/
theorem unbroken_compact (value : Json) : Text.Unbroken value.compact := by
  have brackets : Text.Unbroken "[" ∧ Text.Unbroken "]" ∧ Text.Unbroken "," := by decide
  have braces : Text.Unbroken "\x7b" ∧ Text.Unbroken "\x7d" ∧ Text.Unbroken ":" := by decide
  induction value using ind with
  | null => decide
  | bool b => cases b <;> decide
  | number n => exact n.unbroken_spell
  | string text => exact unbroken_literal text
  | array items ih =>
      have hitems : ∀ text ∈ items.map compact, Text.Unbroken text :=
        List.forall_mem_map.2 ih
      rw [compact, compactItems_eq_map, Text.unbroken_append, Text.unbroken_append,
        Text.unbroken_intercalate brackets.2.2]
      exact ⟨⟨brackets.1, hitems⟩, brackets.2.1⟩
  | object members ih =>
      have hmembers : ∀ text ∈
          members.map fun member => literal member.1 ++ ":" ++ member.2.compact,
          Text.Unbroken text := by
        refine List.forall_mem_map.2 fun member hmember => ?_
        rw [Text.unbroken_append, Text.unbroken_append]
        exact ⟨⟨unbroken_literal _, braces.2.2⟩, ih member hmember⟩
      rw [compact, compactMembers_eq_map, Text.unbroken_append, Text.unbroken_append,
        Text.unbroken_intercalate brackets.2.2]
      exact ⟨⟨braces.1, hmembers⟩, braces.2.1⟩

/-! ### Faults -/

/-- A cause that is about the text as such, and not about what it should have spelled. -/
def Cause.Textual : Cause → Prop
  | .wrongType .. | .wrongLength .. | .missingKey _ | .repeatedKey _ | .noVariant _ => False
  | _ => True

/-- Such a cause has a fixed wording. -/
lemma Cause.Textual.unbroken_message {cause : Cause} (h : cause.Textual) :
    Text.Unbroken cause.message := by
  cases cause with
  | wrongType | wrongLength | missingKey | repeatedKey | noVariant => cases h
  | _ => decide

/-- The outcome of a reader is no fault but one of the text as such. -/
def Textual {α : Type} : Except Fault α → Prop
  | .ok _ => True
  | .error fault => fault.cause.Textual

section

variable {α β : Type}

lemma Textual.of_eq {outcome : Except Fault α} {fault : Fault} (h : Textual outcome)
    (heq : outcome = .error fault) : fault.cause.Textual := by
  rw [heq] at h
  exact h

/-- What is made of a value changes nothing in the fault. -/
lemma Textual.map {outcome : Except Fault α} (f : α → β) (h : Textual outcome) :
    Textual (outcome.map f) := by
  cases outcome with
  | ok x => trivial
  | error fault => exact h

/-! ### Scanners -/

lemma textual_expectWord (word text : Bytes) : Textual (expectWord word text) := by
  fun_induction expectWord word text with
  | case4 word c text fault hfault ih => exact ih.of_eq hfault
  | _ => trivial

lemma textual_readHex (text : Bytes) : Textual (readHex text) := by
  unfold readHex
  split
  · split <;> trivial
  · trivial

lemma textual_readUnicodeEscape (text : Bytes) : Textual (readUnicodeEscape text) := by
  unfold readUnicodeEscape
  repeat' split
  all_goals first
    | trivial
    | exact (textual_readHex _).of_eq ‹_›

lemma textual_readEscape (text : Bytes) : Textual (readEscape text) := by
  unfold readEscape
  repeat' split
  all_goals first
    | trivial
    | exact (textual_readUnicodeEscape _).of_eq ‹_›

/-- The content of a string fails only for its text. -/
lemma textual_readContent (text : Bytes) : Textual (readContent text) := by
  fun_induction readContent text with
  | case3 rest fault hfault => exact (textual_readEscape _).of_eq hfault
  | case4 rest c behind h hescape fault hfault hquote ih => exact ih.of_eq hfault
  | case7 b rest hquote hslash hcontrol fault hfault ih => exact ih.of_eq hfault
  | _ => trivial

lemma textual_readString (text : Bytes) : Textual (readString text) := by
  unfold readString
  split
  · next hfault => exact (textual_readContent _).of_eq hfault
  · split <;> trivial

/-- A number fails only for its range. -/
lemma textual_assemble (negative : Bool) (significand : Nat) (exponent : Int) (rest : Bytes) :
    Textual (assemble negative significand exponent rest) := by
  unfold assemble
  split <;> trivial

lemma textual_readExponentDigits (negative : Bool) (significand : Nat) (start : Int) (down : Bool)
    (text : Bytes) : Textual (readExponentDigits negative significand start down text) := by
  unfold readExponentDigits
  dsimp only
  split
  · trivial
  · split
    · trivial
    · split
      · split <;> trivial
      · split
        · trivial
        · next hfault => exact (textual_assemble _ _ _ _).of_eq hfault

lemma textual_readExponent (negative : Bool) (significand : Nat) (start : Int) (text : Bytes) :
    Textual (readExponent negative significand start text) := by
  have digits := textual_readExponentDigits negative significand start
  unfold readExponent
  split
  · exact digits _ _
  · split
    · split
      · trivial
      · next hfault => exact (digits _ _).of_eq hfault
    · exact digits _ _

lemma textual_readScale (negative : Bool) (significand : Nat) (exponent : Int) (text : Bytes) :
    Textual (readScale negative significand exponent text) := by
  unfold readScale
  split
  · exact (textual_assemble _ _ _ _).map _
  · split
    · split
      · trivial
      · next hfault => exact (textual_readExponent _ _ _ _).of_eq hfault
    · exact (textual_assemble _ _ _ _).map _

lemma textual_readFraction (negative : Bool) (significand : Nat) (exponent : Int) (text : Bytes) :
    Textual (readFraction negative significand exponent text) := by
  unfold readFraction
  dsimp only
  split
  · trivial
  · split
    · trivial
    · split
      · trivial
      · next hfault => exact (textual_readScale _ _ _ _).of_eq hfault

lemma textual_readTail (negative : Bool) (significand dropped : Nat) (text : Bytes) :
    Textual (readTail negative significand dropped text) := by
  unfold readTail
  split
  · split
    · trivial
    · exact textual_readScale _ _ _ _
  · split
    · split
      · trivial
      · next hfault => exact (textual_readFraction _ _ _ _).of_eq hfault
    · split
      · exact textual_readScale _ _ _ _
      · trivial

/-- A number fails for its text or its range, and for nothing else. -/
lemma textual_readNumber (negative : Bool) (text : Bytes) : Textual (readNumber negative text) := by
  unfold readNumber
  dsimp only
  split
  · trivial
  · split
    · trivial
    · split
      · trivial
      · split
        · trivial
        · next hfault => exact (textual_readTail _ _ _ _).of_eq hfault

/-! ### Values -/

lemma textual_expectNext (closing : UInt8) {atEnd otherwise : Cause} (hend : atEnd.Textual)
    (hotherwise : otherwise.Textual) (text : Bytes) :
    Textual (expectNext closing atEnd otherwise text) := by
  unfold expectNext
  split
  · exact hend
  · split
    · trivial
    · split
      · exact hotherwise
      · split
        · trivial
        · split <;> trivial

lemma textual_expectNextItem (text : Bytes) : Textual (expectNextItem text) := by
  apply textual_expectNext <;> trivial

lemma textual_expectNextMember (text : Bytes) : Textual (expectNextMember text) := by
  apply textual_expectNext <;> trivial

lemma textual_expectColon (text : Bytes) : Textual (expectColon text) := by
  unfold expectColon
  split
  · trivial
  · split <;> trivial

/-- A key fails only for its text. -/
lemma textual_readKey (text : Bytes) : Textual (readKey text) := by
  unfold readKey
  split
  · trivial
  · split
    · trivial
    · split
      · next hfault => exact (textual_readString _).of_eq hfault
      · trivial

variable {item : Reader α}

/-- Items fail as an item does, or for what stands between them. -/
lemma textual_readItems (h : ∀ text, Textual (item text)) (text : Bytes) :
    Textual (readItems item text) := by
  fun_induction readItems item text with
  | case1 text fault hfault => exact (h _).of_eq hfault
  | case2 text value rest hr hread fault hfault => exact (textual_expectNextItem _).of_eq hfault
  | case4 text value rest hr hread next hn hnext fault hfault ih => exact ih.of_eq hfault
  | _ => trivial

/-- Members fail as a value does, or for what stands between them. -/
lemma textual_readMembers (h : ∀ text, Textual (item text)) (text : Bytes) :
    Textual (readMembers item text) := by
  fun_induction readMembers item text with
  | case1 text fault hfault => exact (textual_readKey _).of_eq hfault
  | case2 text key afterKey hk hkey fault hfault => exact (textual_expectColon _).of_eq hfault
  | case3 text key afterKey hk hkey afterColon hc hcolon fault hfault => exact (h _).of_eq hfault
  | case4 text key afterKey hk hkey afterColon hc hcolon value rest hr hread fault hfault =>
      exact (textual_expectNextMember _).of_eq hfault
  | case6 text key afterKey hk hkey afterColon hc hcolon value rest hr hread next hn hnext fault
      hfault ih => exact ih.of_eq hfault
  | _ => trivial

/-- An array fails as its items do. -/
lemma textual_readArray (h : ∀ text, Textual (item text)) (text : Bytes) :
    Textual (readArray item text) := by
  unfold readArray
  split
  · trivial
  · split
    · trivial
    · split
      · trivial
      · next hfault => exact (textual_readItems h _).of_eq hfault

/-- An object fails as its members do. -/
lemma textual_readObject (h : ∀ text, Textual (item text)) (text : Bytes) :
    Textual (readObject item text) := by
  unfold readObject
  split
  · trivial
  · split
    · trivial
    · split
      · trivial
      · next hfault => exact (textual_readMembers h _).of_eq hfault

/-- A scalar fails only for its text. -/
lemma textual_readScalar? {first : UInt8} {text : Bytes}
    {outcome : Except Fault (Json × { rest : Bytes // rest.length ≤ text.length })}
    (h : readScalar? first text = some outcome) : Textual outcome := by
  unfold readScalar? readWord at h
  split_ifs at h <;> obtain rfl := Option.some.inj h
  · exact (textual_expectWord _ _).map _
  · exact (textual_expectWord _ _).map _
  · exact (textual_expectWord _ _).map _
  · exact (textual_readString _).map _
  · exact (textual_readNumber _ _).map _
  · exact (textual_readNumber _ _).map _

/-- **One level of reading**: a value fails for its text if the values one level deeper do. -/
lemma textual_readValue_of {depth : Nat}
    (h : ∀ lower, depth = lower + 1 → ∀ text, Textual (readValue lower text)) (text : Bytes) :
    Textual (readValue depth text) := by
  unfold readValue
  split
  · trivial
  · split
    · trivial
    · next hscalar => exact textual_readScalar? hscalar
    · split
      · split
        · trivial
        · next lower =>
            split
            · trivial
            · next hfault => exact (textual_readArray (h lower rfl) _).of_eq hfault
      · split
        · split
          · trivial
          · next lower =>
              split
              · trivial
              · next hfault => exact (textual_readObject (h lower rfl) _).of_eq hfault
        · trivial

/-- **A reader of values finds no other faults**, however deep it may read. -/
theorem textual_readValue (depth : Nat) (text : Bytes) : Textual (readValue depth text) := by
  induction depth generalizing text with
  | zero => exact textual_readValue_of (fun _ h => absurd h (Nat.succ_ne_zero _).symm) text
  | succ depth ih => exact textual_readValue_of (fun _ h => Nat.succ.inj h ▸ ih) text

lemma textual_expectEnd (text : Bytes) : Textual (expectEnd text) := by
  unfold expectEnd
  split <;> trivial

/-- **A document fails for its text alone**, and never for what it describes. -/
theorem textual_read (text : Bytes) : Textual (read text) := by
  unfold read readAll
  split
  · next hfault => exact (textual_readValue _ _).of_eq hfault
  · split
    · next hfault => exact (textual_expectEnd _).of_eq hfault
    · trivial

end

/-- The place of a fault is told on the same line. -/
lemma unbroken_located {message : String} (h : Text.Unbroken message) (line column : Nat) :
    Text.Unbroken (located message line column) := by
  have words : Text.Unbroken " at line " ∧ Text.Unbroken " column " := by decide
  simp [located, h, words]

/-- **What is said of a text that is not JSON** is said on one line. -/
theorem unbroken_of_readText_error {text message : String} (h : readText text = .error message) :
    Text.Unbroken message := by
  cases hread : read (bytesOf text) with
  | ok value => simp [readText, hread, Except.mapError] at h
  | error fault =>
      rw [readText, hread] at h
      obtain rfl := Except.error.inj h
      exact unbroken_located ((textual_read _).of_eq hread).unbroken_message _ _

end Json

end SchemaCheck
