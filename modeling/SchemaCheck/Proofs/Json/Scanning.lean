import Mathlib.Algebra.Group.Nat.Defs
import Mathlib.Data.List.Basic
import Mathlib.Tactic.Common
import SchemaCheck.Json.Reader
import SchemaCheck.Json.Writer

/-!
# Scanning what was written

The tokens of a written text are taken off its front again, whatever follows them.

* `Yields`: a reader takes a value off the front of a text.  A reader returns a proof that the rest
  is shorter; here nothing more is said of it than that it exists.
* `outcome`: what a reader takes off, if anything.  Faults are not told apart here.
* `bytesOf_eq`, `decode?_bytesOf`: a text as bytes, character by character, and back.
* `yields_string`: a string is taken off as it was before its characters were escaped.
* `yields_number`: the digits of a natural number below `2 ^ 64` are taken off as that number, where
  what follows is no part of a number (`EndsNumber`).
-/

namespace SchemaCheck.Json

/-- The reader takes the value off the front of the text and leaves the rest. -/
def Yields {α : Type} (reader : Reader α) (text : Bytes) (value : α) (rest : Bytes) : Prop :=
  ∃ shorter, reader text = .ok ⟨value, rest, shorter⟩

/-- What a reader yields is its value and what it leaves. -/
lemma yields_iff {α : Type} {reader : Reader α} {text : Bytes} {value : α} {rest : Bytes} :
    Yields reader text value rest ↔
      (reader text).map (fun taken => (taken.value, taken.rest)) = .ok (value, rest) := by
  constructor
  · rintro ⟨shorter, h⟩
    rw [h]
    rfl
  · intro h
    cases hread : reader text with
    | error fault => rw [hread] at h; cases h
    | ok taken =>
        rw [hread] at h
        obtain ⟨value', rest', shorter⟩ := taken
        obtain ⟨rfl, rfl⟩ := Prod.mk.inj (Except.ok.inj h)
        exact ⟨shorter, hread⟩

/-- What a reader takes off the front of a text, and the rest; none where it finds a fault. -/
def outcome {α : Type} (reader : Reader α) (text : Bytes) : Option (α × Bytes) :=
  (reader text).toOption.map fun taken => (taken.value, taken.rest)

/-- Where a reader succeeds, its outcome is the value and the rest. -/
lemma outcome_of_ok {α : Type} {reader : Reader α} {text : Bytes} {taken : Taken α text}
    (h : reader text = .ok taken) : outcome reader text = some (taken.value, taken.rest) := by
  rw [outcome, h]
  rfl

/-- Where a reader fails, it has no outcome. -/
lemma outcome_of_error {α : Type} {reader : Reader α} {text : Bytes} {fault : Fault}
    (h : reader text = .error fault) : outcome reader text = none := by
  rw [outcome, h]
  rfl

/-- A reader has an outcome exactly where it yields one. -/
lemma outcome_eq_some_iff {α : Type} {reader : Reader α} {text rest : Bytes} {value : α} :
    outcome reader text = some (value, rest) ↔ Yields reader text value rest := by
  constructor
  · intro h
    cases hread : reader text with
    | error fault => rw [outcome_of_error hread] at h; cases h
    | ok taken =>
        rw [outcome_of_ok hread] at h
        obtain ⟨value', rest', shorter⟩ := taken
        obtain ⟨rfl, rfl⟩ := Prod.mk.inj (Option.some.inj h)
        exact ⟨shorter, hread⟩
  · rintro ⟨shorter, hread⟩
    exact outcome_of_ok hread

/-- What is read or not, with the bytes that are left. -/
lemma cases_of_outcome {α : Type} {reader : Reader α} {text rest : Bytes} {value : Option α}
    (h : outcome reader text = value.map (·, rest)) :
    (value = none ∧ ∃ fault, reader text = .error fault) ∨
      ∃ x, value = some x ∧ Yields reader text x rest := by
  cases value with
  | some x => exact .inr ⟨x, rfl, outcome_eq_some_iff.1 h⟩
  | none =>
      cases hread : reader text with
      | error fault => exact .inl ⟨rfl, fault, rfl⟩
      | ok taken => rw [outcome_of_ok hread] at h; cases h

/-! ### The bytes of a text -/

lemma bytesOf_eq (text : String) : bytesOf text = text.toList.flatMap String.utf8EncodeChar := by
  rw [bytesOf, ← String.ofList_toList (s := text), String.toByteArray_ofList,
    String.toList_ofList, List.utf8Encode, List.toList_data_toByteArray]

lemma bytesOf_ofList (chars : List Char) :
    bytesOf (String.ofList chars) = chars.flatMap String.utf8EncodeChar := by
  rw [bytesOf_eq, String.toList_ofList]

lemma bytesOf_append (s t : String) : bytesOf (s ++ t) = bytesOf s ++ bytesOf t := by
  rw [bytesOf_eq, bytesOf_eq, bytesOf_eq, String.toList_append, List.flatMap_append]

/-- A text is decoded from its bytes. -/
lemma decode?_bytesOf (text : String) : decode? (bytesOf text) = some text := by
  have hbytes : (⟨(bytesOf text).toArray⟩ : ByteArray) = text.toByteArray := by
    rw [bytesOf, Array.toArray_toList]
  rw [decode?, hbytes, String.fromUTF8?, dif_pos text.isValidUTF8]
  rfl

/-! ### Strings -/

/-- The byte stands for itself in a string. -/
def Plain (b : UInt8) : Prop := b ≠ '"'.toUInt8 ∧ b ≠ '\\'.toUInt8 ∧ ¬b < 0x20

/-- A character of seven bits is its own byte. -/
lemma utf8EncodeChar_of_lt {c : Char} (h : c.toNat < 0x80) :
    String.utf8EncodeChar c = [UInt8.ofNat c.toNat] := by
  rw [String.utf8EncodeChar]
  exact if_pos (Nat.le_of_lt_succ h)

/-- A character beyond the first 128 has no byte among these. -/
lemma le_toNat_of_mem_utf8EncodeChar {c : Char} (h : ¬c.toNat < 0x80) :
    ∀ b ∈ String.utf8EncodeChar c, 0x80 ≤ b.toNat := by
  have hlarge : ¬c.val.toNat ≤ 127 := fun hle => h (Nat.lt_succ_of_le hle)
  intro b hb
  simp only [String.utf8EncodeChar, if_neg hlarge] at hb
  split at hb
  · simp only [List.mem_cons, List.not_mem_nil, or_false] at hb
    rcases hb with rfl | rfl <;> rw [UInt8.toNat_ofNat'] <;> omega
  · split at hb
    · simp only [List.mem_cons, List.not_mem_nil, or_false] at hb
      rcases hb with rfl | rfl | rfl <;> rw [UInt8.toNat_ofNat'] <;> omega
    · simp only [List.mem_cons, List.not_mem_nil, or_false] at hb
      rcases hb with rfl | rfl | rfl | rfl <;> rw [UInt8.toNat_ofNat'] <;> omega

lemma plain_of_le_toNat {b : UInt8} (h : 0x80 ≤ b.toNat) : Plain b := by
  refine ⟨?_, ?_, ?_⟩
  · rintro rfl
    exact absurd h (by decide)
  · rintro rfl
    exact absurd h (by decide)
  · rw [UInt8.lt_iff_toNat_lt]
    exact Nat.not_lt.2 (Nat.le_trans (by decide) h)

/-- A character that needs no escape has only plain bytes. -/
lemma plain_of_mem_utf8EncodeChar {c : Char} (hquote : c ≠ '"') (hslash : c ≠ '\\')
    (hcontrol : ¬c.toNat < 0x20) : ∀ b ∈ String.utf8EncodeChar c, Plain b := by
  by_cases hsmall : c.toNat < 0x80
  · intro b hb
    rw [utf8EncodeChar_of_lt hsmall, List.mem_singleton] at hb
    subst hb
    have hnat : (UInt8.ofNat c.toNat).toNat = c.toNat := by
      rw [UInt8.toNat_ofNat']
      exact Nat.mod_eq_of_lt (Nat.lt_trans hsmall (by decide))
    refine ⟨fun h => hquote ?_, fun h => hslash ?_, ?_⟩
    · exact Char.toNat_inj.1 (hnat.symm.trans (congrArg UInt8.toNat h))
    · exact Char.toNat_inj.1 (hnat.symm.trans (congrArg UInt8.toNat h))
    · rw [UInt8.lt_iff_toNat_lt, hnat]
      exact hcontrol
  · exact fun b hb => plain_of_le_toNat (le_toNat_of_mem_utf8EncodeChar hsmall b hb)

lemma yields_content_end (rest : Bytes) :
    Yields readContent ('"'.toUInt8 :: rest) [] rest := by
  rw [yields_iff, readContent, if_pos rfl]
  rfl

/-- A plain byte is read as it is. -/
lemma yields_content_plain {b : UInt8} (hb : Plain b) {text content rest : Bytes}
    (h : Yields readContent text content rest) :
    Yields readContent (b :: text) (b :: content) rest := by
  obtain ⟨hquote, hslash, hcontrol⟩ := hb
  obtain ⟨hshorter, hread⟩ := h
  rw [yields_iff, readContent, if_neg hquote, if_neg hslash, if_neg hcontrol, hread]
  rfl

/-- An escape is read as its character. -/
lemma yields_content_escape {c : Char} {text behind content rest : Bytes}
    (hescape : Yields readEscape text c behind) (h : Yields readContent behind content rest) :
    Yields readContent ('\\'.toUInt8 :: text) (String.utf8EncodeChar c ++ content) rest := by
  obtain ⟨hescaped, hreadEscape⟩ := hescape
  obtain ⟨hshorter, hread⟩ := h
  rw [yields_iff, readContent, if_neg (by decide), if_pos rfl, hreadEscape]
  simp only [hread]
  rfl

/-- Plain bytes are read as they are. -/
lemma yields_content_plains {bytes : Bytes} (hbytes : ∀ b ∈ bytes, Plain b)
    {text content rest : Bytes} (h : Yields readContent text content rest) :
    Yields readContent (bytes ++ text) (bytes ++ content) rest := by
  induction bytes with
  | nil => exact h
  | cons b bytes ih =>
      obtain ⟨hb, hbytes⟩ := List.forall_mem_cons.1 hbytes
      exact yields_content_plain hb (ih hbytes)

/-- An escape of one letter is read as the character it stands for. -/
lemma yields_escape_short {letter : UInt8} {c : Char} (hletter : letter ≠ 'u'.toUInt8)
    (hshort : shortEscape? letter = some c) (text : Bytes) :
    Yields readEscape (letter :: text) c text := by
  rw [yields_iff, readEscape, if_neg hletter, hshort]
  rfl

/-- The bytes of the two digits that a control character is written with. -/
def controlDigits (n : Nat) : Bytes :=
  [(Nat.digitChar (n / 16)).toUInt8, (Nat.digitChar (n % 16)).toUInt8]

/-- The two digits of a control character, as bytes. -/
lemma flatMap_digits : ∀ n < 0x20,
    [Nat.digitChar (n / 16), Nat.digitChar (n % 16)].flatMap String.utf8EncodeChar =
      controlDigits n := by
  decide

/-- The code of a control character is read from its four digits. -/
lemma mapM_hexDigit? : ∀ n < 0x20,
    ('0'.toUInt8 :: '0'.toUInt8 :: controlDigits n).mapM
      (fun x => Text.CharSet.hexDigit? (Char.ofUInt8 x)) = some [0, 0, n / 16, n % 16] := by
  decide

lemma yields_hex {n : Nat} (h : n < 0x20) (text : Bytes) :
    Yields readHex ('0'.toUInt8 :: '0'.toUInt8 :: (controlDigits n ++ text)) n text := by
  have hdigits := mapM_hexDigit? n h
  have hvalue : [0, 0, n / 16, n % 16].foldl (fun n digit => 16 * n + digit) 0 = n := by
    simp only [List.foldl_cons, List.foldl_nil]
    omega
  rw [controlDigits] at hdigits
  rw [yields_iff, controlDigits, List.cons_append, List.cons_append, List.nil_append, readHex,
    hdigits]
  exact congrArg (fun value => Except.ok (value, text)) hvalue

/-- A control character is read from its code. -/
lemma yields_escape_control {c : Char} (hc : c.toNat < 0x20) (text : Bytes) :
    Yields readEscape ('u'.toUInt8 :: '0'.toUInt8 :: '0'.toUInt8 :: (controlDigits c.toNat ++ text))
      c text := by
  obtain ⟨hshorter, hread⟩ := yields_hex hc text
  rw [yields_iff, readEscape, if_pos rfl, readUnicodeEscape, hread]
  simp only
  rw [if_neg (by omega), if_pos (by omega)]
  exact congrArg (fun c => Except.ok (c, text)) (Char.ofNat_toNat c)

/-- **Every character is read from how it is written** in a string. -/
lemma yields_content_escaped (c : Char) {text content rest : Bytes}
    (h : Yields readContent text content rest) :
    Yields readContent (bytesOf (escaped c) ++ text) (String.utf8EncodeChar c ++ content) rest := by
  unfold escaped
  split
  · exact yields_content_escape (yields_escape_short (by decide) rfl _) h
  · exact yields_content_escape (yields_escape_short (by decide) rfl _) h
  · exact yields_content_escape (yields_escape_short (by decide) rfl _) h
  · exact yields_content_escape (yields_escape_short (by decide) rfl _) h
  · exact yields_content_escape (yields_escape_short (by decide) rfl _) h
  · exact yields_content_escape (yields_escape_short (by decide) rfl _) h
  · exact yields_content_escape (yields_escape_short (by decide) rfl _) h
  · next hquote hslash _ _ _ _ _ =>
      split
      · next hcontrol =>
          have hbytes : bytesOf ("\\u00" ++
              String.ofList [Nat.digitChar (c.toNat / 16), Nat.digitChar (c.toNat % 16)]) ++ text =
              '\\'.toUInt8 :: 'u'.toUInt8 :: '0'.toUInt8 :: '0'.toUInt8 ::
                (controlDigits c.toNat ++ text) := by
            rw [bytesOf_append, bytesOf_ofList [Nat.digitChar _, Nat.digitChar _],
              flatMap_digits _ hcontrol]
            rfl
          rw [hbytes]
          exact yields_content_escape (yields_escape_control hcontrol _) h
      · next hcontrol =>
          have hbytes : bytesOf c.toString = String.utf8EncodeChar c := by
            simp [bytesOf_eq, Char.toString]
          rw [hbytes]
          exact yields_content_plains (plain_of_mem_utf8EncodeChar hquote hslash hcontrol) h

/-- **A string is read from behind the opening quote of its literal.** -/
theorem yields_string (text : String) (rest : Bytes) :
    Yields readString (text.toList.flatMap (fun c => bytesOf (escaped c)) ++ '"'.toUInt8 :: rest)
      text rest := by
  have hcontent : ∀ chars : List Char,
      Yields readContent (chars.flatMap (fun c => bytesOf (escaped c)) ++ '"'.toUInt8 :: rest)
        (chars.flatMap String.utf8EncodeChar) rest := by
    intro chars
    induction chars with
    | nil => exact yields_content_end rest
    | cons c chars ih =>
        rw [List.flatMap_cons, List.flatMap_cons, List.append_assoc]
        exact yields_content_escaped c ih
  obtain ⟨hshorter, hread⟩ := hcontent text.toList
  rw [yields_iff, readString, hread]
  simp only [← bytesOf_eq, decode?_bytesOf]
  rfl

/-- A quoted text is its escaped characters between quotes. -/
lemma bytesOf_literal (text : String) :
    bytesOf (literal text) =
      '"'.toUInt8 :: (text.toList.flatMap (fun c => bytesOf (escaped c)) ++ ['"'.toUInt8]) := by
  have hcontent : bytesOf (String.join (text.toList.map escaped)) =
      text.toList.flatMap fun c => bytesOf (escaped c) := by
    rw [bytesOf_eq, String.toList_join, List.flatMap_map, List.flatMap_assoc]
    exact List.flatMap_congr fun c _ => (bytesOf_eq (escaped c)).symm
  rw [literal, bytesOf_append, bytesOf_append, hcontent]
  rfl

/-! ### Numbers -/

/-- What follows a number cannot be a part of it. -/
def EndsNumber (rest : Bytes) : Prop :=
  ∀ b ∈ rest.head?, isDigit b = false ∧ b ≠ '.'.toUInt8 ∧ b ≠ 'e'.toUInt8 ∧ b ≠ 'E'.toUInt8

/-- What follows digits is none. -/
def EndsDigits (rest : Bytes) : Prop := ∀ b ∈ rest.head?, isDigit b = false

lemma EndsNumber.endsDigits {rest : Bytes} (h : EndsNumber rest) : EndsDigits rest :=
  fun b hb => (h b hb).1

/-- The byte of a decimal digit. -/
def digitByte (c : Char) : UInt8 := UInt8.ofNat c.toNat

lemma lt_of_isDigit {c : Char} (h : c.isDigit = true) : c.toNat < 0x80 := by
  simp only [Char.isDigit, Bool.and_eq_true, decide_eq_true_eq] at h
  have hle : c.toNat ≤ 57 := h.2
  omega

lemma toNat_digitByte {c : Char} (h : c.isDigit = true) : (digitByte c).toNat = c.toNat := by
  rw [digitByte, UInt8.toNat_ofNat']
  exact Nat.mod_eq_of_lt (Nat.lt_trans (lt_of_isDigit h) (by decide))

lemma isDigit_digitByte {c : Char} (h : c.isDigit = true) : isDigit (digitByte c) = true := by
  have hbyte := toNat_digitByte h
  simp only [Char.isDigit, Bool.and_eq_true, decide_eq_true_eq] at h
  simp only [isDigit, Bool.and_eq_true, decide_eq_true_eq, UInt8.le_iff_toNat_le, hbyte]
  exact h

/-- A digit has the same value as a byte. -/
lemma digitValue_digitByte {c : Char} (h : c.isDigit = true) :
    digitValue (digitByte c) = c.toNat - '0'.toNat := by
  rw [digitValue, toNat_digitByte h]
  rfl

lemma bytesOf_digits {chars : List Char} (h : ∀ c ∈ chars, c.isDigit = true) :
    bytesOf (String.ofList chars) = chars.map digitByte := by
  rw [bytesOf_ofList, List.map_eq_flatMap]
  exact List.flatMap_congr fun c hc => utf8EncodeChar_of_lt (lt_of_isDigit (h c hc))

lemma bytesOf_repr (n : Nat) : bytesOf n.repr = (Nat.toDigits 10 n).map digitByte := by
  rw [Nat.repr_eq_ofList_toDigits]
  exact bytesOf_digits fun c hc => Nat.isDigit_of_mem_toDigits (by decide) (by decide) hc

/-- A number is written with one digit at least. -/
lemma exists_bytesOf_repr_eq_cons (n : Nat) :
    ∃ b tail, bytesOf n.repr = b :: tail ∧ isDigit b = true := by
  have hdigit : ∀ c ∈ Nat.toDigits 10 n, c.isDigit = true := fun c hc =>
    Nat.isDigit_of_mem_toDigits (by decide) (by decide) hc
  rw [bytesOf_repr]
  cases hdigits : Nat.toDigits 10 n with
  | nil => exact absurd hdigits Nat.toDigits_ne_nil
  | cons c chars =>
      rw [hdigits] at hdigit
      exact ⟨_, _, rfl, isDigit_digitByte (hdigit c List.mem_cons_self)⟩

lemma le_ofDigitChars (chars : List Char) (init : Nat) : init ≤ Nat.ofDigitChars 10 chars init := by
  induction chars generalizing init with
  | nil => exact Nat.le_refl _
  | cons c chars ih =>
      rw [Nat.ofDigitChars_cons]
      exact Nat.le_trans (by omega) (ih _)

/-- **Digits are gathered into their number** as long as it stays within the limit. -/
lemma gather_digitBytes {limit : Nat} {chars : List Char} (hchars : ∀ c ∈ chars, c.isDigit = true)
    {init : Nat} (h : Nat.ofDigitChars 10 chars init ≤ limit) :
    gather limit init (chars.map digitByte) = (Nat.ofDigitChars 10 chars init, []) := by
  induction chars generalizing init with
  | nil => rfl
  | cons c chars ih =>
      obtain ⟨hc, hchars⟩ := List.forall_mem_cons.1 hchars
      rw [Nat.ofDigitChars_cons] at h ⊢
      rw [List.map_cons, gather, digitValue_digitByte hc]
      exact (if_pos (Nat.le_trans (le_ofDigitChars _ _) h)).trans (ih hchars h)

/-- Only zero is written with a zero in front. -/
lemma head_toDigits {n : Nat} (h : n ≠ 0) : ∀ c ∈ (Nat.toDigits 10 n).head?, c ≠ '0' := by
  induction n using Nat.strongRecOn with
  | _ n ih =>
      by_cases hsmall : n < 10
      · have hdigit : ∀ k < 10, k ≠ 0 → Nat.digitChar k ≠ '0' := by decide
        rw [Nat.toDigits_of_lt_base hsmall]
        intro c hc
        obtain rfl := Option.some.inj hc
        exact hdigit n hsmall h
      · have hne : Nat.toDigits 10 (n / 10) ≠ [] := Nat.toDigits_ne_nil
        rw [Nat.toDigits_of_base_le (by decide) (by omega), List.head?_append_of_ne_nil _ hne]
        exact ih (n / 10) (by omega) (by omega)

/-- Digits are taken up to what ends them. -/
lemma takeWhile_isDigit {digits rest : Bytes} (hdigits : ∀ b ∈ digits, isDigit b = true)
    (hrest : EndsDigits rest) : (digits ++ rest).takeWhile isDigit = digits := by
  have hnone : rest.takeWhile isDigit = [] := by
    cases rest with
    | nil => rfl
    | cons b rest => rw [List.takeWhile_cons, hrest b rfl, if_neg Bool.false_ne_true]
  rw [List.takeWhile_append_of_pos hdigits, hnone, List.append_nil]

lemma dropWhile_isDigit {digits rest : Bytes} (hdigits : ∀ b ∈ digits, isDigit b = true)
    (hrest : EndsDigits rest) : (digits ++ rest).dropWhile isDigit = rest := by
  rw [List.dropWhile_append_of_pos hdigits]
  cases rest with
  | nil => rfl
  | cons b rest => rw [List.dropWhile_cons, hrest b rfl, if_neg Bool.false_ne_true]

/-- A number without fraction and exponent is an integer. -/
lemma readTail_of_endsNumber (negative : Bool) (n : Nat) {rest : Bytes} (hrest : EndsNumber rest) :
    readTail negative n 0 rest = .ok (integer negative n, untouched rest) := by
  cases rest with
  | nil => rfl
  | cons b rest =>
      obtain ⟨-, hpoint, hsmall, hlarge⟩ := hrest b rfl
      rw [readTail, if_neg hpoint, if_neg (by simp [hsmall, hlarge])]

/-- **An integer is read from its decimal digits.** -/
theorem yields_number {n : Nat} (hn : n < 2 ^ 64) (negative : Bool) {rest : Bytes}
    (hrest : EndsNumber rest) :
    Yields (readNumber negative) (bytesOf n.repr ++ rest) (integer negative n) rest := by
  have hchars : ∀ c ∈ Nat.toDigits 10 n, c.isDigit = true := fun c hc =>
    Nat.isDigit_of_mem_toDigits (by decide) (by decide) hc
  have hvalue : Nat.ofDigitChars 10 (Nat.toDigits 10 n) 0 = n :=
    Nat.ofDigitChars_toDigits (by decide) (by decide)
  have hgather : gather significandLimit 0 ((Nat.toDigits 10 n).map digitByte) = (n, []) := by
    rw [gather_digitBytes hchars (by rw [hvalue]; exact Nat.le_of_lt_succ hn), hvalue]
  have hhead : n ≠ 0 → ∀ c ∈ (Nat.toDigits 10 n).head?, c ≠ '0' := head_toDigits
  rw [bytesOf_repr]
  cases hdigits : Nat.toDigits 10 n with
  | nil => exact absurd hdigits Nat.toDigits_ne_nil
  | cons c chars =>
      rw [hdigits] at hchars hgather hhead
      obtain ⟨hc, hchars⟩ := List.forall_mem_cons.1 hchars
      have hbytes : ∀ b ∈ chars.map digitByte, isDigit b = true := by
        intro b hb
        obtain ⟨c, hmem, rfl⟩ := List.mem_map.1 hb
        exact isDigit_digitByte (hchars c hmem)
      have hzero : ¬(digitByte c = '0'.toUInt8 ∧
          (chars.map digitByte ++ rest).head?.any isDigit = true) := by
        rintro ⟨hbyte, hany⟩
        have hcode := congrArg UInt8.toNat hbyte
        rw [toNat_digitByte hc] at hcode
        by_cases hn : n = 0
        · rw [hn, Nat.toDigits_zero] at hdigits
          obtain ⟨-, rfl⟩ := List.cons.inj hdigits
          cases rest with
          | nil => cases hany
          | cons b rest => exact Bool.false_ne_true ((hrest b rfl).1.symm.trans hany)
        · exact hhead hn c rfl (Char.toNat_inj.1 hcode)
      have hdrop := dropWhile_isDigit hbytes hrest.endsDigits
      have hends : EndsNumber ((chars.map digitByte ++ rest).dropWhile isDigit) :=
        hdrop.symm ▸ hrest
      rw [List.map_cons] at hgather ⊢
      rw [yields_iff, List.cons_append, readNumber, if_neg (by simp [isDigit_digitByte hc]),
        if_neg hzero, takeWhile_isDigit hbytes hrest.endsDigits]
      simp only [hgather, List.length_nil, readTail_of_endsNumber negative n hends]
      exact congrArg (fun rest => Except.ok (integer negative n, rest)) hdrop

end SchemaCheck.Json
