import Mathlib.Tactic.Common
import SchemaCheck.Proofs.Json.Extent

/-!
# The grammar of JSON

What the reader that passes over unwanted values takes for a value, said without it.

* `StringText`, `NumberText`, `ScalarText`: the texts of scalars.  A string may hold any bytes but
  control characters, and a number may be as large as it likes.
* `ValueText`: the texts of values, by the number of arrays and objects that are nested.  There is
  no limit to it: `IsJson`.
* `eq_some_iff_exists_lists`: what is passed over element by element is a sequence.
* `recognizes_skipNested`, by induction on that number, and `recognizes_skipValue`: a value is
  passed over exactly if its text is there.
-/

namespace SchemaCheck.Json

/-! ### Strings -/

/-- **The text of a string** from behind its opening quote: bytes that stand for themselves,
escapes, and the quote that closes it. -/
inductive StringText : Bytes → Prop
  | close : StringText ['"'.toUInt8]
  | plain {b : UInt8} {bytes : Bytes} (plain : Plain b) (rest : StringText bytes) :
      StringText (b :: bytes)
  | short {letter : UInt8} {bytes : Bytes} (escape : (shortEscape? letter).isSome)
      (rest : StringText bytes) : StringText ('\\'.toUInt8 :: letter :: bytes)
  | code {a b c d : UInt8} {bytes : Bytes}
      (digits : ∀ x ∈ [a, b, c, d], (Text.CharSet.hexDigit? (Char.ofUInt8 x)).isSome)
      (rest : StringText bytes) :
      StringText ('\\'.toUInt8 :: 'u'.toUInt8 :: a :: b :: c :: d :: bytes)

lemma StringText.ends {bytes : Bytes} (h : StringText bytes) : Ends bytes := by
  induction h with
  | close => exact ⟨[], _, rfl, rfl⟩
  | @plain b bytes plain rest ih => exact ih.append [b]
  | @short letter bytes escape rest ih => exact ih.append ['\\'.toUInt8, letter]
  | @code a b c d bytes digits rest ih => exact ih.append ['\\'.toUInt8, 'u'.toUInt8, a, b, c, d]

/-- A code is read exactly where four hexadecimal digits stand. -/
lemma exists_outcome_readHex_iff {text rest : Bytes} :
    (∃ n, outcome readHex text = some (n, rest)) ↔
      ∃ a b c d, text = a :: b :: c :: d :: rest ∧
        ∀ x ∈ [a, b, c, d], (Text.CharSet.hexDigit? (Char.ofUInt8 x)).isSome := by
  have hdigits : ∀ bytes : Bytes,
      (∃ digits, bytes.mapM (fun x => Text.CharSet.hexDigit? (Char.ofUInt8 x)) = some digits) ↔
        ∀ x ∈ bytes, (Text.CharSet.hexDigit? (Char.ofUInt8 x)).isSome := by
    intro bytes
    induction bytes with
    | nil => simp
    | cons x bytes ih =>
        rw [List.forall_mem_cons, ← ih, Option.isSome_iff_exists, List.mapM_cons]
        simp only [bind, Option.bind_eq_some_iff, pure, Option.some.injEq]
        constructor
        · rintro ⟨digits, digit, hdigit, digits', hdigits', rfl⟩
          exact ⟨⟨digit, hdigit⟩, digits', hdigits'⟩
        · rintro ⟨⟨digit, hdigit⟩, digits, hdigits⟩
          exact ⟨digit :: digits, digit, hdigit, digits, hdigits, rfl⟩
  constructor
  · rintro ⟨n, hrun⟩
    obtain ⟨shorter, hread⟩ := outcome_eq_some_iff.1 hrun
    unfold readHex at hread
    split at hread
    · next a b c d rest =>
        split at hread
        · next digits hmap =>
            cases hread
            exact ⟨a, b, c, d, rfl, (hdigits _).1 ⟨digits, hmap⟩⟩
        · cases hread
    · cases hread
  · rintro ⟨a, b, c, d, rfl, hall⟩
    obtain ⟨digits, hmap⟩ := (hdigits _).2 hall
    refine ⟨digits.foldl (fun n digit => 16 * n + digit) 0, ?_⟩
    rw [outcome]
    simp only [readHex, hmap]
    rfl

section

variable {b letter : UInt8} {text : Bytes}

lemma outcome_skipString_plain (hb : Plain b) :
    outcome skipString (b :: text) = outcome skipString text := by
  obtain ⟨hquote, hslash, hcontrol⟩ := hb
  rw [outcome, skipString.eq_def]
  simp only [if_neg hquote, if_neg hslash, if_neg hcontrol]
  rw [outcome]
  cases skipString text <;> rfl

lemma outcome_skipString_short (hletter : (shortEscape? letter).isSome) :
    outcome skipString ('\\'.toUInt8 :: letter :: text) = outcome skipString text := by
  have hcode : letter ≠ 'u'.toUInt8 := by
    rintro rfl
    cases hletter
  have hnone : ¬(shortEscape? letter).isNone := by simpa [Option.isSome_iff_ne_none] using hletter
  rw [outcome, skipString, if_neg (by decide), if_pos rfl]
  simp only [if_neg hcode, if_neg hnone]
  rw [outcome]
  cases skipString text <;> rfl

lemma outcome_skipString_code {behind : Bytes} {n : Nat}
    (hcode : outcome readHex text = some (n, behind)) :
    outcome skipString ('\\'.toUInt8 :: 'u'.toUInt8 :: text) = outcome skipString behind := by
  obtain ⟨shorter, hread⟩ := outcome_eq_some_iff.1 hcode
  rw [outcome, skipString, if_neg (by decide), if_pos rfl]
  simp only [if_true, hread]
  rw [outcome]
  cases skipString behind <;> rfl

end

/-- **Every string is passed over**, whatever is behind it. -/
lemma StringText.outcome_eq {bytes : Bytes} (h : StringText bytes) (rest : Bytes) :
    outcome skipString (bytes ++ rest) = some ((), rest) := by
  induction h with
  | close =>
      rw [outcome, List.singleton_append, skipString.eq_def]
      rfl
  | plain plain _ ih => exact (outcome_skipString_plain plain).trans ih
  | short escape _ ih => exact (outcome_skipString_short escape).trans ih
  | code digits _ ih =>
      obtain ⟨n, hcode⟩ := exists_outcome_readHex_iff.2 ⟨_, _, _, _, rfl, digits⟩
      exact (outcome_skipString_code hcode).trans ih

/-- **A string is passed over** up to the quote that closes it. -/
lemma outcome_skipString_iff {text rest : Bytes} :
    outcome skipString text = some ((), rest) ↔
      ∃ bytes, text = bytes ++ rest ∧ StringText bytes := by
  constructor
  · have hsound : ∀ text taken, skipString text = .ok taken →
        ∃ bytes, text = bytes ++ taken.rest ∧ StringText bytes := by
      intro text
      fun_induction skipString text with
      | case2 rest =>
          rintro taken ⟨⟩
          exact ⟨_, rfl, .close⟩
      | case5 text n behind hbehind hhex taken htaken hslash ih =>
          rintro _ ⟨⟩
          obtain ⟨bytes, heq, hbytes⟩ := ih _ htaken
          obtain ⟨a, b, c, d, rfl, hdigits⟩ :=
            exists_outcome_readHex_iff.1 ⟨n, outcome_eq_some_iff.2 ⟨hbehind, hhex⟩⟩
          refine ⟨_, ?_, .code hdigits hbytes⟩
          exact congrArg (fun text => '\\'.toUInt8 :: 'u'.toUInt8 :: a :: b :: c :: d :: text) heq
      | case8 letter text hcode hshort taken htaken hslash ih =>
          rintro _ ⟨⟩
          obtain ⟨bytes, heq, hbytes⟩ := ih _ htaken
          refine ⟨'\\'.toUInt8 :: letter :: bytes, ?_, .short ?_ hbytes⟩
          · exact congrArg (fun text => '\\'.toUInt8 :: letter :: text) heq
          · simpa [Option.isSome_iff_ne_none] using hshort
      | case11 b text hquote hslash hcontrol taken htaken ih =>
          rintro _ ⟨⟩
          obtain ⟨bytes, heq, hbytes⟩ := ih _ htaken
          exact ⟨b :: bytes, congrArg (b :: ·) heq, .plain ⟨hquote, hslash, hcontrol⟩ hbytes⟩
      | _ =>
          rintro taken ⟨⟩
    intro hrun
    obtain ⟨shorter, hread⟩ := outcome_eq_some_iff.1 hrun
    exact hsound text _ hread
  · rintro ⟨bytes, rfl, hbytes⟩
    exact hbytes.outcome_eq rest

/-! ### Numbers -/

/-- Digits, and at least one of them. -/
def DigitsText (bytes : Bytes) : Prop := bytes ≠ [] ∧ Digits bytes

/-- The digits before the point.  None may follow a zero in front. -/
def WholeText (bytes : Bytes) : Prop :=
  DigitsText bytes ∧ (bytes.head? = some '0'.toUInt8 → bytes = ['0'.toUInt8])

/-- A point and digits, if there are any. -/
def FractionText (bytes : Bytes) : Prop :=
  bytes = [] ∨ ∃ digits, DigitsText digits ∧ bytes = '.'.toUInt8 :: digits

/-- A mark, a sign or none, and digits, if there are any. -/
def ExponentText (bytes : Bytes) : Prop :=
  bytes = [] ∨ ∃ mark sign digits, (mark = 'e'.toUInt8 ∨ mark = 'E'.toUInt8) ∧
    sign ∈ [[], ['+'.toUInt8], ['-'.toUInt8]] ∧ DigitsText digits ∧ bytes = mark :: (sign ++ digits)

/-- **The text of a number** without its sign. -/
def NumberText (bytes : Bytes) : Prop :=
  ∃ whole fraction exponent, WholeText whole ∧ FractionText fraction ∧ ExponentText exponent ∧
    bytes = whole ++ (fraction ++ exponent)

/-- The text that is left where part of a number has been passed over. -/
def passing (skip : (text : Bytes) → Except Fault { rest : Bytes // rest.length ≤ text.length })
    (text : Bytes) : Option Bytes :=
  (skip text).toOption.map (·.1)

/-- The text behind digits, of which there has to be one. -/
def behindDigits : Bytes → Option Bytes
  | [] => none
  | b :: rest => if isDigit b then some (rest.dropWhile isDigit) else none

section

variable {text rest digits fraction exponent : Bytes}

/-- Where digits are passed over, there is one at least. -/
lemma exists_of_behindDigits (h : behindDigits text = some rest) :
    ∃ digits, DigitsText digits ∧ text = digits ++ rest := by
  cases text with
  | nil => cases h
  | cons b text =>
      rw [behindDigits] at h
      split at h
      · next hb =>
          cases h
          refine ⟨b :: text.takeWhile isDigit, ⟨List.cons_ne_nil _ _, ?_⟩, ?_⟩
          · exact List.forall_mem_cons.2 ⟨hb, digits_takeWhile text⟩
          · rw [List.cons_append, List.takeWhile_append_dropWhile]
      · cases h

lemma behindDigits_append (h : DigitsText digits) (hrest : EndsDigits rest) :
    behindDigits (digits ++ rest) = some rest := by
  obtain ⟨hne, hdigits⟩ := h
  cases digits with
  | nil => exact absurd rfl hne
  | cons b digits =>
      obtain ⟨hb, hdigits⟩ := List.forall_mem_cons.1 hdigits
      rw [List.cons_append, behindDigits, if_pos hb, dropWhile_isDigit hdigits hrest]

/-- An exponent is passed over with its sign, if it has one. -/
lemma passing_skipExponent (text : Bytes) :
    passing skipExponent text =
      match text with
      | [] => none
      | b :: rest =>
        if b = '+'.toUInt8 ∨ b = '-'.toUInt8 then behindDigits rest
        else behindDigits (b :: rest) := by
  rw [passing, skipExponent.eq_def]
  cases text with
  | nil => rfl
  | cons b text =>
      dsimp only
      split
      · cases text with
        | nil => rfl
        | cons c text =>
            rw [behindDigits]
            by_cases hc : isDigit c = true <;> simp [hc, Except.map, Except.toOption]
      · rw [behindDigits]
        by_cases hb : isDigit b = true <;> simp [hb, Except.toOption]

/-- A scale is passed over with its mark, or there is none. -/
lemma passing_skipScale (text : Bytes) :
    passing skipScale text =
      match text with
      | [] => some []
      | b :: rest =>
        if b = 'e'.toUInt8 ∨ b = 'E'.toUInt8 then passing skipExponent rest
        else some (b :: rest) := by
  rw [passing, skipScale.eq_def]
  cases text with
  | nil => rfl
  | cons b text =>
      dsimp only
      split
      · rw [passing]
        cases skipExponent text <;> rfl
      · rfl

/-- What is passed over as an exponent is a sign, or none, and digits. -/
lemma exists_of_skipExponent (h : passing skipExponent text = some rest) :
    ∃ sign digits, sign ∈ [[], ['+'.toUInt8], ['-'.toUInt8]] ∧ DigitsText digits ∧
      text = sign ++ (digits ++ rest) := by
  rw [passing_skipExponent] at h
  cases text with
  | nil => cases h
  | cons b text =>
      dsimp only at h
      split at h
      · next hsign =>
          obtain ⟨digits, hdigits, rfl⟩ := exists_of_behindDigits h
          refine ⟨[b], digits, ?_, hdigits, rfl⟩
          rcases hsign with rfl | rfl <;> simp
      · obtain ⟨digits, hdigits, htext⟩ := exists_of_behindDigits h
        exact ⟨[], digits, by simp, hdigits, htext⟩

/-- A sign, or none, and digits are passed over as an exponent. -/
lemma passing_skipExponent_append {sign : Bytes}
    (hsign : sign ∈ [[], ['+'.toUInt8], ['-'.toUInt8]]) (hdigits : DigitsText digits)
    (hrest : EndsDigits rest) : passing skipExponent (sign ++ (digits ++ rest)) = some rest := by
  have hread := behindDigits_append hdigits hrest
  rw [passing_skipExponent]
  simp only [List.mem_cons, List.not_mem_nil, or_false] at hsign
  rcases hsign with rfl | rfl | rfl
  · obtain ⟨hne, hall⟩ := hdigits
    cases digits with
    | nil => exact absurd rfl hne
    | cons b digits =>
        have hb := hall b List.mem_cons_self
        have hplus : b ≠ '+'.toUInt8 := ne_of_isDigit hb (by decide)
        have hminus : b ≠ '-'.toUInt8 := ne_of_isDigit hb (by decide)
        exact (if_neg (not_or.2 ⟨hplus, hminus⟩)).trans hread
  · exact hread
  · exact hread

/-- What is passed over as a scale is the text of an exponent. -/
lemma exists_of_skipScale (h : passing skipScale text = some rest) :
    ∃ exponent, ExponentText exponent ∧ text = exponent ++ rest := by
  rw [passing_skipScale] at h
  cases text with
  | nil =>
      cases h
      exact ⟨[], .inl rfl, rfl⟩
  | cons b text =>
      dsimp only at h
      split at h
      · next hmark =>
          obtain ⟨sign, digits, hsign, hdigits, rfl⟩ := exists_of_skipExponent h
          exact ⟨b :: (sign ++ digits), .inr ⟨b, sign, digits, hmark, hsign, hdigits, rfl⟩, by simp⟩
      · cases h
        exact ⟨[], .inl rfl, rfl⟩

lemma passing_skipScale_append (h : ExponentText exponent) (hrest : EndsNumber rest) :
    passing skipScale (exponent ++ rest) = some rest := by
  rw [passing_skipScale]
  rcases h with rfl | ⟨mark, sign, digits, hmark, hsign, hdigits, rfl⟩
  · cases rest with
    | nil => rfl
    | cons b rest =>
        obtain ⟨-, -, hsmall, hlarge⟩ := hrest b rfl
        exact if_neg (not_or.2 ⟨hsmall, hlarge⟩)
  · rw [List.cons_append, List.append_assoc]
    exact (if_pos hmark).trans (passing_skipExponent_append hsign hdigits hrest.endsDigits)

/-- What is left of a text behind the digits before the point. -/
def behindWhole : Bytes → Option Bytes
  | [] => some []
  | b :: rest =>
    if b = '.'.toUInt8 then (behindDigits rest).bind (passing skipScale)
    else passing skipScale (b :: rest)

lemma behindDigits_eq (text : Bytes) :
    behindDigits text = if text.head?.any isDigit then some (text.dropWhile isDigit) else none := by
  cases text with
  | nil => rfl
  | cons b text =>
      by_cases hb : isDigit b = true <;> simp [behindDigits, hb]

/-- A number begins with a digit, and with zero only if no digit follows. -/
lemma outcome_skipNumber_cons {b : UInt8} (hb : isDigit b = true) :
    outcome skipNumber (b :: text) =
      if b = '0'.toUInt8 ∧ text.head?.any isDigit then none
      else (behindWhole (text.dropWhile isDigit)).map ((), ·) := by
  rw [outcome, skipNumber]
  simp only [hb, Bool.not_true, Bool.false_eq_true, if_false]
  split
  · rfl
  · split
    · next hnil => rw [hnil]; rfl
    · next c fraction hcons =>
        have hwhole : behindWhole (text.dropWhile isDigit) = behindWhole (c :: fraction) := by
          rw [hcons]
        rw [hwhole, behindWhole]
        split
        · rw [behindDigits_eq]
          split
          · next hdigit => simp [hdigit, Except.toOption]
          · next hdigit hscale => simp [hdigit, Except.toOption, passing, hscale]
          · next hdigit hscale => simp [hdigit, Except.toOption, passing, hscale]
        · rw [passing]
          cases skipScale (c :: fraction) <;> rfl

/-- What is passed over behind the digits of a number is a fraction and an exponent, or one of them,
or nothing. -/
lemma exists_of_behindWhole (h : behindWhole text = some rest) :
    ∃ fraction exponent, FractionText fraction ∧ ExponentText exponent ∧
      text = fraction ++ (exponent ++ rest) := by
  cases text with
  | nil =>
      cases h
      exact ⟨[], [], .inl rfl, .inl rfl, rfl⟩
  | cons b text =>
      rw [behindWhole] at h
      split at h
      · next hpoint =>
          obtain ⟨behind, hdigits, hscale⟩ := Option.bind_eq_some_iff.1 h
          obtain ⟨digits, hall, rfl⟩ := exists_of_behindDigits hdigits
          obtain ⟨exponent, hexponent, rfl⟩ := exists_of_skipScale hscale
          subst hpoint
          exact ⟨'.'.toUInt8 :: digits, exponent, .inr ⟨digits, hall, rfl⟩, hexponent, rfl⟩
      · obtain ⟨exponent, hexponent, htext⟩ := exists_of_skipScale h
        exact ⟨[], exponent, .inl rfl, hexponent, htext⟩

lemma ExponentText.endsDigits_append (h : ExponentText exponent) (hrest : EndsNumber rest) :
    EndsDigits (exponent ++ rest) := by
  rcases h with rfl | ⟨mark, sign, digits, hmark, -, -, rfl⟩
  · exact hrest.endsDigits
  · intro b hb
    obtain rfl := Option.some.inj hb
    rcases hmark with rfl | rfl <;> decide

lemma FractionText.endsDigits_append (h : FractionText fraction) (hexponent : ExponentText exponent)
    (hrest : EndsNumber rest) : EndsDigits (fraction ++ (exponent ++ rest)) := by
  rcases h with rfl | ⟨digits, -, rfl⟩
  · exact hexponent.endsDigits_append hrest
  · intro b hb
    obtain rfl := Option.some.inj hb
    decide

/-- A fraction and an exponent are passed over behind the digits of a number. -/
lemma behindWhole_append (hfraction : FractionText fraction) (hexponent : ExponentText exponent)
    (hrest : EndsNumber rest) : behindWhole (fraction ++ (exponent ++ rest)) = some rest := by
  have hscale := passing_skipScale_append hexponent hrest
  rcases hfraction with rfl | ⟨digits, hdigits, rfl⟩
  · rw [List.nil_append]
    cases htext : exponent ++ rest with
    | nil =>
        obtain ⟨-, rfl⟩ := List.append_eq_nil_iff.1 htext
        rfl
    | cons b text =>
        have hpoint : b ≠ '.'.toUInt8 := by
          rcases hexponent with rfl | ⟨mark, sign, digits, hmark, -, -, rfl⟩
          · exact (hrest b (congrArg List.head? htext)).2.1
          · obtain ⟨rfl, -⟩ := List.cons.inj htext
            rcases hmark with rfl | rfl <;> decide
        rw [behindWhole, if_neg hpoint, ← htext, hscale]
  · have hread := behindDigits_append hdigits (hexponent.endsDigits_append hrest)
    rw [List.cons_append, behindWhole, if_pos rfl, hread, Option.bind_some, hscale]

/-- **A number is passed over** as far as the text of one goes. -/
lemma exists_of_skipNumber (h : outcome skipNumber text = some ((), rest)) :
    ∃ bytes, text = bytes ++ rest ∧ NumberText bytes := by
  cases text with
  | nil => cases h
  | cons b text =>
      by_cases hb : isDigit b = true
      · rw [outcome_skipNumber_cons hb] at h
        split at h
        · cases h
        · next hzero =>
            obtain ⟨rest, hbehind, heq⟩ := Option.map_eq_some_iff.1 h
            cases heq
            obtain ⟨fraction, exponent, hfraction, hexponent, hdrop⟩ :=
              exists_of_behindWhole hbehind
            refine ⟨b :: text.takeWhile isDigit ++ (fraction ++ exponent), ?_,
              b :: text.takeWhile isDigit, fraction, exponent, ⟨⟨List.cons_ne_nil _ _, ?_⟩, ?_⟩,
              hfraction, hexponent, rfl⟩
            · rw [List.append_assoc, List.append_assoc, ← hdrop, List.cons_append,
                List.takeWhile_append_dropWhile]
            · exact List.forall_mem_cons.2 ⟨hb, digits_takeWhile text⟩
            · intro hhead
              obtain rfl := Option.some.inj hhead
              cases text with
              | nil => rfl
              | cons c text =>
                  have hc : isDigit c = false := by simpa using hzero
                  rw [List.takeWhile_cons, hc]
                  rfl
      · rw [outcome, skipNumber] at h
        simp [hb, Except.toOption] at h

/-- **Every number is passed over**, up to what ends it. -/
lemma NumberText.outcome_eq {bytes : Bytes} (h : NumberText bytes) (hrest : EndsNumber rest) :
    outcome skipNumber (bytes ++ rest) = some ((), rest) := by
  obtain ⟨whole, fraction, exponent, ⟨⟨hne, hdigits⟩, hzero⟩, hfraction, hexponent, rfl⟩ := h
  have hends := hfraction.endsDigits_append hexponent hrest
  cases whole with
  | nil => exact absurd rfl hne
  | cons b digits =>
      obtain ⟨hb, hdigits⟩ := List.forall_mem_cons.1 hdigits
      have hnot : ¬(b = '0'.toUInt8 ∧
          (digits ++ (fraction ++ (exponent ++ rest))).head?.any isDigit) := by
        rintro ⟨rfl, hany⟩
        obtain rfl := (List.cons.inj (hzero rfl)).2
        rw [head?_any_isDigit_append hends] at hany
        cases hany
      rw [List.append_assoc, List.append_assoc, List.cons_append, outcome_skipNumber_cons hb,
        if_neg hnot, dropWhile_isDigit hdigits hends, behindWhole_append hfraction hexponent hrest]
      rfl

end

/-! ### Scalars -/

/-- The bytes of a word. -/
def wordBytes (word : String) : Bytes := word.toList.map Char.toUInt8

/-- **The text of a scalar.** -/
inductive ScalarText : Bytes → Prop
  | word {word : String} (mem : word ∈ ["null", "true", "false"]) : ScalarText (wordBytes word)
  | string {bytes : Bytes} (string : StringText bytes) : ScalarText ('"'.toUInt8 :: bytes)
  | number {bytes : Bytes} (number : NumberText bytes) : ScalarText bytes
  | negative {bytes : Bytes} (number : NumberText bytes) : ScalarText ('-'.toUInt8 :: bytes)

lemma DigitsText.part {bytes : Bytes} (h : DigitsText bytes) : Part bytes :=
  ⟨h.1, blankless_of_digits h.2⟩

lemma FractionText.blankless {bytes : Bytes} (h : FractionText bytes) : Blankless bytes := by
  rcases h with rfl | ⟨digits, hdigits, rfl⟩
  · exact fun b hb => absurd hb List.not_mem_nil
  · exact (Part.cons rfl hdigits.part.2).2

lemma ExponentText.blankless {bytes : Bytes} (h : ExponentText bytes) : Blankless bytes := by
  rcases h with rfl | ⟨mark, sign, digits, hmark, hsign, hdigits, rfl⟩
  · exact fun b hb => absurd hb List.not_mem_nil
  · have hblank : isBlank mark = false := by rcases hmark with rfl | rfl <;> rfl
    have hsigned : Blankless sign := by
      simp only [List.mem_cons, List.not_mem_nil, or_false] at hsign
      rcases hsign with rfl | rfl | rfl <;> exact blankless_of_any rfl
    exact (Part.cons hblank (List.forall_mem_append.2 ⟨hsigned, hdigits.part.2⟩)).2

lemma NumberText.part {bytes : Bytes} (h : NumberText bytes) : Part bytes := by
  obtain ⟨whole, fraction, exponent, hwhole, hfraction, hexponent, rfl⟩ := h
  obtain ⟨hne, hblankless⟩ := hwhole.1.part
  refine ⟨List.append_ne_nil_of_left_ne_nil hne _, ?_⟩
  exact List.forall_mem_append.2 ⟨hblankless,
    List.forall_mem_append.2 ⟨hfraction.blankless, hexponent.blankless⟩⟩

lemma NumberText.exists_eq_cons {bytes : Bytes} (h : NumberText bytes) :
    ∃ b tail, bytes = b :: tail ∧ isDigit b = true := by
  obtain ⟨whole, fraction, exponent, ⟨⟨hne, hdigits⟩, -⟩, -, -, rfl⟩ := h
  cases whole with
  | nil => exact absurd rfl hne
  | cons b whole => exact ⟨b, _, rfl, hdigits b List.mem_cons_self⟩

/-- A scalar neither begins nor ends with a blank. -/
lemma ScalarText.core {bytes : Bytes} (h : ScalarText bytes) : Core bytes := by
  cases h with
  | @word word mem =>
      simp only [List.mem_cons, List.not_mem_nil, or_false] at mem
      rcases mem with rfl | rfl | rfl
      · exact ⟨⟨_, _, rfl, by decide⟩, Part.ends ⟨List.cons_ne_nil _ _, blankless_of_any rfl⟩⟩
      · exact ⟨⟨_, _, rfl, by decide⟩, Part.ends ⟨List.cons_ne_nil _ _, blankless_of_any rfl⟩⟩
      · exact ⟨⟨_, _, rfl, by decide⟩, Part.ends ⟨List.cons_ne_nil _ _, blankless_of_any rfl⟩⟩
  | string string =>
      exact ⟨⟨_, _, rfl, by decide, by decide, by decide⟩, string.ends.append ['"'.toUInt8]⟩
  | number number =>
      obtain ⟨b, tail, rfl, hb⟩ := number.exists_eq_cons
      exact ⟨begins_digit hb tail, number.part.ends⟩
  | negative number =>
      exact ⟨⟨_, _, rfl, by decide, by decide, by decide⟩, number.part.ends.append ['-'.toUInt8]⟩

/-! ### Sequences -/

/-- What is done behind an element that is passed over: nothing more where the sequence closes, and
the same again behind a comma. -/
def behindElement (closing : UInt8) (again : Bytes → Option (Unit × Bytes)) (text : Bytes) :
    Option (Unit × Bytes) :=
  match skipBlanks text with
  | [] => none
  | b :: rest =>
    if b = closing then some ((), rest) else if b = ','.toUInt8 then again rest else none

section

variable {α : Type} {run : Bytes → Option (α × Bytes)} {Element : Bytes → α → Prop}
  {closing : UInt8} {skip : Bytes → Option (Unit × Bytes)} {text rest : Bytes}

lemma behindElement_nil (hskip : skipBlanks text = []) :
    behindElement closing skip text = none := by
  rw [behindElement, hskip]

lemma behindElement_cons {b : UInt8} {tail : Bytes} (hskip : skipBlanks text = b :: tail) :
    behindElement closing skip text =
      if b = closing then some ((), tail) else if b = ','.toUInt8 then skip tail else none := by
  rw [behindElement, hskip]

/-- An element is the last one, or there are others behind a comma. -/
lemma behindElement_eq_some_iff (hclosing : Closing closing) :
    behindElement closing skip text = some ((), rest) ↔
      skipBlanks text = closing :: rest ∨
        ∃ next, skipBlanks text = ','.toUInt8 :: next ∧ skip next = some ((), rest) := by
  have hcomma : ','.toUInt8 ≠ closing := by rcases hclosing with rfl | rfl <;> decide
  cases hskip : skipBlanks text with
  | nil => simp [behindElement_nil hskip]
  | cons b tail =>
      rw [behindElement_cons hskip]
      by_cases hb : b = closing
      · subst hb
        simp [hcomma.symm]
      · by_cases hb' : b = ','.toUInt8
        · subst hb'
          simp [hb]
        · simp [hb, hb']

/-- **What is passed over element by element is a sequence of them.** -/
lemma eq_some_iff_exists_lists (h : Recognizes run Element) (hclosing : Closing closing)
    (hskip : ∀ text, skip text =
      (run text).bind fun taken => behindElement closing skip taken.2) :
    skip text = some ((), rest) ↔ ∃ xs, Lists run closing text xs rest := by
  constructor
  · induction hlength : text.length using Nat.strong_induction_on generalizing text with
    | _ length ih =>
        intro hread
        rw [hskip] at hread
        obtain ⟨⟨x, behind⟩, hx, hbehind⟩ := Option.bind_eq_some_iff.1 hread
        rcases (behindElement_eq_some_iff hclosing).1 hbehind with hclose | ⟨next, hcomma, hnext⟩
        · exact ⟨[x], .last hx hclose⟩
        · have hshorter := length_lt_of_skipBlanks hcomma
          have hlt : next.length < length := hlength ▸ Nat.lt_trans hshorter (h.shorter hx)
          obtain ⟨xs, hxs⟩ := ih _ hlt rfl hnext
          exact ⟨x :: xs, .more hx hcomma hxs⟩
  · rintro ⟨xs, hlists⟩
    induction hlists with
    | last read close =>
        rw [hskip, read]
        exact (behindElement_eq_some_iff hclosing).2 (.inl close)
    | more read comma others ih =>
        rw [hskip, read]
        exact (behindElement_eq_some_iff hclosing).2 (.inr ⟨_, comma, ih⟩)

end

section Sequences

variable {item value : Reader Unit} {text rest : Bytes}

/-- Items are passed over one after another. -/
lemma outcome_skipItems (item : Reader Unit) (text : Bytes) :
    outcome (skipItems item) text = (outcome item text).bind fun taken =>
      behindElement ']'.toUInt8 (outcome (skipItems item)) taken.2 := by
  cases hitem : item text with
  | error fault =>
      rw [outcome_of_error hitem, outcome, skipItems, hitem]
      rfl
  | ok taken =>
      obtain ⟨x, behind, hbehind⟩ := taken
      rw [outcome_of_ok hitem, Option.bind_some, outcome, skipItems, hitem]
      dsimp only
      split
      · next hnil => rw [behindElement_nil hnil]; rfl
      · next b next hcons =>
          rw [behindElement_cons hcons]
          split_ifs with hclose hcomma hcomma'
          · rfl
          · rfl
          · rw [outcome]
            cases skipItems item next <;> rfl
          · exact absurd (not_not.1 hcomma) hcomma'

/-- How a key is passed over. -/
def skipKey : Bytes → Option (Unit × Bytes)
  | [] => none
  | q :: text => if q = '"'.toUInt8 then outcome skipString text else none

/-- The text of a key. -/
def NameText (bytes : Bytes) (_ : Unit) : Prop :=
  ∃ tail, bytes = '"'.toUInt8 :: tail ∧ StringText tail

lemma skipKey_eq_some_iff :
    skipKey text = some ((), rest) ↔
      ∃ tail, text = '"'.toUInt8 :: tail ∧ outcome skipString tail = some ((), rest) := by
  cases text with
  | nil => simp [skipKey]
  | cons q tail =>
      by_cases hq : q = '"'.toUInt8 <;> simp [skipKey, hq]

/-- The keys that are passed over are strings. -/
lemma recognizesKey_skipKey : RecognizesKey skipKey NameText where
  quoted := by
    rintro bytes key ⟨tail, rfl, -⟩
    exact ⟨tail, rfl⟩
  iff := by
    intro text key rest
    rw [skipKey_eq_some_iff]
    constructor
    · rintro ⟨tail, rfl, hskip⟩
      obtain ⟨bytes, rfl, hbytes⟩ := outcome_skipString_iff.1 hskip
      exact ⟨'"'.toUInt8 :: bytes, rfl, bytes, rfl, hbytes⟩
    · rintro ⟨bytes, rfl, tail, rfl, htail⟩
      exact ⟨tail ++ rest, rfl, htail.outcome_eq rest⟩

lemma colon?_of_error {fault : Fault} (h : expectColon text = .error fault) :
    colon? text = none := by
  refine Option.eq_none_iff_forall_ne_some.2 fun rest hcolon => ?_
  obtain ⟨shorter, hread⟩ := expectColon_eq_ok_iff.2 (colon?_eq_some_iff.1 hcolon)
  cases h.symm.trans hread

/-- Members are passed over one after another. -/
lemma outcome_skipMembers (value : Reader Unit) (text : Bytes) :
    outcome (skipMembers value) text =
      (member skipKey (fun _ => outcome value) text).bind fun taken =>
        behindElement '\x7d'.toUInt8 (outcome (skipMembers value)) taken.2 := by
  have hkey : ∀ {q tail}, skipBlanks text = q :: tail →
      member skipKey (fun _ => outcome value) text =
        (skipKey (q :: tail)).bind fun taken => (colon? taken.2).bind fun behind =>
          (outcome value behind).map (Prod.map (taken.1, ·) id) := by
    intro q tail hcons
    rw [member, hcons]
  rw [outcome, skipMembers.eq_def]
  split
  · next hnil =>
      rw [member, hnil]
      rfl
  · next q tail hcons =>
      rw [hkey hcons, skipKey]
      split_ifs with hquote hquote'
      · rfl
      · cases hstring : skipString tail with
        | error fault => rw [outcome_of_error hstring]; rfl
        | ok taken =>
            obtain ⟨x, afterKey, hafter⟩ := taken
            rw [outcome_of_ok hstring, Option.bind_some]
            dsimp only
            cases hcolon : expectColon afterKey with
            | error fault => rw [colon?_of_error hcolon]; rfl
            | ok taken =>
                obtain ⟨afterColon, hshorter⟩ := taken
                rw [colon?_eq_some_iff.2 (expectColon_eq_ok_iff.1 ⟨hshorter, hcolon⟩),
                  Option.bind_some]
                dsimp only
                cases hvalue : value afterColon with
                | error fault => rw [outcome_of_error hvalue]; rfl
                | ok taken =>
                    obtain ⟨y, behind, hbehind⟩ := taken
                    rw [outcome_of_ok hvalue, Option.map_some, Option.bind_some]
                    dsimp only [Prod.map, id]
                    split
                    · next hnil => rw [behindElement_nil hnil]; rfl
                    · next b next hcons =>
                        rw [behindElement_cons hcons]
                        split_ifs with hclose hcomma hcomma'
                        · rfl
                        · rfl
                        · rw [outcome]
                          cases skipMembers value next <;> rfl
                        · exact absurd (not_not.1 hcomma) hcomma'
      · exact absurd (not_not.1 hquote) hquote'

/-- **An array is passed over** up to the bracket that closes it, if its items are there. -/
lemma outcome_skipArray_iff {Element : Bytes → Unit → Prop}
    (h : Recognizes (outcome item) Element) :
    outcome (skipArray item) text = some ((), rest) ↔
      ∃ units inner, text = inner ++ ']'.toUInt8 :: rest ∧ Enclosed Element inner units := by
  have hinside : outcome (skipArray item) text = insideBrackets (fun _ : List Unit => ())
      ']'.toUInt8 (fun _ => outcome (skipItems item) text) text := by
    unfold outcome skipArray
    split
    · next hnil => rw [insideBrackets_nil hnil]; rfl
    · next b tail hcons =>
        rw [insideBrackets_cons hcons]
        split <;> rfl
  rw [hinside, insideBrackets_eq_some_iff h (.inl rfl)]
  · simp only [true_and]
  · simp only [true_and]
    exact eq_some_iff_exists_lists h (.inl rfl) (outcome_skipItems item)

/-- **An object is passed over** up to the brace that closes it, if its members are there. -/
lemma outcome_skipObject_iff {Member : Bytes → Unit × Unit → Prop}
    (h : Recognizes (member skipKey fun _ => outcome value) Member) :
    outcome (skipObject value) text = some ((), rest) ↔
      ∃ units inner, text = inner ++ '\x7d'.toUInt8 :: rest ∧ Enclosed Member inner units := by
  have hinside : outcome (skipObject value) text = insideBrackets (fun _ : List (Unit × Unit) => ())
      '\x7d'.toUInt8 (fun _ => outcome (skipMembers value) text) text := by
    unfold outcome skipObject
    split
    · next hnil => rw [insideBrackets_nil hnil]; rfl
    · next b tail hcons =>
        rw [insideBrackets_cons hcons]
        split <;> rfl
  rw [hinside, insideBrackets_eq_some_iff h (.inr rfl)]
  · simp only [true_and]
  · simp only [true_and]
    exact eq_some_iff_exists_lists h (.inr rfl) (outcome_skipMembers value)

end Sequences

/-! ### Values -/

/-- **The text of an array or of an object** of values with these texts. -/
inductive ContainerText (Value : Bytes → Unit → Prop) (bytes : Bytes) : Prop
  | array {units : List Unit} (items : Bracketed '['.toUInt8 ']'.toUInt8 Value bytes units)
  | object {units : List (Unit × Unit)}
      (members : Bracketed '\x7b'.toUInt8 '\x7d'.toUInt8 (MemberText NameText fun _ => Value) bytes
        units)

/-- The text of a value without blanks in front, in which at most `depth` arrays and objects are
nested. -/
def CoreText : Nat → Bytes → Unit → Prop
  | 0, bytes, _ => ScalarText bytes
  | depth + 1, bytes, _ => ScalarText bytes ∨ ContainerText (Padded (CoreText depth)) bytes

/-- The text of a value, in which at most `depth` arrays and objects are nested. -/
def ValueText (depth : Nat) : Bytes → Unit → Prop := Padded (CoreText depth)

/-- **The text of a value**, as deep as it may be. -/
def IsJson (bytes : Bytes) : Prop := ∃ depth, ValueText depth bytes ()

lemma ScalarText.coreText {bytes : Bytes} (h : ScalarText bytes) (depth : Nat) :
    CoreText depth bytes () := by
  cases depth with
  | zero => exact h
  | succ depth => exact .inl h

lemma CoreText.core {depth : Nat} {bytes : Bytes} {x : Unit} (h : CoreText depth bytes x) :
    Core bytes := by
  cases depth with
  | zero => exact ScalarText.core h
  | succ depth =>
      rcases h with hscalar | ⟨items⟩ | ⟨members⟩
      · exact hscalar.core
      · exact items.core (by decide) (by decide)
      · exact members.core (by decide) (by decide)

/-- Only the bytes of its value count in a member. -/
lemma MemberText.imp {α κ : Type} {Key : Bytes → κ → Prop} {Value Value' : κ → Bytes → α → Prop}
    {bytes : Bytes} {found : κ × α} (h : MemberText Key Value bytes found)
    (himp : ∀ key value x, value.length ≤ bytes.length → Value key value x → Value' key value x) :
    MemberText Key Value' bytes found := by
  obtain ⟨blanks, key, gap, value, hblanks, hkey, hgap, hvalue, rfl⟩ := h
  have hle : value.length ≤ (blanks ++ (key ++ (gap ++ ':'.toUInt8 :: value))).length := by
    simp only [List.length_append, List.length_cons]
    omega
  exact ⟨blanks, key, gap, value, hblanks, hkey, hgap, himp _ _ _ hle hvalue, rfl⟩

/-- A text cannot nest deeper than it is long. -/
lemma CoreText.of_length_le {depth depth' : Nat} {bytes : Bytes} {x : Unit}
    (h : CoreText depth bytes x) (hle : bytes.length ≤ depth') : CoreText depth' bytes x := by
  induction depth generalizing depth' bytes x with
  | zero => exact ScalarText.coreText h depth'
  | succ depth ih =>
      cases depth' with
      | zero =>
          obtain rfl := List.length_eq_zero_iff.1 (Nat.le_zero.1 hle)
          obtain ⟨first, tail, hcons, -⟩ := h.core.1
          cases hcons
      | succ depth' =>
          have hvalue : ∀ value (x : Unit), value.length ≤ depth' →
              Padded (CoreText depth) value x → Padded (CoreText depth') value x := by
            rintro _ x hle ⟨blanks, core, hblanks, hcore, rfl⟩
            rw [List.length_append] at hle
            exact ⟨blanks, core, hblanks, ih hcore (Nat.le_trans (Nat.le_add_left ..) hle), rfl⟩
          have hinner : ∀ {opening closing inner}, bytes = opening :: (inner ++ [closing]) →
              inner.length ≤ depth' := by
            rintro opening closing inner rfl
            simp only [List.length_cons, List.length_append] at hle
            omega
          rcases h with hscalar | ⟨inner, hitems, htext⟩ | ⟨inner, hmembers, htext⟩
          · exact hscalar.coreText (depth' + 1)
          · refine .inr (.array ⟨inner, hitems.imp fun item x hitem => ?_, htext⟩)
            exact hvalue item x (hitem.trans (hinner htext))
          · refine .inr (.object ⟨inner, hmembers.imp fun part x hpart hmember => ?_, htext⟩)
            exact hmember.imp fun _ value x hle =>
              hvalue value x (hle.trans (hpart.trans (hinner htext)))

/-- The first character tells what is passed over. -/
lemma outcome_skipNested (depth : Nat) {text tail : Bytes} {first : UInt8}
    (hskip : skipBlanks text = first :: tail) :
    outcome (skipNested depth) text =
      if first = '"'.toUInt8 then outcome skipString tail
      else if first = '-'.toUInt8 then outcome skipNumber tail
      else if isDigit first then outcome skipNumber (first :: tail)
      else if first = '['.toUInt8 then
        match depth with
        | 0 => none
        | depth + 1 => outcome (skipArray (skipNested depth)) tail
      else if first = '\x7b'.toUInt8 then
        match depth with
        | 0 => none
        | depth + 1 => outcome (skipObject (skipNested depth)) tail
      else (scalar first tail).join.map (Prod.map (fun _ => ()) id) := by
  unfold outcome
  rw [skipNested.eq_def]
  split
  · next hnil => cases hnil.symm.trans hskip
  · next b tail' hcons =>
      obtain ⟨rfl, rfl⟩ := List.cons.inj (hcons.symm.trans hskip)
      dsimp only
      split_ifs
      · cases skipString tail' <;> rfl
      · cases skipNumber tail' <;> rfl
      · cases skipNumber (b :: tail') <;> rfl
      · cases depth with
        | zero => rfl
        | succ depth => dsimp only; cases skipArray (skipNested depth) tail' <;> rfl
      · cases depth with
        | zero => rfl
        | succ depth => dsimp only; cases skipObject (skipNested depth) tail' <;> rfl
      · rw [scalar]
        rcases readScalar? b tail' with _ | (fault | ⟨value, behind, hs⟩) <;> rfl

/-! ### Values that are passed over -/

section

variable {depth : Nat} {text tail rest : Bytes} {first : UInt8}

/-- The rest of a word behind its first letter. -/
lemma exists_word_of_scalar {x : Json} (hquote : first ≠ '"'.toUInt8) (hminus : first ≠ '-'.toUInt8)
    (hdigit : ¬isDigit first) (h : (scalar first tail).join = some (x, rest)) :
    ∃ word ∈ ["null", "true", "false"], first :: tail = wordBytes word ++ rest := by
  rw [scalar_eq, if_neg hquote, if_neg hminus, if_neg hdigit] at h
  split_ifs at h with hn ht hf
  · obtain ⟨-, rfl⟩ := word_eq_some_iff.1 h
    exact ⟨"null", by simp, hn ▸ rfl⟩
  · obtain ⟨-, rfl⟩ := word_eq_some_iff.1 h
    exact ⟨"true", by simp, ht ▸ rfl⟩
  · obtain ⟨-, rfl⟩ := word_eq_some_iff.1 h
    exact ⟨"false", by simp, hf ▸ rfl⟩
  · cases h

lemma outcome_skipNested_word (first : UInt8) (letters : String) (value : Json)
    (hfirst : first ≠ '"'.toUInt8 ∧ first ≠ '-'.toUInt8 ∧ ¬isDigit first ∧ first ≠ '['.toUInt8 ∧
      first ≠ '\x7b'.toUInt8)
    (hscalar : ∀ tail, scalar first tail = some (word letters value tail))
    (hskip : skipBlanks text = first :: (letters.toList.map Char.toUInt8 ++ rest)) :
    outcome (skipNested depth) text = some ((), rest) := by
  obtain ⟨hquote, hminus, hdigit, hbracket, hbrace⟩ := hfirst
  rw [outcome_skipNested depth hskip, if_neg hquote, if_neg hminus, if_neg hdigit,
    if_neg hbracket, if_neg hbrace, hscalar, word_eq_some_iff.2 ⟨rfl, rfl⟩]
  rfl

/-- **Every scalar is passed over** as a value. -/
lemma ScalarText.outcome_skipNested {bytes : Bytes} (h : ScalarText bytes) (hrest : EndsNumber rest)
    (hskip : skipBlanks text = bytes ++ rest) :
    outcome (skipNested depth) text = some ((), rest) := by
  cases h with
  | @word word mem =>
      simp only [List.mem_cons, List.not_mem_nil, or_false] at mem
      rcases mem with rfl | rfl | rfl
      · exact outcome_skipNested_word 'n'.toUInt8 "ull" .null (by decide)
          (fun tail => by rw [scalar_eq]; rfl) hskip
      · exact outcome_skipNested_word 't'.toUInt8 "rue" (.bool true) (by decide)
          (fun tail => by rw [scalar_eq]; rfl) hskip
      · exact outcome_skipNested_word 'f'.toUInt8 "alse" (.bool false) (by decide)
          (fun tail => by rw [scalar_eq]; rfl) hskip
  | string string =>
      rw [SchemaCheck.Json.outcome_skipNested depth hskip, if_pos rfl]
      exact string.outcome_eq rest
  | number number =>
      obtain ⟨b, tail, rfl, hb⟩ := number.exists_eq_cons
      rw [SchemaCheck.Json.outcome_skipNested depth hskip, if_neg (ne_of_isDigit hb (by decide)),
        if_neg (ne_of_isDigit hb (by decide)), if_pos hb]
      exact number.outcome_eq hrest
  | negative number =>
      rw [SchemaCheck.Json.outcome_skipNested depth hskip, if_neg (by decide), if_pos rfl]
      exact number.outcome_eq hrest

/-- What has been passed over is the text of a value. -/
lemma exists_coreText_of_skipNested
    (h : ∀ lower, depth = lower + 1 → Recognizes (outcome (skipNested lower)) (ValueText lower))
    (hskip : skipBlanks text = first :: tail)
    (hrun : outcome (skipNested depth) text = some ((), rest)) :
    ∃ core, first :: tail = core ++ rest ∧ CoreText depth core () := by
  rw [outcome_skipNested depth hskip] at hrun
  split_ifs at hrun with hquote hminus hdigit hbracket hbrace
  · obtain ⟨bytes, rfl, hbytes⟩ := outcome_skipString_iff.1 hrun
    exact ⟨first :: bytes, rfl, hquote ▸ (ScalarText.string hbytes).coreText depth⟩
  · obtain ⟨bytes, rfl, hbytes⟩ := exists_of_skipNumber hrun
    exact ⟨first :: bytes, rfl, hminus ▸ (ScalarText.negative hbytes).coreText depth⟩
  · obtain ⟨bytes, hcons, hbytes⟩ := exists_of_skipNumber hrun
    exact ⟨bytes, hcons, (ScalarText.number hbytes).coreText depth⟩
  · cases depth with
    | zero => cases hrun
    | succ lower =>
        obtain ⟨units, inner, rfl, hinner⟩ := (outcome_skipArray_iff (h lower rfl)).1 hrun
        exact ⟨first :: (inner ++ [']'.toUInt8]), by simp,
          .inr (.array ⟨inner, hinner, hbracket ▸ rfl⟩)⟩
  · cases depth with
    | zero => cases hrun
    | succ lower =>
        have hmember := recognizes_member recognizesKey_skipKey fun _ => h lower rfl
        obtain ⟨units, inner, rfl, hinner⟩ := (outcome_skipObject_iff hmember).1 hrun
        exact ⟨first :: (inner ++ ['\x7d'.toUInt8]), by simp,
          .inr (.object ⟨inner, hinner, hbrace ▸ rfl⟩)⟩
  · obtain ⟨⟨x, rest'⟩, hscalar, heq⟩ := Option.map_eq_some_iff.1 hrun
    cases heq
    obtain ⟨word, hword, htext⟩ := exists_word_of_scalar hquote hminus hdigit hscalar
    exact ⟨_, htext, (ScalarText.word hword).coreText depth⟩

/-- The text of a value is passed over. -/
lemma outcome_skipNested_of_coreText
    (h : ∀ lower, depth = lower + 1 → Recognizes (outcome (skipNested lower)) (ValueText lower))
    {core : Bytes} {x : Unit} (hcore : CoreText depth core x) (hrest : EndsNumber rest)
    (hskip : skipBlanks text = core ++ rest) :
    outcome (skipNested depth) text = some ((), rest) := by
  cases depth with
  | zero => exact ScalarText.outcome_skipNested hcore hrest hskip
  | succ lower =>
      have hvalue := h lower rfl
      rcases hcore with hscalar | ⟨inner, hitems, rfl⟩ | ⟨inner, hmembers, rfl⟩
      · exact hscalar.outcome_skipNested hrest hskip
      · rw [outcome_skipNested _ hskip, if_neg (by decide), if_neg (by decide),
          if_neg (by decide), if_pos rfl]
        exact (outcome_skipArray_iff hvalue).2 ⟨_, inner, by simp, hitems⟩
      · have hmember := recognizes_member recognizesKey_skipKey fun _ => hvalue
        rw [outcome_skipNested _ hskip, if_neg (by decide), if_neg (by decide),
          if_neg (by decide), if_neg (by decide), if_pos rfl]
        exact (outcome_skipObject_iff hmember).2 ⟨_, inner, by simp, hmembers⟩

/-- **One level of values**: what is passed over at a depth is known from what is passed over one
level deeper. -/
lemma recognizes_skipNested_of
    (h : ∀ lower, depth = lower + 1 → Recognizes (outcome (skipNested lower)) (ValueText lower)) :
    Recognizes (outcome (skipNested depth)) (ValueText depth) := by
  refine recognizes_padded CoreText.core (fun {text} hskip => ?_)
    (exists_coreText_of_skipNested h) (outcome_skipNested_of_coreText h)
  unfold outcome
  rw [skipNested.eq_def]
  split
  · rfl
  · next hcons => cases hskip.symm.trans hcons

end

/-- **What is passed over is the text of a value**, by induction on the number of arrays and objects
that may be nested. -/
theorem recognizes_skipNested (depth : Nat) :
    Recognizes (outcome (skipNested depth)) (ValueText depth) := by
  induction depth with
  | zero => exact recognizes_skipNested_of fun _ h => absurd h (Nat.succ_ne_zero _).symm
  | succ depth ih => exact recognizes_skipNested_of fun _ h => Nat.succ.inj h ▸ ih

/-- **A value is passed over**, however deep it may be. -/
theorem recognizes_skipValue :
    Recognizes (outcome skipValue) fun bytes (_ : Unit) => IsJson bytes where
  solid := by
    rintro bytes x ⟨depth, hvalue⟩
    exact (recognizes_skipNested depth).solid hvalue
  sound := by
    intro text x rest hrun
    obtain ⟨bytes, htext, hvalue⟩ := (recognizes_skipNested text.length).sound hrun
    exact ⟨bytes, htext, text.length, hvalue⟩
  complete := by
    rintro _ x rest ⟨depth, blanks, core, hblanks, hcore, rfl⟩ hrest
    have hle : core.length ≤ (blanks ++ core ++ rest).length := by
      simp only [List.length_append]
      omega
    exact (recognizes_skipNested _).complete ⟨blanks, core, hblanks, hcore.of_length_le hle, rfl⟩
      hrest

end SchemaCheck.Json
