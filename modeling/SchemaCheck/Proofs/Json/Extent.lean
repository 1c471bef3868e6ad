import Mathlib.Tactic.Common
import SchemaCheck.Proofs.Json.Numeral
import SchemaCheck.Proofs.Json.Recognition

/-!
# The extent of a value

What is read of a value depends on its own bytes alone.  Only the end of a number has to be told by
what follows it.

* `Severs`: what a run takes off the front of a text, it takes in the same way off any other text
  that begins with these bytes.  The readers of the parts of a number and of a string do so, from
  the innermost one outwards (`severs_readNumber`, `severs_readString`).
* `recognizes_readValue`: so do the readers of values, by induction on the number of arrays and
  objects that may be nested.  The texts that they recognize are those that they read whole.
* `readAll_eq_ok_iff`: a whole text is read if it is such a text with blanks behind it.
* `readText_append_return_eq_ok_iff`: a carriage return at its end is of no account.
-/

namespace SchemaCheck.Json

variable {α : Type}

/-! ### Runs -/

/-- **What the run takes depends on the bytes it takes.**  They have the property, and they are
taken off the front of any text that goes on behind them with what ends a number. -/
def Severs (P : Bytes → Prop) (run : Bytes → Option (α × Bytes)) : Prop :=
  ∀ ⦃text x rest⦄, run text = some (x, rest) → ∃ bytes, text = bytes ++ rest ∧ P bytes ∧
    ∀ rest', EndsNumber rest' → run (bytes ++ rest') = some (x, rest')

/-- Such a run recognizes what it takes alone. -/
lemma Severs.recognizes {run : Bytes → Option (α × Bytes)} (h : Severs Solid run) :
    Recognizes run fun bytes x => run bytes = some (x, []) where
  solid hrun := by
    obtain ⟨bytes, rfl, hsolid, -⟩ := h hrun
    rwa [List.append_nil]
  sound hrun := by
    obtain ⟨bytes, rfl, -, hbytes⟩ := h hrun
    have hread := hbytes [] endsNumber_nil
    rw [List.append_nil] at hread
    exact ⟨bytes, rfl, hread⟩
  complete hrun hrest := by
    obtain ⟨bytes, rfl, -, hbytes⟩ := h hrun
    rw [List.append_nil]
    exact hbytes _ hrest

/-! ### Numbers -/

section Numbers

variable {negative down : Bool} {significand dropped : Nat} {exponent : Int}

/-- No blank is among the bytes. -/
def Blankless (bytes : Bytes) : Prop := ∀ b ∈ bytes, isBlank b = false

lemma blankless_of_any {bytes : Bytes} (h : bytes.any isBlank = false) : Blankless bytes :=
  fun b hb => Bool.eq_false_iff.2 (List.any_eq_false.1 h b hb)

lemma blankless_of_digits {digits : Bytes} (h : Digits digits) : Blankless digits := by
  intro b hb
  by_contra hblank
  have hdigit := h b hb
  simp only [isBlank, Bool.or_eq_true, beq_iff_eq, Bool.not_eq_false] at hblank
  rcases hblank with ((rfl | rfl) | rfl) | rfl <;> cases hdigit

lemma digits_takeWhile (text : Bytes) : Digits (text.takeWhile isDigit) :=
  fun _ h => List.mem_takeWhile_imp h

lemma endsDigits_dropWhile (text : Bytes) : EndsDigits (text.dropWhile isDigit) := by
  intro b hb
  by_contra hdigit
  have hnot := List.head?_dropWhile_not isDigit text
  rw [hb] at hnot
  simp_all

/-- What ends digits still does if other bytes follow it. -/
lemma EndsDigits.append_congr {bytes rest rest' : Bytes} (h : EndsDigits (bytes ++ rest))
    (hrest : EndsDigits rest') : EndsDigits (bytes ++ rest') := by
  cases bytes with
  | nil => exact hrest
  | cons b bytes => exact h

/-- A part of a number. -/
def Part (bytes : Bytes) : Prop := bytes ≠ [] ∧ Blankless bytes

lemma Part.cons {bytes : Bytes} {b : UInt8} (hb : isBlank b = false) (h : Blankless bytes) :
    Part (b :: bytes) :=
  ⟨List.cons_ne_nil _ _, List.forall_mem_cons.2 ⟨hb, h⟩⟩

/-- A part of a text that begins with a byte begins with it too. -/
lemma Part.exists_eq_cons {bytes text rest : Bytes} {b : UInt8} (h : Part bytes)
    (htext : b :: text = bytes ++ rest) : ∃ tail, bytes = b :: tail := by
  cases bytes with
  | nil => exact absurd rfl h.1
  | cons c tail =>
      obtain ⟨rfl, -⟩ := List.cons.inj htext
      exact ⟨tail, rfl⟩

/-- The digits of an exponent are taken as far as they go. -/
lemma severs_readExponentDigits :
    Severs Part (outcome (readExponentDigits negative significand exponent down)) := by
  intro text x rest hrun
  cases text with
  | nil => cases hrun
  | cons b text =>
      by_cases hb : isDigit b = true
      · have hdigits := digits_takeWhile text
        rw [outcome_readExponentDigits_cons hb] at hrun
        obtain ⟨y, hy, heq⟩ := Option.map_eq_some_iff.1 hrun
        cases heq
        refine ⟨b :: text.takeWhile isDigit, by simp, ⟨List.cons_ne_nil _ _, ?_⟩,
          fun rest' hrest' => ?_⟩
        · exact blankless_of_digits (List.forall_mem_cons.2 ⟨hb, hdigits⟩)
        · rw [List.cons_append, outcome_readExponentDigits_cons hb,
            takeWhile_isDigit hdigits hrest'.endsDigits,
            dropWhile_isDigit hdigits hrest'.endsDigits, hy]
          rfl
      · rw [outcome, readExponentDigits] at hrun
        simp [hb, Except.toOption] at hrun

/-- An exponent is read behind its sign, if it has one. -/
lemma outcome_readExponent_cons (b : UInt8) (text : Bytes) :
    outcome (readExponent negative significand exponent) (b :: text) =
      if b = '+'.toUInt8 ∨ b = '-'.toUInt8 then
        outcome (readExponentDigits negative significand exponent (b = '-'.toUInt8)) text
      else outcome (readExponentDigits negative significand exponent false) (b :: text) := by
  rw [outcome, readExponent]
  split
  · rw [outcome]
    cases readExponentDigits negative significand exponent (b = '-'.toUInt8) text <;> rfl
  · rfl

/-- An exponent is taken with its sign. -/
lemma severs_readExponent :
    Severs Part (outcome (readExponent negative significand exponent)) := by
  intro text x rest hrun
  cases text with
  | nil => cases hrun
  | cons b text =>
      rw [outcome_readExponent_cons] at hrun
      split at hrun
      · next hsign =>
          have hblank : isBlank b = false := by rcases hsign with rfl | rfl <;> rfl
          obtain ⟨bytes, rfl, hpart, hbytes⟩ := severs_readExponentDigits hrun
          refine ⟨b :: bytes, rfl, .cons hblank hpart.2, fun rest' hrest' => ?_⟩
          rw [List.cons_append, outcome_readExponent_cons, if_pos hsign, hbytes rest' hrest']
      · next hsign =>
          obtain ⟨bytes, htext, hpart, hbytes⟩ := severs_readExponentDigits hrun
          obtain ⟨tail, rfl⟩ := hpart.exists_eq_cons htext
          refine ⟨b :: tail, htext, hpart, fun rest' hrest' => ?_⟩
          rw [List.cons_append, outcome_readExponent_cons, if_neg hsign, ← List.cons_append,
            hbytes rest' hrest']

/-- A scale is an exponent behind its mark, or nothing. -/
lemma leaving_readScale_cons (b : UInt8) (text : Bytes) :
    leaving (readScale negative significand exponent) (b :: text) =
      if b = 'e'.toUInt8 ∨ b = 'E'.toUInt8 then
        outcome (readExponent negative significand exponent) text
      else (assembled? negative significand exponent).map (·, b :: text) := by
  rw [leaving, readScale]
  split
  · rw [outcome]
    cases readExponent negative significand exponent text <;> rfl
  · rw [← toOption_assemble _ _ _ (b :: text)]
    cases assemble negative significand exponent (b :: text) <;> rfl

/-- A scale is taken with its mark, or nothing is. -/
lemma severs_readScale :
    Severs Blankless (leaving (readScale negative significand exponent)) := by
  intro text x rest hrun
  have hnothing : ∀ {text}, (assembled? negative significand exponent).map (·, text) =
      some (x, rest) → ∃ bytes, text = bytes ++ rest ∧ Blankless bytes ∧ ∀ rest', EndsNumber rest' →
        leaving (readScale negative significand exponent) (bytes ++ rest') = some (x, rest') := by
    intro text hassembled
    obtain ⟨y, hy, heq⟩ := Option.map_eq_some_iff.1 hassembled
    cases heq
    refine ⟨[], rfl, fun b hb => absurd hb List.not_mem_nil, fun rest' hrest' => ?_⟩
    rw [List.nil_append, leaving_readScale_of_endsNumber _ _ _ hrest', hy]
    rfl
  cases text with
  | nil =>
      rw [leaving_readScale_of_endsNumber _ _ _ endsNumber_nil] at hrun
      exact hnothing hrun
  | cons b text =>
      rw [leaving_readScale_cons] at hrun
      split at hrun
      · next hmark =>
          have hblank : isBlank b = false := by rcases hmark with rfl | rfl <;> rfl
          obtain ⟨bytes, rfl, hpart, hbytes⟩ := severs_readExponent hrun
          refine ⟨b :: bytes, rfl, (Part.cons hblank hpart.2).2, fun rest' hrest' => ?_⟩
          rw [List.cons_append, leaving_readScale_cons, if_pos hmark, hbytes rest' hrest']
      · exact hnothing hrun

/-- A fraction is taken with the scale behind it. -/
lemma severs_readFraction :
    Severs Blankless (outcome (readFraction negative significand exponent)) := by
  intro text x rest hrun
  cases text with
  | nil => cases hrun
  | cons b text =>
      by_cases hb : isDigit b = true
      · have hdigits := digits_takeWhile text
        rcases hgather : gather significandLimit significand (b :: text.takeWhile isDigit) with
          ⟨longer, unread⟩
        rw [outcome_readFraction_cons hb hgather] at hrun
        obtain ⟨bytes, hbehind, hblankless, hbytes⟩ := severs_readScale hrun
        have hends := hbehind ▸ endsDigits_dropWhile text
        refine ⟨b :: text.takeWhile isDigit ++ bytes, ?_, ?_, fun rest' hrest' => ?_⟩
        · rw [List.append_assoc, ← hbehind, List.cons_append, List.takeWhile_append_dropWhile]
        · exact List.forall_mem_append.2
            ⟨blankless_of_digits (List.forall_mem_cons.2 ⟨hb, hdigits⟩), hblankless⟩
        · have hends' := hends.append_congr hrest'.endsDigits
          have htake := takeWhile_isDigit hdigits hends'
          rw [List.append_assoc, List.cons_append,
            outcome_readFraction_cons hb (htake.symm ▸ hgather), htake,
            dropWhile_isDigit hdigits hends', hbytes rest' hrest']
      · rw [outcome, readFraction] at hrun
        simp [hb, Except.toOption] at hrun

/-- The number of digits alone, of which `dropped` are not in the significand. -/
def ended? (negative : Bool) (significand dropped : Nat) : Option Number :=
  if dropped = 0 then some (integer negative significand)
  else assembled? negative significand dropped

/-- A number without fraction and exponent ends where its digits do. -/
lemma leaving_readTail_of_unmarked {text : Bytes}
    (h : ∀ b ∈ text.head?, b ≠ '.'.toUInt8 ∧ b ≠ 'e'.toUInt8 ∧ b ≠ 'E'.toUInt8) :
    leaving (readTail negative significand dropped) text =
      (ended? negative significand dropped).map (·, text) := by
  by_cases hdropped : dropped = 0
  · rw [ended?, if_pos hdropped, leaving]
    cases text with
    | nil =>
        rw [readTail, if_pos hdropped]
        rfl
    | cons b text =>
        obtain ⟨hpoint, hsmall, hlarge⟩ := h b rfl
        rw [readTail, if_neg hpoint, if_neg (by simp [hsmall, hlarge, hdropped])]
        rfl
  · rw [ended?, if_neg hdropped, leaving_readTail_of_scale _ _ hdropped fun b hb => (h b hb).1,
      ← toOption_assemble _ _ _ text, leaving]
    cases text with
    | nil => rw [readScale]; cases assemble negative significand dropped [] <;> rfl
    | cons b text =>
        obtain ⟨-, hsmall, hlarge⟩ := h b rfl
        rw [readScale, if_neg (not_or.2 ⟨hsmall, hlarge⟩)]
        cases assemble negative significand dropped (b :: text) <;> rfl

lemma leaving_readTail_point (text : Bytes) :
    leaving (readTail negative significand dropped) ('.'.toUInt8 :: text) =
      outcome (readFraction negative significand dropped) text := by
  rw [leaving, readTail, if_pos rfl, outcome]
  cases readFraction negative significand dropped text <;> rfl

lemma leaving_readTail_mark {b : UInt8} (hb : b = 'e'.toUInt8 ∨ b = 'E'.toUInt8) (text : Bytes) :
    leaving (readTail negative significand dropped) (b :: text) =
      outcome (readExponent negative significand dropped) text := by
  have hpoint : b ≠ '.'.toUInt8 := by rcases hb with rfl | rfl <;> decide
  rw [leaving, readTail, if_neg hpoint, if_pos (hb.imp_right .inl)]
  exact (leaving_readScale_cons b text).trans (if_pos hb)

/-- What follows the digits of a number is taken as far as it belongs to it. -/
lemma severs_readTail :
    Severs Blankless (leaving (readTail negative significand dropped)) := by
  intro text x rest hrun
  by_cases hmarked : ∀ b ∈ text.head?, b ≠ '.'.toUInt8 ∧ b ≠ 'e'.toUInt8 ∧ b ≠ 'E'.toUInt8
  · rw [leaving_readTail_of_unmarked hmarked] at hrun
    obtain ⟨y, hy, heq⟩ := Option.map_eq_some_iff.1 hrun
    cases heq
    refine ⟨[], rfl, fun b hb => absurd hb List.not_mem_nil, fun rest' hrest' => ?_⟩
    rw [List.nil_append, leaving_readTail_of_unmarked fun b hb => (hrest' b hb).2, hy]
    rfl
  · cases text with
    | nil => exact absurd (fun b hb => by cases hb) hmarked
    | cons b text =>
        by_cases hpoint : b = '.'.toUInt8
        · subst hpoint
          rw [leaving_readTail_point] at hrun
          obtain ⟨bytes, rfl, hblankless, hbytes⟩ := severs_readFraction hrun
          refine ⟨'.'.toUInt8 :: bytes, rfl, (Part.cons rfl hblankless).2, fun rest' hrest' => ?_⟩
          rw [List.cons_append, leaving_readTail_point, hbytes rest' hrest']
        · have hmark : b = 'e'.toUInt8 ∨ b = 'E'.toUInt8 := by
            by_contra hneither
            refine hmarked fun c hc => ?_
            obtain rfl := Option.some.inj hc
            exact ⟨hpoint, not_or.1 hneither⟩
          have hblank : isBlank b = false := by rcases hmark with rfl | rfl <;> rfl
          rw [leaving_readTail_mark hmark] at hrun
          obtain ⟨bytes, rfl, hpart, hbytes⟩ := severs_readExponent hrun
          refine ⟨b :: bytes, rfl, (Part.cons hblank hpart.2).2, fun rest' hrest' => ?_⟩
          rw [List.cons_append, leaving_readTail_mark hmark, hbytes rest' hrest']

/-- **A number is read up to its end**, and what follows it only tells where that is. -/
theorem severs_readNumber : Severs Part (outcome (readNumber negative)) := by
  intro text x rest hrun
  cases text with
  | nil => cases hrun
  | cons b text =>
      by_cases hb : isDigit b = true
      · by_cases hzero : b = '0'.toUInt8 ∧ text.head?.any isDigit
        · rw [outcome, readNumber, if_neg (by simp [hb]), if_pos hzero] at hrun
          cases hrun
        · have hdigits := digits_takeWhile text
          rcases hgather : gather significandLimit 0 (b :: text.takeWhile isDigit) with
            ⟨significand, unread⟩
          rw [outcome_readNumber_cons hb hzero hgather] at hrun
          obtain ⟨bytes, hbehind, hblankless, hbytes⟩ := severs_readTail hrun
          have htext : text = text.takeWhile isDigit ++ (bytes ++ rest) := by
            rw [← hbehind, List.takeWhile_append_dropWhile]
          have hends := hbehind ▸ endsDigits_dropWhile text
          refine ⟨b :: text.takeWhile isDigit ++ bytes, ?_, ⟨by simp, ?_⟩, fun rest' hrest' => ?_⟩
          · rw [List.append_assoc, List.cons_append, ← htext]
          · exact List.forall_mem_append.2
              ⟨blankless_of_digits (List.forall_mem_cons.2 ⟨hb, hdigits⟩), hblankless⟩
          · have hends' := hends.append_congr hrest'.endsDigits
            have htake := takeWhile_isDigit hdigits hends'
            have hzero' : ¬(b = '0'.toUInt8 ∧
                (text.takeWhile isDigit ++ (bytes ++ rest')).head?.any isDigit) := by
              rw [head?_any_isDigit_append hends']
              rwa [htext, head?_any_isDigit_append hends] at hzero
            rw [List.append_assoc, List.cons_append,
              outcome_readNumber_cons hb hzero' (htake.symm ▸ hgather),
              dropWhile_isDigit hdigits hends', hbytes rest' hrest']
      · rw [outcome, readNumber] at hrun
        simp [hb, Except.toOption] at hrun

end Numbers

/-! ### Strings -/

/-- A run that takes the same bytes off the front of any text that begins with them. -/
def Cuts (P : Bytes → Prop) (run : Bytes → Option (α × Bytes)) : Prop :=
  ∀ ⦃text x rest⦄, run text = some (x, rest) → ∃ bytes, text = bytes ++ rest ∧ P bytes ∧
    ∀ rest', run (bytes ++ rest') = some (x, rest')

lemma Cuts.severs {P : Bytes → Prop} {run : Bytes → Option (α × Bytes)} (h : Cuts P run) :
    Severs P run := by
  intro text x rest hrun
  obtain ⟨bytes, htext, hP, hbytes⟩ := h hrun
  exact ⟨bytes, htext, hP, fun rest' _ => hbytes rest'⟩

/-- The four digits of a code are taken whatever follows. -/
lemma cuts_readHex : Cuts (fun _ => True) (outcome readHex) := by
  intro text n rest hrun
  obtain ⟨shorter, hread⟩ := outcome_eq_some_iff.1 hrun
  unfold readHex at hread
  split at hread
  · next a b c d tail =>
      split at hread
      · next digits hdigits =>
          cases hread
          refine ⟨[a, b, c, d], rfl, trivial, fun rest' => ?_⟩
          rw [outcome]
          simp only [List.cons_append, List.nil_append, readHex, hdigits]
          rfl
      · cases hread
  · cases hread

/-- A code is taken whatever follows, and a surrogate with the one that follows it. -/
lemma cuts_readUnicodeEscape : Cuts (fun _ => True) (outcome readUnicodeEscape) := by
  intro text c rest hrun
  obtain ⟨shorter, hread⟩ := outcome_eq_some_iff.1 hrun
  unfold readUnicodeEscape at hread
  split at hread
  · cases hread
  · next high behind hbehind hhigh =>
      obtain ⟨bytes, htext, -, hbytes⟩ := cuts_readHex (outcome_eq_some_iff.2 ⟨hbehind, hhigh⟩)
      split_ifs at hread with hlone hplain
      · cases hread
        refine ⟨bytes, htext, trivial, fun rest' => ?_⟩
        obtain ⟨hshorter, hcode⟩ := outcome_eq_some_iff.1 (hbytes rest')
        rw [outcome, readUnicodeEscape, hcode]
        simp only [if_neg hlone, if_pos hplain]
        rfl
      · -- The second half follows.
        split at hread
        · cases hread
        · split_ifs at hread with hslash
          split at hread
          · cases hread
          · split_ifs at hread with hletter
            split at hread
            · cases hread
            · next low behind' hbehind' hlow =>
                split_ifs at hread with hrange
                obtain ⟨hc, rfl⟩ := Taken.mk.inj (Except.ok.inj hread)
                obtain ⟨bytes', rfl, -, hbytes'⟩ :=
                  cuts_readHex (outcome_eq_some_iff.2 ⟨hbehind', hlow⟩)
                obtain rfl := not_not.1 hslash
                obtain rfl := not_not.1 hletter
                refine ⟨bytes ++ '\\'.toUInt8 :: 'u'.toUInt8 :: bytes', by simp [htext], trivial,
                  fun rest' => ?_⟩
                obtain ⟨hshorter, hcode⟩ := outcome_eq_some_iff.1
                  (hbytes ('\\'.toUInt8 :: 'u'.toUInt8 :: (bytes' ++ rest')))
                obtain ⟨hshorter', hcode'⟩ := outcome_eq_some_iff.1 (hbytes' rest')
                rw [List.append_assoc, List.cons_append, List.cons_append, outcome,
                  readUnicodeEscape, hcode]
                simp only [if_neg hlone, if_neg hplain, ne_eq, not_true_eq_false, if_false, hcode',
                  if_neg hrange, hc]
                rfl

/-- An escape is taken whatever follows. -/
lemma cuts_readEscape : Cuts (fun _ => True) (outcome readEscape) := by
  intro text c rest hrun
  obtain ⟨shorter, hread⟩ := outcome_eq_some_iff.1 hrun
  unfold readEscape at hread
  split at hread
  · cases hread
  · next letter behind =>
      split_ifs at hread with hletter
      · split at hread
        · next taken hcode =>
            obtain ⟨c', rest', hrest⟩ := taken
            cases hread
            obtain ⟨bytes, rfl, -, hbytes⟩ :=
              cuts_readUnicodeEscape (outcome_eq_some_iff.2 ⟨hrest, hcode⟩)
            refine ⟨letter :: bytes, rfl, trivial, fun rest' => ?_⟩
            obtain ⟨hshorter, hcode'⟩ := outcome_eq_some_iff.1 (hbytes rest')
            rw [List.cons_append, outcome, readEscape, if_pos hletter, hcode']
            rfl
        · cases hread
      · split at hread
        · next c' hshort =>
            cases hread
            refine ⟨[letter], rfl, trivial, fun rest' => ?_⟩
            exact outcome_eq_some_iff.2 (yields_escape_short hletter hshort rest')
        · cases hread

/-- Behind a backslash the content of a string goes on behind the escape. -/
lemma outcome_readContent_escape {text behind : Bytes} {c : Char}
    (h : outcome readEscape text = some (c, behind)) :
    outcome readContent ('\\'.toUInt8 :: text) =
      (outcome readContent behind).map (Prod.map (String.utf8EncodeChar c ++ ·) id) := by
  obtain ⟨shorter, hescape⟩ := outcome_eq_some_iff.1 h
  rw [outcome, readContent, if_neg (by decide), if_pos rfl, hescape, outcome]
  dsimp only
  cases readContent behind <;> rfl

lemma outcome_readContent_plain {b : UInt8} (hb : Plain b) (text : Bytes) :
    outcome readContent (b :: text) = (outcome readContent text).map (Prod.map (b :: ·) id) := by
  obtain ⟨hquote, hslash, hcontrol⟩ := hb
  rw [outcome, readContent, if_neg hquote, if_neg hslash, if_neg hcontrol, outcome]
  cases readContent text <;> rfl

/-- The quote that closes a string comes last. -/
lemma cuts_readContent : Cuts Ends (outcome readContent) := by
  have hcuts : ∀ text taken, readContent text = .ok taken → ∃ bytes, text = bytes ++ taken.rest ∧
      Ends bytes ∧ ∀ rest', outcome readContent (bytes ++ rest') = some (taken.value, rest') := by
    intro text
    fun_induction readContent text with
    | case2 rest =>
        rintro taken ⟨⟩
        exact ⟨['"'.toUInt8], rfl, ⟨[], _, rfl, rfl⟩,
          fun rest' => outcome_eq_some_iff.2 (yields_content_end rest')⟩
    | case5 text c behind hbehind hescape content rest hrest hcontent hslash ih =>
        rintro taken ⟨⟩
        obtain ⟨escape, rfl, -, hescape'⟩ :=
          cuts_readEscape (outcome_eq_some_iff.2 ⟨hbehind, hescape⟩)
        obtain ⟨bytes, hbytes, hends, hcontent'⟩ := ih _ hcontent
        refine ⟨'\\'.toUInt8 :: (escape ++ bytes), ?_, hends.append ('\\'.toUInt8 :: escape),
          fun rest' => ?_⟩
        · rw [List.cons_append, List.append_assoc, ← hbytes]
        · rw [List.cons_append, List.append_assoc,
            outcome_readContent_escape (hescape' (bytes ++ rest')), hcontent' rest']
          rfl
    | case8 b text hquote hslash hcontrol content rest hrest hcontent ih =>
        rintro taken ⟨⟩
        obtain ⟨bytes, hbytes, hends, hcontent'⟩ := ih _ hcontent
        refine ⟨b :: bytes, congrArg (b :: ·) hbytes, hends.append [b], fun rest' => ?_⟩
        rw [List.cons_append, outcome_readContent_plain ⟨hquote, hslash, hcontrol⟩,
          hcontent' rest']
        rfl
    | _ =>
        rintro taken ⟨⟩
  intro text content rest hrun
  obtain ⟨shorter, hread⟩ := outcome_eq_some_iff.1 hrun
  exact hcuts text _ hread

/-- A string is read as bytes, which then have to be a text. -/
lemma outcome_readString (text : Bytes) :
    outcome readString text = (outcome readContent text).bind fun taken =>
      (decode? taken.1).map (·, taken.2) := by
  rw [outcome, readString, outcome]
  cases readContent text with
  | error fault => rfl
  | ok taken =>
      dsimp only [Except.toOption, Option.map_some, Option.bind_some]
      cases decode? taken.value <;> rfl

/-- **A string is read up to the quote that closes it**, whatever follows. -/
theorem cuts_readString : Cuts Ends (outcome readString) := by
  intro text s rest hrun
  rw [outcome_readString] at hrun
  obtain ⟨⟨content, rest⟩, hcontent, hdecode⟩ := Option.bind_eq_some_iff.1 hrun
  obtain ⟨s', hs, heq⟩ := Option.map_eq_some_iff.1 hdecode
  cases heq
  obtain ⟨bytes, htext, hends, hbytes⟩ := cuts_readContent hcontent
  refine ⟨bytes, htext, hends, fun rest' => ?_⟩
  rw [outcome_readString, hbytes rest']
  exact congrArg (Option.map (·, rest')) hs

/-- The text of a key that is read as this one. -/
def KeyText (bytes : Bytes) (key : String) : Prop := outcome readKey bytes = some (key, [])

lemma outcome_readKey_quote (text : Bytes) :
    outcome readKey ('"'.toUInt8 :: text) = outcome readString text := by
  unfold outcome readKey
  simp only [ne_eq, not_true_eq_false, if_false]
  cases readString text <;> rfl

lemma cuts_readKey : Cuts (fun _ => True) (outcome readKey) := by
  intro text key rest hrun
  obtain ⟨tail, rfl, hstring⟩ := readKey_eq_ok_iff.1 hrun
  obtain ⟨bytes, rfl, -, hbytes⟩ := cuts_readString hstring
  refine ⟨'"'.toUInt8 :: bytes, rfl, trivial, fun rest' => ?_⟩
  rw [List.cons_append, outcome_readKey_quote, hbytes rest']

/-- **A key is read up to the quote that closes it.** -/
lemma recognizesKey_readKey : RecognizesKey (outcome readKey) KeyText where
  quoted hkey := by
    obtain ⟨tail, rfl, -⟩ := readKey_eq_ok_iff.1 hkey
    exact ⟨tail, rfl⟩
  iff := by
    intro text key rest
    constructor
    · intro hrun
      obtain ⟨bytes, rfl, -, hbytes⟩ := cuts_readKey hrun
      have hread := hbytes []
      rw [List.append_nil] at hread
      exact ⟨bytes, rfl, hread⟩
    · rintro ⟨bytes, rfl, hread⟩
      obtain ⟨bytes', hbytes', -, hcuts⟩ := cuts_readKey hread
      rw [List.append_nil] at hbytes'
      exact hbytes' ▸ hcuts rest

/-! ### Values -/

/-- A word is expected letter by letter. -/
lemma expectWord_eq_ok_iff {word text rest : Bytes} :
    (∃ h, expectWord word text = .ok ⟨rest, h⟩) ↔ text = word ++ rest := by
  induction word generalizing text with
  | nil =>
      rw [expectWord, untouched, List.nil_append]
      constructor
      · rintro ⟨h, heq⟩
        cases heq
        rfl
      · rintro rfl
        exact ⟨Nat.le_refl _, rfl⟩
  | cons c word ih =>
      cases text with
      | nil => simp [expectWord]
      | cons b text =>
          rw [expectWord]
          by_cases hb : b = c
          · rw [if_pos hb, List.cons_append, List.cons.injEq, ← ih]
            constructor
            · rintro ⟨h, heq⟩
              split at heq
              · next hword =>
                  cases heq
                  exact ⟨hb, _, hword⟩
              · cases heq
            · rintro ⟨-, h, heq⟩
              rw [heq]
              exact ⟨_, rfl⟩
          · rw [if_neg hb, List.cons_append, List.cons.injEq]
            simp [hb]

/-- What is read of the rest of a word. -/
def word (letters : String) (value : Json) (text : Bytes) : Option (Json × Bytes) :=
  (readWord letters value text).toOption.map fun taken => (taken.1, taken.2.1)

/-- A word stands for its value, and only that word does. -/
lemma word_eq_some_iff {letters : String} {value x : Json} {text rest : Bytes} :
    word letters value text = some (x, rest) ↔
      x = value ∧ text = letters.toList.map Char.toUInt8 ++ rest := by
  rw [← expectWord_eq_ok_iff, word, readWord]
  cases hword : expectWord (letters.toList.map Char.toUInt8) text with
  | error fault => simp [Except.map, Except.toOption]
  | ok taken =>
      obtain ⟨rest', hrest⟩ := taken
      simp only [Except.map, Except.toOption, Option.map_some, Option.some.injEq, Prod.mk.injEq]
      constructor
      · rintro ⟨rfl, rfl⟩
        exact ⟨rfl, hrest, rfl⟩
      · rintro ⟨rfl, h, heq⟩
        cases heq
        exact ⟨rfl, rfl⟩

/-- The first character tells which scalar is read. -/
lemma scalar_eq (first : UInt8) (text : Bytes) :
    scalar first text =
      if first = 'n'.toUInt8 then some (word "ull" .null text)
      else if first = 't'.toUInt8 then some (word "rue" (.bool true) text)
      else if first = 'f'.toUInt8 then some (word "alse" (.bool false) text)
      else if first = '"'.toUInt8 then
        some ((outcome readString text).map (Prod.map .string id))
      else if first = '-'.toUInt8 then
        some ((outcome (readNumber true) text).map (Prod.map .number id))
      else if isDigit first then
        some ((outcome (readNumber false) (first :: text)).map (Prod.map .number id))
      else none := by
  rw [scalar, readScalar?]
  split_ifs
  · rfl
  · rfl
  · rfl
  · rw [outcome]
    cases readString text <;> rfl
  · rw [outcome]
    cases readNumber true text <;> rfl
  · rw [outcome]
    cases readNumber false (first :: text) <;> rfl
  · rfl

lemma Severs.imp {P Q : Bytes → Prop} {run : Bytes → Option (α × Bytes)} (h : Severs P run)
    (himp : ∀ bytes, P bytes → Q bytes) : Severs Q run := by
  intro text x rest hrun
  obtain ⟨bytes, htext, hP, hbytes⟩ := h hrun
  exact ⟨bytes, htext, himp bytes hP, hbytes⟩

lemma Severs.congr {P : Bytes → Prop} {run run' : Bytes → Option (α × Bytes)} (h : Severs P run)
    (hrun : ∀ text, run' text = run text) : Severs P run' :=
  (funext hrun : run' = run) ▸ h

/-- What is made of a value changes nothing in the bytes that are taken. -/
lemma Severs.map {β : Type} {P : Bytes → Prop} {run : Bytes → Option (α × Bytes)}
    (h : Severs P run) (f : α → β) : Severs P fun text => (run text).map (Prod.map f id) := by
  intro text y rest hrun
  obtain ⟨⟨x, rest⟩, hx, heq⟩ := Option.map_eq_some_iff.1 hrun
  cases heq
  obtain ⟨bytes, htext, hP, hbytes⟩ := h hx
  refine ⟨bytes, htext, hP, fun rest' hrest' => ?_⟩
  simp only [hbytes rest' hrest']
  rfl

/-- What is read from a given byte on depends on the bytes behind it. -/
lemma Severs.behind {P : Bytes → Prop} {run : Bytes → Option (α × Bytes)} (h : Severs P run)
    (hP : ∀ bytes, P bytes → bytes ≠ []) (first : UInt8) :
    Severs (fun bytes => P (first :: bytes)) fun text => run (first :: text) := by
  intro text x rest hrun
  obtain ⟨bytes, htext, hbytes, hsame⟩ := h hrun
  cases bytes with
  | nil => exact absurd rfl (hP _ hbytes)
  | cons b bytes =>
      obtain ⟨rfl, rfl⟩ := List.cons.inj htext
      exact ⟨bytes, rfl, hbytes, hsame⟩

lemma severs_word (letters : String) (value : Json) :
    Severs (fun bytes => bytes = letters.toList.map Char.toUInt8) (word letters value) := by
  intro text x rest hrun
  obtain ⟨rfl, rfl⟩ := word_eq_some_iff.1 hrun
  exact ⟨_, rfl, rfl, fun rest' _ => word_eq_some_iff.2 ⟨rfl, rfl⟩⟩

lemma Part.ends {bytes : Bytes} (h : Part bytes) : Ends bytes :=
  ⟨bytes.dropLast, bytes.getLast h.1, (List.dropLast_append_getLast h.1).symm,
    h.2 _ (List.getLast_mem h.1)⟩

/-- **A scalar is read up to its end.** -/
lemma severs_scalar (first : UInt8) :
    Severs (fun bytes => Core (first :: bytes))
      fun text => (scalar first text).join := by
  simp only [scalar_eq]
  split_ifs with hn ht hf hquote hminus hdigit
  · refine (severs_word "ull" .null).imp ?_
    rintro _ rfl
    subst hn
    exact ⟨⟨_, _, rfl, by decide⟩, ['n'.toUInt8, 'u'.toUInt8, 'l'.toUInt8], _, rfl, by decide⟩
  · refine (severs_word "rue" (.bool true)).imp ?_
    rintro _ rfl
    subst ht
    exact ⟨⟨_, _, rfl, by decide⟩, ['t'.toUInt8, 'r'.toUInt8, 'u'.toUInt8], _, rfl, by decide⟩
  · refine (severs_word "alse" (.bool false)).imp ?_
    rintro _ rfl
    subst hf
    exact ⟨⟨_, _, rfl, by decide⟩, ['f'.toUInt8, 'a'.toUInt8, 'l'.toUInt8, 's'.toUInt8], _, rfl,
      by decide⟩
  · refine (cuts_readString.severs.map Json.string).imp fun bytes hends => ?_
    subst hquote
    exact ⟨⟨_, _, rfl, by decide⟩, hends.append ['"'.toUInt8]⟩
  · refine (severs_readNumber.map Json.number).imp fun bytes hpart => ?_
    subst hminus
    exact ⟨⟨_, _, rfl, by decide⟩, hpart.ends.append ['-'.toUInt8]⟩
  · have hnumber := (@severs_readNumber false).behind
      (fun bytes (hpart : Part bytes) => hpart.1) first
    exact (hnumber.map Json.number).imp fun bytes hpart => ⟨begins_digit hdigit bytes, hpart.ends⟩
  · intro text x rest hrun
    cases hrun

lemma outcome_readValue_nil (depth : Nat) {text : Bytes} (hskip : skipBlanks text = []) :
    outcome (readValue depth) text = none := by
  unfold outcome readValue
  split
  · rfl
  · next hcons => cases hskip.symm.trans hcons

/-- A value may have blanks in front. -/
lemma blind_readValue (depth : Nat) : Blind (outcome (readValue depth)) := by
  intro text
  have hskip := skipBlanks_skipBlanks text
  cases hbytes : skipBlanks text with
  | nil => rw [outcome_readValue_nil depth rfl, outcome_readValue_nil depth hbytes]
  | cons b tail =>
      rw [hbytes] at hskip
      rw [outcome_readValue depth hbytes, outcome_readValue depth hskip]

/-- **The bytes spell the value**, in which at most `depth` arrays and objects are nested: alone,
they are read whole. -/
def Spells (depth : Nat) (bytes : Bytes) (value : Json) : Prop :=
  outcome (readValue depth) bytes = some (value, [])

/-- The text of a member of an object. -/
def MemberSpells (depth : Nat) : Bytes → String × Json → Prop :=
  MemberText KeyText fun _ => Spells depth

lemma recognizes_member_of_severs {depth : Nat} (h : Severs Solid (outcome (readValue depth))) :
    Recognizes (member (outcome readKey) fun _ => outcome (readValue depth)) (MemberSpells depth) :=
  recognizes_member recognizesKey_readKey fun _ => h.recognizes

/-- The bracket that closes comes last. -/
lemma cuts_of_closing {closing : UInt8} (hclosing : Closing closing)
    {run : Bytes → Option (α × Bytes)} {Inside : Bytes → α → Prop}
    (h : ∀ {text x rest}, run text = some (x, rest) ↔
      ∃ inner, text = inner ++ closing :: rest ∧ Inside inner x) : Cuts Ends run := by
  intro text x rest hrun
  obtain ⟨inner, rfl, hinner⟩ := h.1 hrun
  refine ⟨inner ++ [closing], by simp, ⟨inner, closing, rfl, ?_⟩, fun rest' => ?_⟩
  · rcases hclosing with rfl | rfl <;> rfl
  · exact h.2 ⟨inner, by simp, hinner⟩

/-- What follows a value's first byte, and what is read of it. -/
lemma severs_readValue_cons {depth : Nat}
    (h : ∀ lower, depth = lower + 1 → Severs Solid (outcome (readValue lower))) {first : UInt8}
    (hfirst : isBlank first = false) :
    Severs (fun bytes => Core (first :: bytes))
      fun tail => outcome (readValue depth) (first :: tail) := by
  have hvalue := fun tail => outcome_readValue depth (skipBlanks_cons hfirst tail)
  simp only [hvalue]
  by_cases hbracket : first = '['.toUInt8
  · subst hbracket
    cases depth with
    | zero =>
        rintro text x rest ⟨⟩
    | succ lower =>
        have hcuts := cuts_of_closing (.inl rfl)
          (outcome_readArray_iff (h lower rfl).recognizes (blind_readValue lower))
        exact (hcuts.severs.map Json.array).imp fun bytes hends =>
          ⟨⟨_, _, rfl, by decide⟩, hends.append ['['.toUInt8]⟩
  · by_cases hbrace : first = '\x7b'.toUInt8
    · subst hbrace
      cases depth with
      | zero =>
          rintro text x rest ⟨⟩
      | succ lower =>
          have hcuts := cuts_of_closing (.inr rfl)
            (outcome_readObject_iff (recognizes_member_of_severs (h lower rfl)))
          exact (hcuts.severs.map fun members => Json.object (ofPairs members)).imp
            fun bytes hends => ⟨⟨_, _, rfl, by decide⟩, hends.append ['\x7b'.toUInt8]⟩
    · simp only [if_neg hbracket, if_neg hbrace]
      refine (severs_scalar first).congr fun tail => ?_
      cases scalar first tail <;> rfl

lemma isBlank_of_skipBlanks {text rest : Bytes} {b : UInt8} (h : skipBlanks text = b :: rest) :
    isBlank b = false := by
  have hnot := List.head?_dropWhile_not isBlank text
  have hhead : (text.dropWhile isBlank).head? = some b := congrArg List.head? h
  rw [hhead] at hnot
  simpa using hnot

/-- **One level of values**: what is taken of a value is known from what is taken of values one
level deeper. -/
lemma severs_readValue_of {depth : Nat}
    (h : ∀ lower, depth = lower + 1 → Severs Solid (outcome (readValue lower))) :
    Severs Solid (outcome (readValue depth)) := by
  intro text x rest hrun
  cases hskip : skipBlanks text with
  | nil =>
      rw [outcome_readValue_nil depth hskip] at hrun
      cases hrun
  | cons first tail =>
      have hfirst := isBlank_of_skipBlanks hskip
      obtain ⟨blanks, hblanks, rfl⟩ := exists_blanks_of_skipBlanks hskip
      rw [← blind_readValue, hskip] at hrun
      obtain ⟨bytes, rfl, hcore, hbytes⟩ := severs_readValue_cons h hfirst hrun
      refine ⟨blanks ++ first :: bytes, by simp, ⟨blanks, _, hblanks, hcore, rfl⟩,
        fun rest' hrest' => ?_⟩
      rw [List.append_assoc, List.cons_append, ← blind_readValue,
        skipBlanks_append hblanks, skipBlanks_cons hfirst]
      exact hbytes rest' hrest'

/-- **What is read of a value depends on its own bytes**, however deep it may be. -/
theorem severs_readValue (depth : Nat) : Severs Solid (outcome (readValue depth)) := by
  induction depth with
  | zero => exact severs_readValue_of fun _ h => absurd h (Nat.succ_ne_zero _).symm
  | succ depth ih => exact severs_readValue_of fun _ h => Nat.succ.inj h ▸ ih

/-- **The reader of values recognizes the bytes that spell a value.** -/
theorem recognizes_readValue (depth : Nat) :
    Recognizes (outcome (readValue depth)) (Spells depth) :=
  (severs_readValue depth).recognizes

/-! ### Whole texts -/

lemma expectEnd_eq_ok_iff {text : Bytes} : expectEnd text = .ok () ↔ Blanks text := by
  have hnil : skipBlanks text = [] ↔ Blanks text := List.dropWhile_eq_nil_iff
  rw [← hnil, expectEnd]
  cases skipBlanks text <;> simp

/-- A text is read as a whole exactly if nothing but blanks is left of it. -/
lemma readAll_eq_ok_iff_exists {reader : Reader α} {text : Bytes} {x : α} :
    readAll reader text = .ok x ↔ ∃ rest, outcome reader text = some (x, rest) ∧ Blanks rest := by
  simp only [← expectEnd_eq_ok_iff, readAll, outcome]
  cases reader text with
  | error fault => simp [Except.toOption]
  | ok taken =>
      cases hend : expectEnd taken.rest <;> simp [Except.toOption, hend]

/-- **A whole text is read** if it is a text of the language with blanks behind it. -/
theorem readAll_eq_ok_iff {reader : Reader α} {Language : Bytes → α → Prop}
    (h : Recognizes (outcome reader) Language) {text : Bytes} {x : α} :
    readAll reader text = .ok x ↔
      ∃ bytes blanks, Language bytes x ∧ Blanks blanks ∧ text = bytes ++ blanks := by
  rw [readAll_eq_ok_iff_exists]
  constructor
  · rintro ⟨blanks, hrun, hblanks⟩
    obtain ⟨bytes, rfl, hbytes⟩ := h.sound hrun
    exact ⟨bytes, blanks, hbytes, hblanks, rfl⟩
  · rintro ⟨bytes, blanks, hbytes, hblanks, rfl⟩
    have hends := endsNumber_blanks hblanks endsNumber_nil
    rw [List.append_nil] at hends
    exact ⟨blanks, h.complete hbytes hends, hblanks⟩

/-- A blank at the end of a text is of no account. -/
theorem readAll_append_blank_eq_ok_iff {reader : Reader α} {Language : Bytes → α → Prop}
    (h : Recognizes (outcome reader) Language) {text : Bytes} {x : α} {b : UInt8}
    (hb : isBlank b = true) :
    readAll reader (text ++ [b]) = .ok x ↔ readAll reader text = .ok x := by
  rw [readAll_eq_ok_iff h, readAll_eq_ok_iff h]
  constructor
  · rintro ⟨bytes, blanks, hbytes, hblanks, heq⟩
    rcases List.eq_nil_or_concat' blanks with rfl | ⟨blanks, c, rfl⟩
    · obtain ⟨init, last, rfl, hlast⟩ := (h.solid hbytes).ends
      rw [List.append_nil] at heq
      obtain ⟨-, hlast'⟩ := List.append_inj' heq rfl
      rw [List.singleton_inj.1 hlast', hlast] at hb
      cases hb
    · rw [← List.append_assoc] at heq
      obtain ⟨rfl, -⟩ := List.append_inj' heq rfl
      exact ⟨bytes, blanks, hbytes, (List.forall_mem_append.1 hblanks).1, rfl⟩
  · rintro ⟨bytes, blanks, hbytes, hblanks, rfl⟩
    refine ⟨bytes, blanks ++ [b], hbytes, ?_, List.append_assoc ..⟩
    exact List.forall_mem_append.2 ⟨hblanks, List.forall_mem_singleton.2 hb⟩

/-- **A carriage return at the end of a text is of no account** for the value that it spells. -/
theorem readText_append_return_eq_ok_iff {text : String} {value : Json} :
    readText (text ++ "\r") = .ok value ↔ readText text = .ok value := by
  have hreturn : bytesOf "\r" = [0x0D] := rfl
  have hread : ∀ text, readText text = .ok value ↔ read (bytesOf text) = .ok value := by
    intro text
    rw [readText]
    cases read (bytesOf text) <;> simp [Except.mapError]
  rw [hread, hread, bytesOf_append, hreturn]
  exact readAll_append_blank_eq_ok_iff (recognizes_readValue depthLimit) (by decide)

end SchemaCheck.Json
