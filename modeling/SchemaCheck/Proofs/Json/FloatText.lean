import Mathlib.Tactic.Common
import SchemaCheck.Proofs.Json.Extent
import SchemaCheck.Proofs.Shortest

/-!
# Texts of binary numbers

Every finite binary number is written as a text that a reader finds a binary number in, though not
always the same one.

* `ofDigitChars_lt`, `eq_ofDigitChars_of_gather`, `length_gather_lt`: what a reader gathers of
  digits.
* `isSome_readNumber_positional`: digits with a point among them are read, unless there are too many
  before it.
* `outcome_readNumber_scientific`: digits with an exponent are read as their significand and its
  power of ten, so that it is enough that this is scaled.
* `isSome_readNumber_shortest`, `Number.exists_reread_float`: so it is with the shortest decimal of
  a number.
-/

namespace SchemaCheck.Json

/-! ### Digits that are gathered -/

section

variable {chars : List Char} {limit init shown : Nat} {digits : Bytes} {b : UInt8}

lemma digitValue_le (h : isDigit b = true) : digitValue b ≤ 9 := by
  simp only [isDigit, Bool.and_eq_true, decide_eq_true_eq, UInt8.le_iff_toNat_le] at h
  have hle : b.toNat ≤ 57 := h.2
  rw [digitValue]
  omega

/-- Digits count less than the power of ten for one digit more. -/
lemma ofDigitChars_lt (h : ∀ c ∈ chars, c.isDigit = true) (init : Nat) :
    Nat.ofDigitChars 10 chars init < (init + 1) * 10 ^ chars.length := by
  induction chars generalizing init with
  | nil => simp
  | cons c chars ih =>
      obtain ⟨hc, hchars⟩ := List.forall_mem_cons.1 h
      have hvalue : c.toNat - '0'.toNat ≤ 9 :=
        digitValue_digitByte hc ▸ digitValue_le (isDigit_digitByte hc)
      rw [Nat.ofDigitChars_cons]
      calc _ < (10 * init + (c.toNat - '0'.toNat) + 1) * 10 ^ chars.length := ih hchars _
        _ ≤ (init + 1) * 10 * 10 ^ chars.length := Nat.mul_le_mul_right _ (by omega)
        _ = (init + 1) * 10 ^ (c :: chars).length := by
            rw [List.length_cons, Nat.pow_succ']
            exact Nat.mul_assoc _ _ _

/-- What all digits are gathered to is the number that they spell. -/
lemma eq_ofDigitChars_of_gather (h : ∀ c ∈ chars, c.isDigit = true)
    (hgather : gather limit init (chars.map digitByte) = (shown, [])) :
    shown = Nat.ofDigitChars 10 chars init := by
  induction chars generalizing init with
  | nil => exact (Prod.mk.inj hgather).1.symm
  | cons c chars ih =>
      obtain ⟨hc, hchars⟩ := List.forall_mem_cons.1 h
      rw [List.map_cons, gather, digitValue_digitByte hc] at hgather
      split at hgather
      · exact ih hchars hgather
      · cases hgather

lemma length_gather_le (limit init : Nat) (digits : Bytes) :
    (gather limit init digits).2.length ≤ digits.length := by
  induction digits generalizing init with
  | nil => exact Nat.le_refl _
  | cons b digits ih =>
      rw [gather]
      split
      · exact Nat.le_succ_of_le (ih _)
      · exact Nat.le_refl _

/-- Where there is room, at least one digit is gathered. -/
lemma length_gather_lt (hb : isDigit b = true) (h : 10 * init + 9 ≤ limit) :
    (gather limit init (b :: digits)).2.length < (b :: digits).length := by
  have hvalue := digitValue_le hb
  rw [gather, if_pos (by omega)]
  exact Nat.lt_succ_of_le (length_gather_le _ _ _)

end

/-! ### Parts of a number -/

section

variable {negative : Bool} {significand : Nat} {exponent : Int}
  {c : Char} {chars fraction : List Char} {tail : Bytes}

lemma endsDigits_cons {b : UInt8} (hb : isDigit b = false) (text : Bytes) :
    EndsDigits (b :: text) := by
  rintro _ ⟨⟩
  exact hb

lemma digits_map_digitByte (h : ∀ c ∈ chars, c.isDigit = true) : Digits (chars.map digitByte) :=
  bytesOf_digits h ▸ digits_bytesOf h

/-- The digits of a number are read up to what follows them. -/
lemma outcome_readNumber_digits (hdigits : ∀ c' ∈ c :: chars, c'.isDigit = true)
    (hleading : c = '0' → chars = [])
    (hlimit : Nat.ofDigitChars 10 (c :: chars) 0 ≤ significandLimit) (htail : EndsDigits tail) :
    outcome (readNumber negative) ((c :: chars).map digitByte ++ tail) =
      leaving (readTail negative (Nat.ofDigitChars 10 (c :: chars) 0) 0) tail := by
  obtain ⟨hc, hchars⟩ := List.forall_mem_cons.1 hdigits
  have hbytes := digits_map_digitByte hchars
  have htake := takeWhile_isDigit hbytes htail
  have hzero : ¬(digitByte c = '0'.toUInt8 ∧
      (chars.map digitByte ++ tail).head?.any isDigit = true) := by
    rintro ⟨hbyte, hany⟩
    have hcode := congrArg UInt8.toNat hbyte
    rw [toNat_digitByte hc] at hcode
    rw [hleading (Char.toNat_inj.1 hcode), head?_any_isDigit_append htail] at hany
    cases hany
  have hgather : gather significandLimit 0
      (digitByte c :: (chars.map digitByte ++ tail).takeWhile isDigit) =
        (Nat.ofDigitChars 10 (c :: chars) 0, []) := by
    rw [htake]
    exact gather_digitBytes hdigits hlimit
  rw [List.map_cons, List.cons_append, outcome_readNumber_cons (isDigit_digitByte hc) hzero hgather,
    dropWhile_isDigit hbytes htail]
  rfl

/-- A signed exponent is read to its end. -/
lemma outcome_readExponent_signed {sign : UInt8}
    (hsign : sign = '+'.toUInt8 ∨ sign = '-'.toUInt8) (hne : chars ≠ [])
    (hchars : ∀ c ∈ chars, c.isDigit = true) :
    outcome (readExponent negative significand exponent) (sign :: chars.map digitByte) =
      (raised? negative significand exponent (sign = '-'.toUInt8) (chars.map digitByte)).map
        (·, []) := by
  rw [outcome_readExponent_cons, if_pos hsign]
  cases chars with
  | nil => exact absurd rfl hne
  | cons c chars =>
      obtain ⟨hc, hdigits⟩ := List.forall_mem_cons.1 (digits_map_digitByte hchars)
      rw [List.map_cons, outcome_readExponentDigits_cons hc, List.takeWhile_eq_self_iff.2 hdigits,
        List.dropWhile_eq_nil_iff.2 hdigits]

/-! ### Whole numerals -/

lemma isSome_assembled?_iff :
    (assembled? negative significand exponent).isSome ↔ (scaled significand exponent).isSome := by
  rw [assembled?, Option.isSome_map]

lemma isSome_assembled?_of_neg (negative : Bool) (significand : Nat) (h : exponent < 0) :
    (assembled? negative significand exponent).isSome := by
  rw [isSome_assembled?_iff, scaled, if_pos h]
  rfl

/-- Digits behind the point are read where one more has room, since each that is read makes the
power of ten smaller. -/
lemma isSome_readFraction (negative : Bool) (hroom : 10 * significand + 9 ≤ significandLimit)
    (hfraction : ∀ c ∈ fraction, c.isDigit = true) (hne : fraction ≠ []) :
    (outcome (readFraction negative significand 0) (fraction.map digitByte)).isSome := by
  cases fraction with
  | nil => exact absurd rfl hne
  | cons c fraction =>
      obtain ⟨hb, hrest⟩ := List.forall_mem_cons.1 (digits_map_digitByte hfraction)
      have htake := List.takeWhile_eq_self_iff.2 hrest
      rcases hgather : gather significandLimit significand
        (digitByte c :: fraction.map digitByte) with ⟨longer, unread⟩
      have hunread : unread.length < (digitByte c :: fraction.map digitByte).length := by
        have hlt := @length_gather_lt _ _ (fraction.map digitByte) _ hb hroom
        rwa [hgather] at hlt
      rw [List.map_cons, outcome_readFraction_cons hb (htake.symm ▸ hgather), htake,
        List.dropWhile_eq_nil_iff.2 hrest, leaving_readScale_of_endsNumber _ _ _ endsNumber_nil,
        Option.isSome_map]
      exact isSome_assembled?_of_neg negative longer (by omega)

/-- **Digits with a point among them** are read. -/
theorem isSome_readNumber_positional (negative : Bool) {whole : List Char}
    (hwhole : ∀ c ∈ whole, c.isDigit = true) (hne : whole ≠ [])
    (hleading : whole = ['0'] ∨ ∀ c ∈ whole.head?, c ≠ '0') (hlength : whole.length ≤ 16)
    (hfraction : ∀ c ∈ fraction, c.isDigit = true) (hne' : fraction ≠ []) :
    (outcome (readNumber negative)
      (bytesOf (String.ofList whole) ++ bytesOf ("." ++ String.ofList fraction))).isSome := by
  have hlt := ofDigitChars_lt hwhole 0
  have hpower : 10 ^ whole.length ≤ 10 ^ 16 := Nat.pow_le_pow_right (by decide) hlength
  have hlimit : 10 * 10 ^ 16 + 9 ≤ significandLimit := by decide
  have hpoint : EndsDigits ('.'.toUInt8 :: fraction.map digitByte) := endsDigits_cons rfl _
  have htext : bytesOf ("." ++ String.ofList fraction) =
      '.'.toUInt8 :: fraction.map digitByte := by
    rw [bytesOf_append, bytesOf_digits hfraction]
    rfl
  rw [htext, bytesOf_digits hwhole]
  cases whole with
  | nil => exact absurd rfl hne
  | cons c chars =>
      have hzero : c = '0' → chars = [] := by
        rintro rfl
        simpa using hleading
      rw [outcome_readNumber_digits hwhole hzero (by omega) hpoint, leaving_readTail_point]
      exact isSome_readFraction negative (by omega) hfraction hne'

/-- **Digits with an exponent** are read as their significand and its power of ten. -/
theorem outcome_readNumber_scientific (negative : Bool)
    (hdigits : ∀ c' ∈ c :: fraction, c'.isDigit = true)
    (hlimit : Nat.ofDigitChars 10 (c :: fraction) 0 ≤ significandLimit)
    {sign : UInt8} (hsign : sign = '+'.toUInt8 ∨ sign = '-'.toUInt8)
    (hne : chars ≠ []) (hchars : ∀ c ∈ chars, c.isDigit = true) :
    outcome (readNumber negative) ([digitByte c] ++
        ((if fraction = [] then [] else '.'.toUInt8 :: fraction.map digitByte) ++
          'e'.toUInt8 :: sign :: chars.map digitByte)) =
      (raised? negative (Nat.ofDigitChars 10 (c :: fraction) 0) (-(fraction.length : Int))
        (sign = '-'.toUInt8) (chars.map digitByte)).map (·, []) := by
  obtain ⟨hc, hfraction⟩ := List.forall_mem_cons.1 hdigits
  have hmark : EndsDigits ('e'.toUInt8 :: sign :: chars.map digitByte) := endsDigits_cons rfl _
  have hpoint : EndsDigits ((if fraction = [] then [] else
      '.'.toUInt8 :: fraction.map digitByte) ++ 'e'.toUInt8 :: sign :: chars.map digitByte) := by
    split
    · exact hmark
    · exact endsDigits_cons rfl _
  have hfirst : Nat.ofDigitChars 10 [c] 0 ≤ significandLimit :=
    Nat.le_trans (le_ofDigitChars fraction _) hlimit
  have hread : outcome (readNumber negative) ([c].map digitByte ++ _) = _ :=
    outcome_readNumber_digits (List.forall_mem_singleton.2 hc) (fun _ => rfl) hfirst hpoint
  refine hread.trans ?_
  cases fraction with
  | nil =>
      rw [if_pos rfl, List.nil_append, leaving_readTail_mark (.inl rfl),
        outcome_readExponent_signed hsign hne hchars]
      rfl
  | cons c' fraction =>
      obtain ⟨hb, hrest⟩ := List.forall_mem_cons.1 (digits_map_digitByte hfraction)
      have htake := takeWhile_isDigit hrest hmark
      have hdrop := dropWhile_isDigit hrest hmark
      have hgather : gather significandLimit (Nat.ofDigitChars 10 [c] 0)
          (digitByte c' :: fraction.map digitByte) =
            (Nat.ofDigitChars 10 (c :: c' :: fraction) 0, []) :=
        gather_digitBytes hfraction hlimit
      rw [if_neg (List.cons_ne_nil _ _), List.cons_append, leaving_readTail_point, List.map_cons,
        List.cons_append, outcome_readFraction_cons hb (htake.symm ▸ hgather), htake, hdrop,
        leaving_readScale_cons, if_pos (.inl rfl), outcome_readExponent_signed hsign hne hchars]
      simp

/-- An exponent below zero leaves something or nothing of a number, but does not make it too
large. -/
lemma isSome_raised?_down (negative : Bool) (significand : Nat)
    (hchars : ∀ c ∈ chars, c.isDigit = true) (h : exponent < Nat.ofDigitChars 10 chars 0) :
    (raised? negative significand exponent true (chars.map digitByte)).isSome := by
  unfold raised?
  rcases hgather : gather exponentLimit 0 (chars.map digitByte) with ⟨shown, _ | ⟨b, unread⟩⟩
  · have hshown := eq_ofDigitChars_of_gather hchars hgather
    refine isSome_assembled?_of_neg negative significand ?_
    have hlimit : (0 : Int) ≤ exponentLimit := Int.natCast_nonneg _
    rw [if_pos rfl]
    omega
  · simp

/-- An exponent with room for its digits raises a number to what is scaled. -/
lemma isSome_raised?_up (negative : Bool) (hchars : ∀ c ∈ chars, c.isDigit = true)
    (hlimit : Nat.ofDigitChars 10 chars 0 ≤ exponentLimit) (hstart : exponent ≤ 0)
    (hleast : -(exponentLimit : Int) ≤ exponent)
    (h : (scaled significand (exponent + Nat.ofDigitChars 10 chars 0)).isSome) :
    (raised? negative significand exponent false (chars.map digitByte)).isSome := by
  unfold raised?
  rw [gather_digitBytes hchars hlimit]
  dsimp only
  have hsum : max (-(exponentLimit : Int) - 1) (min exponentLimit
      (exponent + Nat.ofDigitChars 10 chars 0)) = exponent + Nat.ofDigitChars 10 chars 0 := by
    omega
  rw [if_neg Bool.false_ne_true, hsum]
  exact isSome_assembled?_iff.2 h

end

/-! ### The shortest decimal -/

section

variable {negative : Bool} {d : Decimal}

/-- A decimal that is written without an exponent is read. -/
lemma isSome_readNumber_spellPositional (negative : Bool) (hdigits : d.HasDigits)
    (hleading : d = ⟨['0'], 1⟩ ∨ ∀ c ∈ d.digits.head?, c ≠ '0') (hpoint : d.point ≤ 16) :
    (outcome (readNumber negative) (bytesOf (Number.style.spellPositional d))).isSome := by
  obtain ⟨hne, hall⟩ := hdigits
  have hzeros := isDigit_of_mem_replicate
  unfold DecimalStyle.spellPositional
  dsimp only
  split
  · -- All digits stand behind the point.
    have hsplit : bytesOf "0." = bytesOf (String.ofList ['0']) ++ bytesOf "." := rfl
    rw [bytesOf_append, hsplit, List.append_assoc, ← bytesOf_append]
    refine isSome_readNumber_positional negative digits_zero (List.cons_ne_nil _ _) (.inl rfl)
      (by decide) (List.forall_mem_append.2 ⟨hzeros _, hall⟩) ?_
    exact List.append_ne_nil_of_right_ne_nil _ hne
  · next hpos =>
      split
      · next hcount =>
          rw [String.append_assoc, bytesOf_append]
          refine isSome_readNumber_positional negative
            (fun c hc => hall c (List.mem_of_mem_take hc)) (take_ne_nil hne (by omega)) ?_
            (by simp; omega) (fun c hc => hall c (List.mem_of_mem_drop hc)) ?_
          · rcases hleading with rfl | hleading
            · exact absurd hcount (by decide)
            · rw [List.head?_take, if_neg (by omega)]
              exact .inr hleading
          · simp
            omega
      · next hcount =>
          have hsplit : bytesOf ".0" = bytesOf ("." ++ String.ofList ['0']) := rfl
          rw [bytesOf_append, show Number.style.wholeEnding = ".0" from rfl, hsplit]
          refine isSome_readNumber_positional negative
            (List.forall_mem_append.2 ⟨hall, hzeros _⟩)
            (List.append_ne_nil_of_left_ne_nil hne _) ?_ (by simp; omega) digits_zero
            (List.cons_ne_nil _ _)
          rcases hleading with rfl | hleading
          · exact .inl rfl
          · rw [List.head?_append_of_ne_nil _ hne]
            exact .inr hleading

/-- The bytes of a decimal with an exponent. -/
lemma bytesOf_spellScientific {c : Char} {fraction : List Char} (hcons : d.digits = c :: fraction)
    (hdigits : ∀ c ∈ d.digits, c.isDigit = true) :
    bytesOf (DecimalStyle.spellScientific d) = [digitByte c] ++
      ((if fraction = [] then [] else '.'.toUInt8 :: fraction.map digitByte) ++
        'e'.toUInt8 :: (if d.point - 1 < 0 then '-'.toUInt8 else '+'.toUInt8) ::
          (Nat.toDigits 10 (d.point - 1).natAbs).map digitByte) := by
  rw [hcons] at hdigits
  obtain ⟨hc, hfraction⟩ := List.forall_mem_cons.1 hdigits
  have hpoint : bytesOf "." = ['.'.toUInt8] := rfl
  have hmarks : bytesOf "e-" = ['e'.toUInt8, '-'.toUInt8] ∧
      bytesOf "e+" = ['e'.toUInt8, '+'.toUInt8] := ⟨rfl, rfl⟩
  have hfirst : bytesOf (String.ofList [c]) = [digitByte c] :=
    bytesOf_digits (List.forall_mem_singleton.2 hc)
  have hnil : bytesOf "" = [] := rfl
  have hlength : (c :: fraction).length ≤ 1 ↔ fraction = [] := by
    cases fraction <;> simp
  unfold DecimalStyle.spellScientific
  simp only [hcons, List.take_succ_cons, List.take_zero, List.drop_succ_cons, List.drop_zero,
    hlength, bytesOf_append, bytesOf_repr, hfirst, List.append_assoc]
  split_ifs <;>
    simp only [hnil, hmarks, hpoint, bytesOf_append, bytesOf_digits hfraction, List.cons_append,
      List.nil_append]

/-- A decimal that is written with an exponent is read, if its significand is scaled. -/
lemma isSome_readNumber_spellScientific (negative : Bool) {x : Binary64.Finite}
    (hdigits : d.HasDigits) (hbounded : d.Bounded (Decimal.Cell.of x))
    (hscaled : (scaled d.significand d.exponent).isSome) :
    (outcome (readNumber negative) (bytesOf (DecimalStyle.spellScientific d))).isSome := by
  obtain ⟨hne, hall⟩ := hdigits
  obtain ⟨c, fraction, hcons⟩ := List.exists_cons_of_ne_nil hne
  have hlength := hbounded.length_le
  have hlargest := hbounded.exponent_le
  have hlimit : longest ≤ significandLimit := by decide
  have hsignificand : Nat.ofDigitChars 10 (c :: fraction) 0 = d.significand := by
    rw [Decimal.significand, hcons]
  have hexponent : d.exponent = -(fraction.length : Int) + (d.point - 1) := by
    rw [Decimal.exponent, hcons, List.length_cons]
    omega
  rw [hcons, List.length_cons] at hlength
  rw [bytesOf_spellScientific hcons hall, outcome_readNumber_scientific negative (hcons ▸ hall)
    (hsignificand ▸ Nat.le_trans hbounded.significand_le hlimit) (by split <;> simp)
    Nat.toDigits_ne_nil (fun c hc => Nat.isDigit_of_mem_toDigits (by decide) (by decide) hc),
    Option.isSome_map, hsignificand]
  have hshown : Nat.ofDigitChars 10 (Nat.toDigits 10 (d.point - 1).natAbs) 0 =
      (d.point - 1).natAbs := Nat.ofDigitChars_ten_toDigits
  have hchars : ∀ c ∈ Nat.toDigits 10 (d.point - 1).natAbs, c.isDigit = true := fun c hc =>
    Nat.isDigit_of_mem_toDigits (by decide) (by decide) hc
  rcases lt_or_ge (d.point - 1) 0 with hdown | hup
  · rw [if_pos hdown, decide_eq_true rfl]
    exact isSome_raised?_down negative _ hchars (by omega)
  · have hsum : -(fraction.length : Int) +
        Nat.ofDigitChars 10 (Nat.toDigits 10 (d.point - 1).natAbs) 0 = d.exponent := by omega
    have hroom : powerLimit + 18 ≤ exponentLimit := by decide
    rw [if_neg (by omega), decide_eq_false (by decide)]
    exact isSome_raised?_up negative hchars (by omega) (by omega) (by omega) (hsum ▸ hscaled)

/-- **The text of a binary number** without its sign is read. -/
theorem isSome_readNumber_shortest (negative : Bool) (x : Binary64.Finite) :
    (outcome (readNumber negative)
      (bytesOf (Number.style.spell (Decimal.shortest .toEven x)))).isSome := by
  have hdigits := Decimal.hasDigits_shortest .toEven x
  have hbounded := Decimal.bounded_shortest .toEven x
  unfold DecimalStyle.spell
  split
  · next hpositional =>
      refine isSome_readNumber_spellPositional negative hdigits hbounded.leading ?_
      simp only [Number.style, Bool.and_eq_true, decide_eq_true_eq] at hpositional
      exact hpositional.2
  · exact isSome_readNumber_spellScientific negative hdigits hbounded (isSome_scaled_shortest x)

end

/-! ### Numbers that are read again -/

/-- A numeral is read again where its text alone is read as a number. -/
lemma Numeral.isSome_reread {n : Number} {text : Bytes} (h : Numeral n text)
    (htext : bytesOf n.spell = text ∨ bytesOf n.spell = '-'.toUInt8 :: text)
    (hread : ∀ negative, (outcome (readNumber negative) text).isSome) : n.reread.isSome := by
  obtain ⟨b, digits, tail, hdigits, htail, -, rfl⟩ := h
  have hclosed (negative : Bool) : ∃ value : Option Number, value.isSome ∧
      ∀ rest, EndsNumber rest →
        outcome (readNumber negative) (b :: digits ++ tail ++ rest) = value.map (·, rest) := by
    obtain ⟨value, -, hvalue⟩ := closes_readNumber negative hdigits htail
    have hsome := hread negative
    rw [← List.append_nil (b :: digits ++ tail), hvalue [] endsNumber_nil, Option.isSome_map]
      at hsome
    exact ⟨value, hsome, hvalue⟩
  have hreads (value : Option Number) (hsome : value.isSome)
      (h : ∀ depth, Reads depth (bytesOf n.spell) (value.map .number)) : n.reread.isSome := by
    rwa [Number.reread_of_reads h]
  rcases htext with htext | htext
  · obtain ⟨value, hsome, hvalue⟩ := hclosed false
    refine hreads value hsome fun depth => ?_
    rw [htext]
    exact reads_unsigned (hdigits b List.mem_cons_self) hvalue depth
  · obtain ⟨value, hsome, hvalue⟩ := hclosed true
    refine hreads value hsome fun depth => ?_
    rw [htext]
    exact reads_signed hvalue depth

/-- **Every finite binary number is read again** as one. -/
theorem Number.exists_reread_float (x : Binary64.Finite) :
    ∃ y, (Number.float x).reread = some (.float y) := by
  have hsome := (numeral_shortest x).isSome_reread (bytesOf_spell_float x)
    fun negative => isSome_readNumber_shortest negative x
  obtain ⟨n, hn⟩ := Option.isSome_iff_exists.1 hsome
  obtain ⟨y, rfl⟩ := Number.exists_float_of_reread hn
  exact ⟨y, hn⟩

end SchemaCheck.Json
