import Mathlib.Data.List.TakeWhile
import Mathlib.Tactic.Common
import SchemaCheck.Proofs.Json.Layout

/-!
# Reading written numbers

Every number is written as digits, a fraction and an exponent, and what is read of that does not
depend on what follows.

* `Closes`: a reader takes a text to its end, or finds a fault in it, whatever ends a number behind
  it.  The readers of the parts of a number do so with digits (`closes_readNumber`).
* `Numeral`: the texts of that form, and `numeral_spell`: numbers are written so.
* `Number.reread`: the number that the text of a number is read as, and `reads_number`: so it is
  wherever the text stands.  It is not always the number that was written, since a reader does not
  always find the nearest one.
* `Number.ReadsBack`: it is.
-/

namespace SchemaCheck

namespace Json

variable {negative down : Bool} {significand dropped : Nat} {exponent : Int}
  {digits tail text rest : Bytes}

/-! ### Readers that take all of a text -/

/-- The reader takes the text to its end, or finds a fault in it, whatever ends a number behind it.
The number that it finds has the property. -/
def Closes (P : Number → Prop) (read : Bytes → Option (Number × Bytes)) (text : Bytes) : Prop :=
  ∃ value : Option Number, (∀ x, value = some x → P x) ∧
    ∀ rest, EndsNumber rest → read (text ++ rest) = value.map (·, rest)

/-- The number is a binary one. -/
def Number.IsFloat (n : Number) : Prop := ∃ x, n = .float x

/-- What a reader takes off a text that may end at once, and the rest. -/
def leaving (reader : (text : Bytes) →
    Except Fault (Number × { rest : Bytes // rest.length ≤ text.length })) (text : Bytes) :
    Option (Number × Bytes) :=
  (reader text).toOption.map fun taken => (taken.1, taken.2.1)

/-- Nothing but digits. -/
def Digits (bytes : Bytes) : Prop := ∀ b ∈ bytes, isDigit b = true

/-- The number that its parts make, if it is not too large. -/
def assembled? (negative : Bool) (significand : Nat) (exponent : Int) : Option Number :=
  (scaled significand exponent).map fun x => .float (if negative then x.neg else x)

lemma toOption_assemble (negative : Bool) (significand : Nat) (exponent : Int) (rest : Bytes) :
    (assemble negative significand exponent rest).toOption =
      assembled? negative significand exponent := by
  rw [assemble, assembled?]
  cases scaled significand exponent <;> rfl

lemma isFloat_of_assembled? {x : Number}
    (h : assembled? negative significand exponent = some x) : x.IsFloat := by
  obtain ⟨y, -, rfl⟩ := Option.map_eq_some_iff.1 h
  exact ⟨_, rfl⟩

/-! ### The exponent -/

/-- The number that the digits of its exponent make, if it is not too large. -/
def raised? (negative : Bool) (significand : Nat) (start : Int) (down : Bool) (digits : Bytes) :
    Option Number :=
  match gather exponentLimit 0 digits with
  | (_, _ :: _) => if significand ≠ 0 ∧ !down then none else some (.float (.zero negative))
  | (shown, []) =>
    assembled? negative significand (max (-(exponentLimit : Int) - 1)
      (min exponentLimit (if down then start - shown else start + shown)))

/-- A number with an exponent is a binary number. -/
lemma isFloat_of_raised? {x : Number}
    (h : raised? negative significand exponent down digits = some x) : x.IsFloat := by
  unfold raised? at h
  split at h
  · split at h
    · cases h
    · exact ⟨_, (Option.some.inj h).symm⟩
  · exact isFloat_of_assembled? h

/-- The digits of an exponent are read all at once. -/
lemma outcome_readExponentDigits_cons {b : UInt8} (hb : isDigit b = true) (text : Bytes) :
    outcome (readExponentDigits negative significand exponent down) (b :: text) =
      (raised? negative significand exponent down (b :: text.takeWhile isDigit)).map
        (·, text.dropWhile isDigit) := by
  rw [outcome, readExponentDigits, raised?]
  simp only [hb, Bool.not_true, Bool.false_eq_true, if_false]
  rcases gather exponentLimit 0 (b :: text.takeWhile isDigit) with ⟨shown, _ | ⟨digit, unread⟩⟩
  · simp only [← toOption_assemble _ _ _ (text.dropWhile isDigit)]
    cases assemble negative significand _ (text.dropWhile isDigit) <;> rfl
  · dsimp only
    split <;> rfl

/-- The digits of an exponent end with the number. -/
lemma closes_readExponentDigits (negative : Bool) (significand : Nat) (exponent : Int)
    (down : Bool) (hdigits : Digits digits) :
    Closes Number.IsFloat (outcome (readExponentDigits negative significand exponent down))
      digits := by
  cases digits with
  | nil =>
      refine ⟨none, by simp, fun rest hrest => ?_⟩
      cases rest with
      | nil => rfl
      | cons b rest =>
          rw [List.nil_append, outcome, readExponentDigits, (hrest b rfl).1]
          rfl
  | cons b digits =>
      obtain ⟨hb, hdigits⟩ := List.forall_mem_cons.1 hdigits
      refine ⟨raised? negative significand exponent down (b :: digits),
        fun x hx => isFloat_of_raised? hx, fun rest hrest => ?_⟩
      rw [List.cons_append, outcome_readExponentDigits_cons hb,
        takeWhile_isDigit hdigits hrest.endsDigits, dropWhile_isDigit hdigits hrest.endsDigits]

/-- An exponent ends with the number. -/
lemma closes_readExponent (negative : Bool) (significand : Nat) (exponent : Int) {sign : UInt8}
    (hsign : sign = '+'.toUInt8 ∨ sign = '-'.toUInt8)
    (hdigits : Digits digits) :
    Closes Number.IsFloat (outcome (readExponent negative significand exponent))
      (sign :: digits) := by
  obtain ⟨value, hfloat, hvalue⟩ := closes_readExponentDigits negative significand exponent
    (sign = '-'.toUInt8) hdigits
  refine ⟨value, hfloat, fun rest hrest => ?_⟩
  rw [← hvalue rest hrest, List.cons_append, outcome, readExponent, if_pos hsign, outcome]
  cases readExponentDigits negative significand exponent (sign = '-'.toUInt8) (digits ++ rest) <;>
    rfl

/-- The text of an exponent, if there is one. -/
def Scale (text : Bytes) : Prop :=
  text = [] ∨ ∃ sign digits, (sign = '+'.toUInt8 ∨ sign = '-'.toUInt8) ∧ Digits digits ∧
    text = 'e'.toUInt8 :: sign :: digits

/-- A number may end without an exponent. -/
lemma leaving_readScale_of_endsNumber (negative : Bool) (significand : Nat) (exponent : Int)
    (hrest : EndsNumber rest) :
    leaving (readScale negative significand exponent) rest =
      (assembled? negative significand exponent).map (·, rest) := by
  rw [← toOption_assemble _ _ _ rest, leaving]
  cases rest with
  | nil =>
      rw [readScale]
      cases assemble negative significand exponent [] <;> rfl
  | cons b rest =>
      obtain ⟨-, -, hsmall, hlarge⟩ := hrest b rfl
      rw [readScale, if_neg (by simp [hsmall, hlarge])]
      cases assemble negative significand exponent (b :: rest) <;> rfl

/-- A scale ends with the number. -/
lemma Scale.closes (h : Scale text) (negative : Bool) (significand : Nat) (exponent : Int) :
    Closes Number.IsFloat (leaving (readScale negative significand exponent)) text := by
  obtain rfl | ⟨sign, digits, hsign, hdigits, rfl⟩ := h
  · exact ⟨_, fun x hx => isFloat_of_assembled? hx,
      fun rest hrest => leaving_readScale_of_endsNumber _ _ _ hrest⟩
  · obtain ⟨value, hfloat, hvalue⟩ := closes_readExponent negative significand exponent hsign
      hdigits
    refine ⟨value, hfloat, fun rest hrest => ?_⟩
    rw [← hvalue rest hrest, List.cons_append, leaving, readScale, if_pos (.inl rfl), outcome]
    cases readExponent negative significand exponent (sign :: digits ++ rest) <;> rfl

lemma Scale.endsDigits_append (h : Scale text) (hrest : EndsNumber rest) :
    EndsDigits (text ++ rest) := by
  obtain rfl | ⟨sign, digits, -, -, rfl⟩ := h
  · exact hrest.endsDigits
  · intro b hb
    obtain rfl := Option.some.inj hb
    decide

/-! ### The fraction -/

/-- The digits behind the point are gathered as far as they have room, and then the scale is read.
-/
lemma outcome_readFraction_cons {b : UInt8} (hb : isDigit b = true) {longer : Nat} {unread : Bytes}
    (hgather : gather significandLimit significand (b :: text.takeWhile isDigit) =
      (longer, unread)) :
    outcome (readFraction negative significand exponent) (b :: text) =
      leaving (readScale negative longer
        (exponent - ((b :: text.takeWhile isDigit).length - unread.length : Int)))
        (text.dropWhile isDigit) := by
  rw [outcome, readFraction]
  simp only [hb, Bool.not_true, Bool.false_eq_true, if_false, hgather]
  rw [leaving]
  cases readScale negative longer _ (text.dropWhile isDigit) <;> rfl

/-- A fraction ends with the number. -/
lemma closes_readFraction (negative : Bool) (significand : Nat) (exponent : Int)
    (hdigits : Digits digits) (htail : Scale tail) :
    Closes Number.IsFloat (outcome (readFraction negative significand exponent))
      (digits ++ tail) := by
  cases digits with
  | nil =>
      refine ⟨none, by simp, fun rest hrest => ?_⟩
      have hends := htail.endsDigits_append hrest
      rw [List.nil_append]
      cases htext : tail ++ rest with
      | nil => rfl
      | cons b text =>
          rw [htext] at hends
          rw [outcome, readFraction, hends b rfl]
          rfl
  | cons b digits =>
      obtain ⟨hb, hdigits⟩ := List.forall_mem_cons.1 hdigits
      rcases hgather : gather significandLimit significand (b :: digits) with ⟨longer, unread⟩
      obtain ⟨value, hfloat, hvalue⟩ := htail.closes negative longer
        (exponent - ((b :: digits).length - unread.length : Int))
      refine ⟨value, hfloat, fun rest hrest => ?_⟩
      have hends := htail.endsDigits_append hrest
      have htake := takeWhile_isDigit hdigits hends
      rw [List.cons_append, List.cons_append, List.append_assoc,
        outcome_readFraction_cons hb (htake.symm ▸ hgather), htake,
        dropWhile_isDigit hdigits hends, hvalue rest hrest]

/-! ### Numbers -/

/-- The text behind the first digits of a number. -/
def Ending (text : Bytes) : Prop :=
  Scale text ∨ ∃ digits scale, Digits digits ∧ Scale scale ∧
    text = '.'.toUInt8 :: (digits ++ scale)

lemma Ending.endsDigits_append (h : Ending text) (hrest : EndsNumber rest) :
    EndsDigits (text ++ rest) := by
  obtain h | ⟨digits, scale, -, -, rfl⟩ := h
  · exact h.endsDigits_append hrest
  · intro b hb
    obtain rfl := Option.some.inj hb
    decide

/-- What drops digits has an exponent, even if none is written. -/
lemma leaving_readTail_of_scale (negative : Bool) (significand : Nat) (hdropped : dropped ≠ 0)
    (htext : ∀ b ∈ text.head?, b ≠ '.'.toUInt8) :
    leaving (readTail negative significand dropped) text =
      leaving (readScale negative significand dropped) text := by
  rw [leaving, leaving]
  cases text with
  | nil => rw [readTail, if_neg hdropped]
  | cons b text => rw [readTail, if_neg (htext b rfl), if_pos (.inr (.inr hdropped))]

/-- Whatever may end a number ends with it, and makes it a binary number unless it is nothing. -/
lemma Ending.closes (h : Ending text) (negative : Bool) (significand dropped : Nat) :
    Closes (fun x => text ≠ [] → x.IsFloat) (leaving (readTail negative significand dropped))
      text := by
  obtain (rfl | ⟨sign, digits, hsign, hdigits, rfl⟩) | ⟨digits, scale, hdigits, hscale, rfl⟩ := h
  · by_cases hdropped : dropped = 0
    · subst hdropped
      refine ⟨some (integer negative significand), by simp, fun rest hrest => ?_⟩
      rw [List.nil_append, leaving, readTail_of_endsNumber negative significand hrest]
      rfl
    · refine ⟨assembled? negative significand dropped, by simp, fun rest hrest => ?_⟩
      rw [List.nil_append, leaving_readTail_of_scale _ _ hdropped fun b hb => (hrest b hb).2.1,
        leaving_readScale_of_endsNumber _ _ _ hrest]
  · have hscale : Scale ('e'.toUInt8 :: sign :: digits) := .inr ⟨sign, digits, hsign, hdigits, rfl⟩
    obtain ⟨value, hfloat, hvalue⟩ := hscale.closes negative significand dropped
    refine ⟨value, fun x hx _ => hfloat x hx, fun rest hrest => ?_⟩
    rw [← hvalue rest hrest, List.cons_append, leaving, leaving, readTail, if_neg (by decide),
      if_pos (.inl rfl)]
  · obtain ⟨value, hfloat, hvalue⟩ := closes_readFraction negative significand dropped hdigits
      hscale
    refine ⟨value, fun x hx _ => hfloat x hx, fun rest hrest => ?_⟩
    rw [← hvalue rest hrest, List.cons_append, leaving, readTail, if_pos rfl, outcome]
    cases readFraction negative significand dropped (digits ++ scale ++ rest) <;> rfl

/-- The digits of a number are gathered as far as they have room, and then its end is read. -/
lemma outcome_readNumber_cons {b : UInt8} (hb : isDigit b = true)
    (hzero : ¬(b = '0'.toUInt8 ∧ text.head?.any isDigit)) {unread : Bytes}
    (hgather : gather significandLimit 0 (b :: text.takeWhile isDigit) = (significand, unread)) :
    outcome (readNumber negative) (b :: text) =
      leaving (readTail negative significand unread.length) (text.dropWhile isDigit) := by
  rw [outcome, readNumber]
  simp only [hb, Bool.not_true, Bool.false_eq_true, if_false, if_neg hzero, hgather]
  rw [leaving]
  cases readTail negative significand unread.length (text.dropWhile isDigit) <;> rfl

lemma head?_any_isDigit_append {text : Bytes} (htext : EndsDigits text) (digits : Bytes) :
    (digits ++ text).head?.any isDigit = digits.head?.any isDigit := by
  cases digits with
  | cons b digits => rfl
  | nil =>
      cases text with
      | nil => rfl
      | cons b text => exact htext b rfl

/-- **A number is read as it is**, or not at all, whatever follows it. -/
theorem closes_readNumber (negative : Bool) {b : UInt8} (hdigits : Digits (b :: digits))
    (htail : Ending tail) :
    Closes (fun x => tail ≠ [] → x.IsFloat) (outcome (readNumber negative))
      (b :: digits ++ tail) := by
  obtain ⟨hb, hdigits⟩ := List.forall_mem_cons.1 hdigits
  by_cases hzero : b = '0'.toUInt8 ∧ digits.head?.any isDigit
  · refine ⟨none, by simp, fun rest hrest => ?_⟩
    have hzero' : b = '0'.toUInt8 ∧ (digits ++ (tail ++ rest)).head?.any isDigit := by
      rwa [head?_any_isDigit_append (htail.endsDigits_append hrest)]
    rw [List.cons_append, List.cons_append, List.append_assoc, outcome, readNumber, hb,
      if_neg (by simp), if_pos hzero']
    rfl
  · rcases hgather : gather significandLimit 0 (b :: digits) with ⟨significand, unread⟩
    obtain ⟨value, hfloat, hvalue⟩ := htail.closes negative significand unread.length
    refine ⟨value, hfloat, fun rest hrest => ?_⟩
    have hends := htail.endsDigits_append hrest
    have htake := takeWhile_isDigit hdigits hends
    rw [List.cons_append, List.cons_append, List.append_assoc,
      outcome_readNumber_cons hb (by rwa [head?_any_isDigit_append hends]) (htake.symm ▸ hgather),
      dropWhile_isDigit hdigits hends, hvalue rest hrest]

end Json

/-! ### The digits of written numbers -/

lemma digits_zero : ∀ c ∈ ['0'], c.isDigit = true := List.forall_mem_singleton.2 rfl

namespace Decimal

/-- Digits, and at least one. -/
def HasDigits (d : Decimal) : Prop := d.digits ≠ [] ∧ ∀ c ∈ d.digits, c.isDigit = true

/-- A coefficient that is not zero has digits. -/
lemma hasDigits_ofCoefficient {coefficient : Nat} (h : coefficient ≠ 0) (exponent : Int) :
    (ofCoefficient coefficient exponent).HasDigits := by
  have hdigit : ∀ c ∈ Nat.toDigits 10 coefficient, c.isDigit = true := fun c hc =>
    Nat.isDigit_of_mem_toDigits (by decide) (by decide) hc
  constructor
  · intro hnil
    have hzeros := List.dropWhile_eq_nil_iff.1 (List.reverse_eq_nil_iff.1 hnil)
    cases hdigits : Nat.toDigits 10 coefficient with
    | nil => exact absurd hdigits Nat.toDigits_ne_nil
    | cons c chars =>
        have hhead := Json.head_toDigits h c (by rw [hdigits]; rfl)
        exact hhead (by simpa using hzeros c (by simp [hdigits]))
  · intro c hc
    have hmem := (List.dropWhile_sublist _).mem (List.mem_reverse.1 hc)
    exact hdigit c (List.mem_reverse.1 hmem)

/-- Nothing near to zero reads back as another number. -/
lemma holds_zero {x : Binary64.Finite} (hx : x.isZero = false) {stretch : Nat} (h : 0 < stretch)
    (step : Nat) : (Cell.of x).holds stretch step 0 = false := by
  have hunit : 0 < Nat.pow 2 x.shift := Nat.two_pow_pos _
  have hsignificand : 0 < x.significand :=
    Nat.pos_of_ne_zero fun hzero => by simp [Binary64.Finite.isZero, hzero] at hx
  have hmagnitude : Nat.pow 2 x.shift ≤ x.magnitude := Nat.le_mul_of_pos_left _ hsignificand
  have hleast : 0 < (Cell.of x).least := by
    rw [Cell.of]
    dsimp only
    split <;> omega
  have hpos : 0 < (Cell.of x).least * stretch := Nat.mul_pos hleast h
  unfold Cell.holds
  simp only [Nat.zero_mul]
  split
  · simp [Nat.not_le.2 hpos]
  · simp

/-- A number that is not zero has no zero nearest to it. -/
lemma ne_zero_of_nearest? {tie : TieBreak} {x : Binary64.Finite} (hx : x.isZero = false)
    {exponent : Int} {n : Nat} (h : (Cell.of x).nearest? tie exponent = some n) : n ≠ 0 := by
  have hstretch : 0 < Nat.pow 10 (-exponent).toNat := Nat.pow_pos (by decide)
  have hzero := holds_zero hx hstretch
  unfold Cell.nearest? at h
  dsimp only at h
  generalize Nat.pow 10 exponent.toNat * (4 * Binary64.grainsPerUnit) = step at h
  generalize (Cell.of x).value * Nat.pow 10 (-exponent).toNat = value at h
  by_cases hlower : (Cell.of x).holds (Nat.pow 10 (-exponent).toNat) step (value / step) = true
  · have hne : value / step ≠ 0 := by
      intro hlower'
      rw [hlower', hzero] at hlower
      cases hlower
    rw [if_pos hlower] at h
    grind
  · rw [if_neg hlower] at h
    grind

/-- **The shortest decimal of a number** has digits. -/
lemma hasDigits_shortest (tie : TieBreak) (x : Binary64.Finite) : (shortest tie x).HasDigits := by
  have hzero : HasDigits ⟨['0'], 1⟩ := ⟨List.cons_ne_nil _ _, digits_zero⟩
  unfold shortest
  split
  · exact hzero
  · next hx =>
      dsimp only
      cases hfind : (List.range 17).findSome? _ with
      | none => exact hzero
      | some d =>
          obtain ⟨count, -, hd⟩ := List.exists_of_findSome?_eq_some hfind
          obtain ⟨n, hn, rfl⟩ := Option.map_eq_some_iff.1 hd
          exact hasDigits_ofCoefficient (ne_zero_of_nearest? (by simpa using hx) hn) _

end Decimal

namespace Json

/-- A text of a number without its sign: digits, and more behind them if the number is a binary
one. -/
def Numeral (n : Number) (text : Bytes) : Prop :=
  ∃ b digits tail, Digits (b :: digits) ∧ Ending tail ∧ (n.IsFloat → tail ≠ []) ∧
    text = b :: digits ++ tail

section Spelling

variable {chars : List Char} {n : Number}

lemma digits_bytesOf (hchars : ∀ c ∈ chars, c.isDigit = true) :
    Digits (bytesOf (String.ofList chars)) := by
  rw [bytesOf_digits hchars]
  intro b hb
  obtain ⟨c, hc, rfl⟩ := List.mem_map.1 hb
  exact isDigit_digitByte (hchars c hc)

/-- Digits and what may end a number are a numeral. -/
lemma numeral_append (hne : chars ≠ []) (hchars : ∀ c ∈ chars, c.isDigit = true)
    (htail : Ending tail) (hfloat : n.IsFloat → tail ≠ []) :
    Numeral n (bytesOf (String.ofList chars) ++ tail) := by
  have hdigits := digits_bytesOf hchars
  cases hbytes : bytesOf (String.ofList chars) with
  | nil =>
      rw [bytesOf_digits hchars, List.map_eq_nil_iff] at hbytes
      exact absurd hbytes hne
  | cons b digits => exact ⟨b, digits, tail, hbytes ▸ hdigits, htail, hfloat, rfl⟩

lemma numeral_repr (k : Int) (m : Nat) : Numeral (.whole k) (bytesOf m.repr) := by
  rw [Nat.repr_eq_ofList_toDigits, ← List.append_nil (bytesOf _)]
  refine numeral_append Nat.toDigits_ne_nil
    (fun c hc => Nat.isDigit_of_mem_toDigits (by decide) (by decide) hc) (.inl (.inl rfl)) ?_
  rintro ⟨x, hx⟩
  cases hx

/-- There is a fraction or an exponent. -/
def Marked (tail : Bytes) : Prop := Ending tail ∧ tail ≠ []

lemma marked_point (hchars : ∀ c ∈ chars, c.isDigit = true) {scale : Bytes} (hscale : Scale scale) :
    Marked (bytesOf ("." ++ String.ofList chars) ++ scale) := by
  have hpoint : bytesOf ("." ++ String.ofList chars) ++ scale =
      '.'.toUInt8 :: (bytesOf (String.ofList chars) ++ scale) := by
    rw [bytesOf_append]
    rfl
  rw [hpoint]
  exact ⟨.inr ⟨_, scale, digits_bytesOf hchars, hscale, rfl⟩, List.cons_ne_nil _ _⟩

lemma marked_fraction (hchars : ∀ c ∈ chars, c.isDigit = true) :
    Marked (bytesOf ("." ++ String.ofList chars)) := by
  have hpoint := marked_point hchars (.inl rfl)
  rwa [List.append_nil] at hpoint

lemma Marked.numeral (h : Marked tail) (hne : chars ≠ [])
    (hchars : ∀ c ∈ chars, c.isDigit = true) (n : Number) :
    Numeral n (bytesOf (String.ofList chars) ++ tail) :=
  numeral_append hne hchars h.1 fun _ => h.2

lemma isDigit_of_mem_replicate (count : Nat) :
    ∀ c ∈ List.replicate count '0', c.isDigit = true := by
  intro c hc
  rw [List.eq_of_mem_replicate hc]
  decide

lemma take_ne_nil (hne : chars ≠ []) {count : Nat} (h : 0 < count) : chars.take count ≠ [] := by
  rw [ne_eq, List.take_eq_nil_iff, not_or]
  exact ⟨Nat.ne_of_gt h, hne⟩

/-- A decimal with its point in place is a numeral. -/
lemma numeral_spellPositional (n : Number) {d : Decimal} (h : d.HasDigits) :
    Numeral n (bytesOf (Number.style.spellPositional d)) := by
  obtain ⟨hne, hdigits⟩ := h
  unfold DecimalStyle.spellPositional
  dsimp only
  split
  · have hzero : bytesOf "0." = bytesOf (String.ofList ['0']) ++ bytesOf "." := rfl
    have hpoint := marked_fraction (List.forall_mem_append.2
      ⟨isDigit_of_mem_replicate (-d.point).toNat, hdigits⟩)
    rw [bytesOf_append] at hpoint
    rw [bytesOf_append, hzero, List.append_assoc]
    exact hpoint.numeral (List.cons_ne_nil _ _) digits_zero n
  · next hpos =>
      split
      · have hpoint := marked_fraction fun c hc =>
          hdigits c (List.mem_of_mem_drop (i := d.point.toNat) hc)
        rw [String.append_assoc, bytesOf_append]
        exact hpoint.numeral (take_ne_nil hne (by omega))
          (fun c hc => hdigits c (List.mem_of_mem_take hc)) n
      · have hpoint : Marked (bytesOf ".0") := marked_fraction digits_zero
        rw [bytesOf_append]
        exact hpoint.numeral (List.append_ne_nil_of_left_ne_nil hne _)
          (List.forall_mem_append.2 ⟨hdigits, isDigit_of_mem_replicate _⟩) n

/-- An exponent has a sign and digits. -/
lemma exists_bytesOf_exponent (below : Prop) [Decidable below] (n : Nat) :
    Scale (bytesOf ((if below then "e-" else "e+") ++ n.repr)) ∧
      bytesOf ((if below then "e-" else "e+") ++ n.repr) ≠ [] := by
  have hdigits : Digits (bytesOf n.repr) := by
    rw [Nat.repr_eq_ofList_toDigits]
    exact digits_bytesOf fun c hc => Nat.isDigit_of_mem_toDigits (by decide) (by decide) hc
  rw [bytesOf_append]
  split
  · exact ⟨.inr ⟨_, _, .inr rfl, hdigits, rfl⟩, List.cons_ne_nil _ _⟩
  · exact ⟨.inr ⟨_, _, .inl rfl, hdigits, rfl⟩, List.cons_ne_nil _ _⟩

/-- A decimal with an exponent is a numeral. -/
lemma numeral_spellScientific (n : Number) {d : Decimal} (h : d.HasDigits) :
    Numeral n (bytesOf (DecimalStyle.spellScientific d)) := by
  obtain ⟨hne, hdigits⟩ := h
  obtain ⟨hscale, hmark⟩ := exists_bytesOf_exponent (d.point - 1 < 0) (d.point - 1).natAbs
  unfold DecimalStyle.spellScientific
  dsimp only
  rw [String.append_assoc, String.append_assoc, bytesOf_append]
  refine Marked.numeral ?_ (take_ne_nil hne Nat.one_pos)
    (fun c hc => hdigits c (List.mem_of_mem_take hc)) n
  rw [bytesOf_append]
  split
  · exact ⟨.inl hscale, hmark⟩
  · exact marked_point (fun c hc => hdigits c (List.mem_of_mem_drop hc)) hscale

/-- **The shortest text of a binary number** is a numeral. -/
lemma numeral_shortest (x : Binary64.Finite) :
    Numeral (.float x) (bytesOf (Number.style.spell (Decimal.shortest .toEven x))) := by
  have hdigits := Decimal.hasDigits_shortest .toEven x
  unfold DecimalStyle.spell
  split
  · exact numeral_spellPositional _ hdigits
  · exact numeral_spellScientific _ hdigits

/-- A binary number is written as its shortest decimal, with or without a minus sign in front. -/
lemma bytesOf_spell_float (x : Binary64.Finite) :
    bytesOf (Number.float x).spell =
        bytesOf (Number.style.spell (Decimal.shortest .toEven x)) ∨
      bytesOf (Number.float x).spell =
        '-'.toUInt8 :: bytesOf (Number.style.spell (Decimal.shortest .toEven x)) := by
  rw [Number.spell, Binary64.Finite.spell, bytesOf_append]
  cases x.negative with
  | false => exact .inl rfl
  | true => exact .inr rfl

/-- **A number is written as a numeral**, with or without a minus sign in front. -/
theorem numeral_spell (n : Number) :
    ∃ text, Numeral n text ∧ (bytesOf n.spell = text ∨ bytesOf n.spell = '-'.toUInt8 :: text) := by
  cases n with
  | whole k =>
      rw [Number.spell, Int.repr_eq_if]
      split
      · exact ⟨_, numeral_repr k _, .inl rfl⟩
      · refine ⟨_, numeral_repr k (-k).toNat, .inr ?_⟩
        rw [bytesOf_append]
        rfl
  | float x => exact ⟨_, numeral_shortest x, bytesOf_spell_float x⟩

end Spelling

/-! ### Numbers that are read again -/

/-- What is read of a numeral, with or without a minus sign in front. -/
lemma Numeral.exists_reads {n : Number} {text bytes : Bytes} (h : Numeral n text)
    (hbytes : bytes = text ∨ bytes = '-'.toUInt8 :: text) :
    ∃ value : Option Number, (n.IsFloat → ∀ m, value = some m → m.IsFloat) ∧
      ∀ depth, Reads depth bytes (value.map .number) := by
  obtain ⟨b, digits, tail, hdigits, htail, hmarked, rfl⟩ := h
  obtain rfl | rfl := hbytes
  · obtain ⟨value, hfloat, hvalue⟩ := closes_readNumber false hdigits htail
    exact ⟨value, fun hn m hm => hfloat m hm (hmarked hn),
      reads_unsigned (hdigits b List.mem_cons_self) hvalue⟩
  · obtain ⟨value, hfloat, hvalue⟩ := closes_readNumber true hdigits htail
    exact ⟨value, fun hn m hm => hfloat m hm (hmarked hn), reads_signed hvalue⟩

/-- The number that the text of a number is read as, if any. -/
def Number.reread (n : Number) : Option Number :=
  match outcome (readValue 0) (bytesOf n.spell) with
  | some (.number m, []) => some m
  | _ => none

lemma Number.reread_of_reads {n : Number} {value : Option Number}
    (h : ∀ depth, Reads depth (bytesOf n.spell) (value.map .number)) : n.reread = value := by
  have hends : EndsNumber [] := fun b hb => by cases hb
  have hread := (h 0).outcome_here hends
  rw [List.append_nil] at hread
  rw [reread, hread]
  cases value <;> rfl

/-- **What is read of a written number.** -/
theorem reads_number (depth : Nat) (n : Number) :
    Reads depth (bytesOf n.spell) (n.reread.map .number) := by
  obtain ⟨text, hnumeral, htext⟩ := numeral_spell n
  obtain ⟨value, -, hreads⟩ := hnumeral.exists_reads htext
  exact Number.reread_of_reads hreads ▸ hreads depth

/-- A binary number is read as a binary number. -/
theorem Number.exists_float_of_reread {x : Binary64.Finite} {m : Number}
    (h : (Number.float x).reread = some m) : ∃ y, m = .float y := by
  obtain ⟨text, hnumeral, htext⟩ := numeral_spell (.float x)
  obtain ⟨value, hfloat, hreads⟩ := hnumeral.exists_reads htext
  exact hfloat ⟨x, rfl⟩ m ((Number.reread_of_reads hreads).symm.trans h)

/-- **The text of a number is read as that number.** -/
def Number.ReadsBack (n : Number) : Prop := n.reread = some n

instance : DecidablePred Number.ReadsBack := fun n => decEq n.reread (some n)

lemma Number.readsBack_whole {k : Int} (h : (Number.whole k).InWords) :
    (Number.whole k).ReadsBack := by
  have hreads : ∀ depth, Reads depth (bytesOf (Number.whole k).spell)
      ((some (.whole k) : Option Number).map .number) := fun depth => reads_whole depth h
  exact Number.reread_of_reads hreads

end Json

end SchemaCheck
