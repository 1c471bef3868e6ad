import SchemaCheck.Json.Fault

/-!
# Scanning a JSON text

The scanners for blanks, words, strings and numbers.  A scanner takes the text in front of it and
hands back what it read together with the rest of the text, which is shorter.

* `Json.readString`: a string from behind its opening quote;
* `Json.readNumber`: a number from behind its minus sign, if it has one;
* `Json.scaled`: how a number with a point or an exponent is put together.  Its digits are gathered
  into one significand of 64 bits, which is then scaled by a power of ten, so that the result is not
  always the nearest number.
-/

namespace SchemaCheck.Json

/-- What a reader took off the front of a text: a value, and the rest. -/
structure Taken (α : Type) (text : Bytes) where
  value : α
  rest : Bytes
  shorter : rest.length < text.length

/-- A reader takes a value off the front of a text, or finds a fault in it. -/
abbrev Reader (α : Type) := (text : Bytes) → Except Fault (Taken α text)

namespace Taken

/-- The same, seen from a longer text. -/
def within {α : Type} {short text : Bytes} (taken : Taken α short)
    (h : short.length ≤ text.length) : Taken α text :=
  ⟨taken.value, taken.rest, Nat.lt_of_lt_of_le taken.shorter h⟩

/-- Another value in the place of the one that was read. -/
def map {α β : Type} {text : Bytes} (f : α → β) (taken : Taken α text) : Taken β text :=
  ⟨f taken.value, taken.rest, taken.shorter⟩

end Taken

/-! ### Blanks and words -/

/-- A blank between tokens: space, tab, line feed or carriage return. -/
def isBlank (b : UInt8) : Bool := b == 0x20 || b == 0x09 || b == 0x0A || b == 0x0D

def skipBlanks (text : Bytes) : Bytes := text.dropWhile isBlank

theorem length_dropWhile_le {α : Type} (p : α → Bool) (l : List α) :
    (l.dropWhile p).length ≤ l.length :=
  (List.dropWhile_sublist p).length_le

theorem length_lt_cons (b : UInt8) (text : Bytes) : text.length < (b :: text).length :=
  Nat.lt_succ_self _

theorem length_le_cons (b : UInt8) (text : Bytes) : text.length ≤ (b :: text).length :=
  Nat.le_succ _

theorem length_lt_cons_cons (a b : UInt8) (text : Bytes) :
    text.length < (a :: b :: text).length :=
  Nat.lt_succ_of_lt (length_lt_cons b text)

theorem length_le_cons_cons (a b : UInt8) (text : Bytes) :
    text.length ≤ (a :: b :: text).length :=
  Nat.le_of_lt (length_lt_cons_cons a b text)

theorem length_lt_cons_cons_of_lt {rest text : Bytes} (a b : UInt8)
    (h : rest.length < text.length) : rest.length < (a :: b :: text).length :=
  Nat.lt_trans h (length_lt_cons_cons a b text)

theorem length_le_cons_cons_of_lt {rest text : Bytes} (a b : UInt8)
    (h : rest.length < text.length) : rest.length ≤ (a :: b :: text).length :=
  Nat.le_of_lt (length_lt_cons_cons_of_lt a b h)

theorem length_le_cons_of_le {rest text : Bytes} (b : UInt8) (h : rest.length ≤ text.length) :
    rest.length ≤ (b :: text).length :=
  Nat.le_succ_of_le h

theorem length_cons_le_of_lt {rest text : Bytes} (b : UInt8) (h : rest.length < text.length) :
    (b :: rest).length ≤ text.length :=
  h

theorem length_dropWhile_le_cons (p : UInt8 → Bool) (b : UInt8) (text : Bytes) :
    (text.dropWhile p).length ≤ (b :: text).length :=
  Nat.le_succ_of_le (length_dropWhile_le p text)

theorem length_skipBlanks_le (text : Bytes) : (skipBlanks text).length ≤ text.length :=
  length_dropWhile_le _ _

theorem length_lt_of_skipBlanks {text rest : Bytes} {b : UInt8} (h : skipBlanks text = b :: rest) :
    rest.length < text.length := by
  have le := length_skipBlanks_le text
  rw [h, List.length_cons] at le
  omega

/-- Nothing is read: the rest is the whole text. -/
def untouched (text : Bytes) : { rest : Bytes // rest.length ≤ text.length } :=
  ⟨text, Nat.le_refl _⟩

/-- The text behind a word that has to follow. -/
def expectWord : (word : Bytes) → (text : Bytes) →
    Except Fault { rest : Bytes // rest.length ≤ text.length }
  | [], text => .ok (untouched text)
  | _ :: _, [] => .error (.upon .endInValue [])
  | c :: word, b :: text =>
    if b = c then
      match expectWord word text with
      | .ok ⟨rest, h⟩ => .ok ⟨rest, length_le_cons_of_le b h⟩
      | .error fault => .error fault
    else .error (.after .expectedIdent text)

/-! ### Strings -/

/-- The value of four hexadecimal digits. -/
def readHex (text : Bytes) : Except Fault (Taken Nat text) :=
  match text with
  | a :: b :: c :: d :: rest =>
    match [a, b, c, d].mapM fun x => Text.CharSet.hexDigit? (Char.ofUInt8 x) with
    | some digits =>
      .ok ⟨digits.foldl (fun n digit => 16 * n + digit) 0, rest, by simp; omega⟩
    | none => .error (.after .invalidEscape rest)
  | _ => .error (.upon .endInString [])

/-- The character after `\u`.  Characters beyond the first 65536 are spelled by two escapes, and
neither half may stand alone. -/
def readUnicodeEscape (text : Bytes) : Except Fault (Taken Char text) :=
  match readHex text with
  | .error fault => .error fault
  | .ok ⟨high, rest, h⟩ =>
    if 0xDC00 ≤ high ∧ high ≤ 0xDFFF then .error (.after .loneSurrogate rest)
    else if high < 0xD800 ∨ 0xDBFF < high then .ok ⟨Char.ofNat high, rest, h⟩
    else match rest, h with
      | [], _ => .error (.upon .endInString [])
      | a :: rest, h =>
        if a ≠ '\\'.toUInt8 then .error (.after .endOfHexEscape rest)
        else match rest, h with
          | [], _ => .error (.upon .endInString [])
          | b :: rest, h =>
            if b ≠ 'u'.toUInt8 then .error (.after .endOfHexEscape rest)
            else match readHex rest with
              | .error fault => .error fault
              | .ok ⟨low, rest', h'⟩ =>
                if low < 0xDC00 ∨ 0xDFFF < low then .error (.after .loneSurrogate rest')
                else
                  .ok ⟨Char.ofNat (0x10000 + (high - 0xD800) * 0x400 + (low - 0xDC00)), rest', by
                    simp at h; omega⟩

/-- The character that a one-letter escape stands for. -/
def shortEscape? (letter : UInt8) : Option Char :=
  match Char.ofUInt8 letter with
  | '"' => some '"'
  | '\\' => some '\\'
  | '/' => some '/'
  | 'b' => some '\x08'
  | 'f' => some '\x0c'
  | 'n' => some '\n'
  | 'r' => some '\r'
  | 't' => some '\t'
  | _ => none

/-- The character that an escape stands for, from behind its backslash. -/
def readEscape (text : Bytes) : Except Fault (Taken Char text) :=
  match text with
  | [] => .error (.upon .endInString [])
  | letter :: rest =>
    if letter = 'u'.toUInt8 then
      match readUnicodeEscape rest with
      | .ok taken => .ok (taken.within (length_le_cons letter rest))
      | .error fault => .error fault
    else match shortEscape? letter with
      | some c => .ok ⟨c, rest, length_lt_cons letter rest⟩
      | none => .error (.after .invalidEscape rest)

/-- The bytes that a string stands for, from behind its opening quote to behind its closing one. -/
def readContent (text : Bytes) : Except Fault (Taken Bytes text) :=
  match text with
  | [] => .error (.upon .endInString [])
  | b :: rest =>
    if b = '"'.toUInt8 then .ok ⟨[], rest, length_lt_cons b rest⟩
    else if b = '\\'.toUInt8 then
      match readEscape rest with
      | .error fault => .error fault
      | .ok ⟨c, behind, h⟩ =>
        match readContent behind with
        | .error fault => .error fault
        | .ok ⟨content, rest', h'⟩ =>
          .ok ⟨String.utf8EncodeChar c ++ content, rest', by simp; omega⟩
    else if b < 0x20 then .error (.after .controlCharacter rest)
    else
      match readContent rest with
      | .error fault => .error fault
      | .ok ⟨content, rest', h'⟩ => .ok ⟨b :: content, rest', by simp; omega⟩
termination_by text.length

/-- The text that bytes are the encoding of. -/
def decode? (bytes : Bytes) : Option String := String.fromUTF8? ⟨bytes.toArray⟩

/-- The length of the longest prefix that is the encoding of a text. -/
def decodableLength (bytes : Bytes) : Nat :=
  let lengths := (List.range (bytes.length + 1)).reverse
  (lengths.find? fun n => (decode? (bytes.take n)).isSome).getD 0

/-- A string, from behind its opening quote.  Bytes that are not the encoding of a text are a fault
as far before the closing quote as the content goes on behind them. -/
def readString (text : Bytes) : Except Fault (Taken String text) :=
  match readContent text with
  | .error fault => .error fault
  | .ok ⟨content, rest, h⟩ =>
    match decode? content with
    | some s => .ok ⟨s, rest, h⟩
    | none =>
      let left := rest.length + (content.length - decodableLength content)
      .error ⟨.invalidUnicode, left, left⟩

/-! ### Numbers -/

def isDigit (b : UInt8) : Bool := 0x30 ≤ b && b ≤ 0x39

def digitValue (b : UInt8) : Nat := b.toNat - 0x30

/-- Appends digits to a number while it stays within a limit, and hands back the others. -/
def gather (limit n : Nat) : Bytes → Nat × Bytes
  | [] => (n, [])
  | digit :: digits =>
    let longer := 10 * n + digitValue digit
    if longer ≤ limit then gather limit longer digits else (n, digit :: digits)

def significandLimit : Nat := Nat.pow 2 64 - 1

/-- The largest exponent; the least is one further from zero. -/
def exponentLimit : Nat := Nat.pow 2 31 - 1

/-- The largest power of ten that a finite number comes near to. -/
def powerLimit : Nat := 308

/-- The number nearest to `10 ^ k`, for `k` up to `powerLimit`. -/
def powerOfTen (k : Nat) : Binary64.Finite :=
  (Binary64.Finite.ofNat? false (Nat.pow 10 k)).getD (.zero false)

/-- Divides by `10 ^ k`, in steps that a power of ten is at hand for. -/
def shrink (x : Binary64.Finite) (k : Nat) : Binary64.Finite :=
  if k ≤ powerLimit then quotient k
  else if x.isZero then x
  else shrink (quotient powerLimit) (k - powerLimit)
termination_by k
decreasing_by simp [powerLimit] at *; omega
where
  /-- One step; a quotient by a power of ten is finite. -/
  quotient (k : Nat) : Binary64.Finite :=
    match x.div (powerOfTen k) with
    | .finite y => y
    | _ => x

/-- The number `significand * 10 ^ exponent`, by one rounded operation where that is enough; none
when it is too large. -/
def scaled (significand : Nat) (exponent : Int) : Option Binary64.Finite :=
  let x := (Binary64.Finite.ofNat? false significand).getD (.zero false)
  if exponent < 0 then some (shrink x exponent.natAbs)
  else if exponent.natAbs ≤ powerLimit then
    match x.mul (powerOfTen exponent.natAbs) with
    | .finite y => some y
    | _ => none
  else if x.isZero then some x
  else none

/-- A number with a point or an exponent, from its parts. -/
def assemble (negative : Bool) (significand : Nat) (exponent : Int) (rest : Bytes) :
    Except Fault Number :=
  match scaled significand exponent with
  | some x => .ok (.float (if negative then x.neg else x))
  | none => .error (.afterLooking .numberOutOfRange rest)

/-- The digits of an exponent.  One beyond the limit leaves nothing of a number, or makes it too
large as soon as its digits show it. -/
def readExponentDigits (negative : Bool) (significand : Nat) (start : Int) (down : Bool)
    (text : Bytes) : Except Fault (Taken Number text) :=
  match text with
  | [] => .error (.after .endInValue [])
  | b :: rest =>
    if !isDigit b then .error (.after .invalidNumber rest)
    else
      let behind := rest.dropWhile isDigit
      have shorter : behind.length < (b :: rest).length :=
        Nat.lt_succ_of_le (length_dropWhile_le _ _)
      match gather exponentLimit 0 (b :: rest.takeWhile isDigit) with
      | (_, _ :: unread) =>
        if significand ≠ 0 ∧ !down then .error (.after .numberOutOfRange (unread ++ behind))
        else .ok ⟨.float (.zero negative), behind, shorter⟩
      | (exponent, []) =>
        let limit : Int := exponentLimit
        let sum : Int := if down then start - exponent else start + exponent
        match assemble negative significand (max (-limit - 1) (min limit sum)) behind with
        | .ok x => .ok ⟨x, behind, shorter⟩
        | .error fault => .error fault

/-- The exponent, from behind its mark. -/
def readExponent (negative : Bool) (significand : Nat) (start : Int) (text : Bytes) :
    Except Fault (Taken Number text) :=
  match text with
  | [] => readExponentDigits negative significand start false []
  | b :: rest =>
    if b = '+'.toUInt8 ∨ b = '-'.toUInt8 then
      match readExponentDigits negative significand start (b = '-'.toUInt8) rest with
      | .ok taken => .ok (taken.within (length_le_cons b rest))
      | .error fault => .error fault
    else readExponentDigits negative significand start false (b :: rest)

/-- The end of a number that is not an integer: an exponent or nothing. -/
def readScale (negative : Bool) (significand : Nat) (exponent : Int) (text : Bytes) :
    Except Fault (Number × { rest : Bytes // rest.length ≤ text.length }) :=
  match text with
  | [] => (assemble negative significand exponent []).map (·, untouched [])
  | b :: rest =>
    if b = 'e'.toUInt8 ∨ b = 'E'.toUInt8 then
      match readExponent negative significand exponent rest with
      | .ok ⟨x, behind, h⟩ => .ok (x, ⟨behind, Nat.le_of_lt (Nat.lt_succ_of_lt h)⟩)
      | .error fault => .error fault
    else (assemble negative significand exponent (b :: rest)).map (·, untouched (b :: rest))

/-- The fraction, from behind its point.  Digits that the significand has no room for are left
out. -/
def readFraction (negative : Bool) (significand : Nat) (exponent : Int) (text : Bytes) :
    Except Fault (Taken Number text) :=
  match text with
  | [] => .error (.upon .endInValue [])
  | b :: rest =>
    if !isDigit b then .error (.upon .invalidNumber (b :: rest))
    else
      let digits := b :: rest.takeWhile isDigit
      let (longer, unread) := gather significandLimit significand digits
      let count : Int := digits.length - unread.length
      match readScale negative longer (exponent - count) (rest.dropWhile isDigit) with
      | .ok (x, ⟨behind, h⟩) =>
        .ok ⟨x, behind, Nat.lt_succ_of_le (Nat.le_trans h (length_dropWhile_le _ _))⟩
      | .error fault => .error fault

/-- A number without point and exponent.  A negative zero, and an integer that takes more than 64
bits, are binary numbers. -/
def integer (negative : Bool) (n : Nat) : Number :=
  if !negative then .whole n
  else if n = 0 ∨ Nat.pow 2 63 < n then .float ((Binary64.Finite.ofNat? true n).getD (.zero true))
  else .whole (-n)

/-- The end of a number behind its first digits, of which `dropped` are not in the significand. -/
def readTail (negative : Bool) (significand dropped : Nat) (text : Bytes) :
    Except Fault (Number × { rest : Bytes // rest.length ≤ text.length }) :=
  match text with
  | [] =>
    if dropped = 0 then .ok (integer negative significand, untouched [])
    else readScale negative significand dropped []
  | b :: rest =>
    if b = '.'.toUInt8 then
      match readFraction negative significand dropped rest with
      | .ok ⟨x, behind, h⟩ => .ok (x, ⟨behind, Nat.le_of_lt (Nat.lt_succ_of_lt h)⟩)
      | .error fault => .error fault
    else if b = 'e'.toUInt8 ∨ b = 'E'.toUInt8 ∨ dropped ≠ 0 then
      readScale negative significand dropped (b :: rest)
    else .ok (integer negative significand, untouched (b :: rest))

/-- A number, from behind its minus sign if it has one. -/
def readNumber (negative : Bool) (text : Bytes) : Except Fault (Taken Number text) :=
  match text with
  | [] => .error (.after .endInValue [])
  | b :: rest =>
    if !isDigit b then .error (.after .invalidNumber rest)
    else if b = '0'.toUInt8 ∧ rest.head?.any isDigit then .error (.upon .invalidNumber rest)
    else
      let (significand, unread) := gather significandLimit 0 (b :: rest.takeWhile isDigit)
      match readTail negative significand unread.length (rest.dropWhile isDigit) with
      | .ok (x, ⟨behind, h⟩) =>
        .ok ⟨x, behind, Nat.lt_succ_of_le (Nat.le_trans h (length_dropWhile_le _ _))⟩
      | .error fault => .error fault

end SchemaCheck.Json
