import SchemaCheck.Json.Scan

/-!
# Reading JSON values

* `Json.readValue`: a value that nests at most as deep as it is told;
* `Json.read`: a whole text, which holds one value and nothing behind it;
* `Json.skipValue`: a value that is not wanted.  Its nesting has no limit, its numbers have no range
  and its strings may hold any bytes.
-/

namespace SchemaCheck.Json

/-! ### Items and members -/

/-- What follows an item or a member: another one that begins with the rest, or nothing more, and
the rest is behind the container. -/
inductive Next (text : Bytes)
  | more (rest : Bytes) (shorter : rest.length < text.length)
  | done (rest : Bytes) (shorter : rest.length < text.length)

/-- What follows an item or a member: a comma and the next one, or the byte that closes the
container.  A container cannot close right behind a comma. -/
def expectNext (closing : UInt8) (atEnd otherwise : Cause) (text : Bytes) :
    Except Fault (Next text) :=
  match h : skipBlanks text with
  | [] => .error (.upon atEnd [])
  | b :: behind =>
    have hb := length_lt_of_skipBlanks h
    if b = closing then .ok (.done behind hb)
    else if b ≠ ','.toUInt8 then .error (.upon otherwise (b :: behind))
    else
      match hn : skipBlanks behind with
      | [] => .error (.upon .endInValue [])
      | c :: next =>
        have hc := length_lt_of_skipBlanks hn
        if c = closing then .error (.upon .trailingComma (c :: next))
        else .ok (.more (c :: next) (by simp; omega))

/-- What follows an item of an array. -/
def expectNextItem : (text : Bytes) → Except Fault (Next text) :=
  expectNext ']'.toUInt8 .endInList .expectedCommaOrBracket

/-- What follows a member of an object. -/
def expectNextMember : (text : Bytes) → Except Fault (Next text) :=
  expectNext '\x7d'.toUInt8 .endInObject .expectedCommaOrBrace

/-- The items of an array, from the first one to behind the closing bracket. -/
def readItems {α : Type} (item : Reader α) (text : Bytes) : Except Fault (Taken (List α) text) :=
  match item text with
  | .error fault => .error fault
  | .ok ⟨value, rest, h⟩ =>
    match expectNextItem rest with
    | .error fault => .error fault
    | .ok (.done behind hb) => .ok ⟨[value], behind, by omega⟩
    | .ok (.more next hn) =>
      match readItems item next with
      | .error fault => .error fault
      | .ok ⟨values, last, hl⟩ => .ok ⟨value :: values, last, by omega⟩
termination_by text.length

/-- An array, from behind its opening bracket. -/
def readArray {α : Type} (item : Reader α) (text : Bytes) : Except Fault (Taken (List α) text) :=
  match h : skipBlanks text with
  | [] => .error (.upon .endInList [])
  | b :: rest =>
    have hb := length_lt_of_skipBlanks h
    if b = ']'.toUInt8 then .ok ⟨[], rest, hb⟩
    else
      match readItems item (b :: rest) with
      | .ok taken => .ok (taken.within (length_cons_le_of_lt b hb))
      | .error fault => .error fault

/-- The text behind the colon that follows a key. -/
def expectColon (text : Bytes) : Except Fault { rest : Bytes // rest.length < text.length } :=
  match h : skipBlanks text with
  | [] => .error (.upon .endInObject [])
  | b :: rest =>
    if b = ':'.toUInt8 then .ok ⟨rest, length_lt_of_skipBlanks h⟩
    else .error (.upon .expectedColon (b :: rest))

/-- A key, which has to begin at once. -/
def readKey (text : Bytes) : Except Fault (Taken String text) :=
  match text with
  | [] => .error (.upon .endInValue [])
  | q :: rest =>
    if q ≠ '"'.toUInt8 then .error (.upon .keyMustBeString (q :: rest))
    else
      match readString rest with
      | .error fault => .error fault
      | .ok taken => .ok (taken.within (length_le_cons q rest))

/-- The members of an object, from the first key to behind the closing brace. -/
def readMembers {α : Type} (value : Reader α) (text : Bytes) :
    Except Fault (Taken (List (String × α)) text) :=
  match readKey text with
  | .error fault => .error fault
  | .ok ⟨key, afterKey, hk⟩ =>
  match expectColon afterKey with
  | .error fault => .error fault
  | .ok ⟨afterColon, hc⟩ =>
  match value afterColon with
  | .error fault => .error fault
  | .ok ⟨v, rest, hv⟩ =>
  match expectNextMember rest with
  | .error fault => .error fault
  | .ok (.done behind hb) => .ok ⟨[(key, v)], behind, by omega⟩
  | .ok (.more next hn) =>
    match readMembers value next with
    | .error fault => .error fault
    | .ok ⟨members, last, hl⟩ => .ok ⟨(key, v) :: members, last, by omega⟩
termination_by text.length

/-- An object, from behind its opening brace. -/
def readObject {α : Type} (value : Reader α) (text : Bytes) :
    Except Fault (Taken (List (String × α)) text) :=
  match h : skipBlanks text with
  | [] => .error (.upon .endInObject [])
  | b :: rest =>
    have hb := length_lt_of_skipBlanks h
    if b = '\x7d'.toUInt8 then .ok ⟨[], rest, hb⟩
    else
      match readMembers value (b :: rest) with
      | .ok taken => .ok (taken.within (length_cons_le_of_lt b hb))
      | .error fault => .error fault

/-! ### Values -/

/-- The value of a word, from behind its first letter. -/
def readWord (word : String) (value : Json) (text : Bytes) :
    Except Fault (Json × { rest : Bytes // rest.length ≤ text.length }) :=
  (expectWord (word.toList.map Char.toUInt8) text).map (value, ·)

/-- A value that is neither an array nor an object, given its first byte; none for a byte that no
such value begins with. -/
def readScalar? (first : UInt8) (text : Bytes) :
    Option (Except Fault (Json × { rest : Bytes // rest.length ≤ text.length })) :=
  if first = 'n'.toUInt8 then some (readWord "ull" .null text)
  else if first = 't'.toUInt8 then some (readWord "rue" (.bool true) text)
  else if first = 'f'.toUInt8 then some (readWord "alse" (.bool false) text)
  else if first = '"'.toUInt8 then
    some ((readString text).map fun taken =>
      (.string taken.value, ⟨taken.rest, Nat.le_of_lt taken.shorter⟩))
  else if first = '-'.toUInt8 then
    some ((readNumber true text).map fun taken =>
      (.number taken.value, ⟨taken.rest, Nat.le_of_lt taken.shorter⟩))
  else if isDigit first then
    some ((readNumber false (first :: text)).map fun taken =>
      (.number taken.value, ⟨taken.rest, Nat.le_of_lt_succ taken.shorter⟩))
  else none

/-- A value in which at most `depth` arrays and objects are nested. -/
def readValue (depth : Nat) (text : Bytes) : Except Fault (Taken Json text) :=
  match h : skipBlanks text with
  | [] => .error (.upon .endInValue [])
  | b :: rest =>
    have hb := length_lt_of_skipBlanks h
    match readScalar? b rest with
    | some (.ok (value, ⟨behind, hs⟩)) => .ok ⟨value, behind, by omega⟩
    | some (.error fault) => .error fault
    | none =>
      if b = '['.toUInt8 then
        match depth with
        | 0 => .error (.upon .depthLimit (b :: rest))
        | depth + 1 =>
          match readArray (readValue depth) rest with
          | .ok taken => .ok ((taken.map .array).within (Nat.le_of_lt hb))
          | .error fault => .error fault
      else if b = '\x7b'.toUInt8 then
        match depth with
        | 0 => .error (.upon .depthLimit (b :: rest))
        | depth + 1 =>
          match readObject (readValue depth) rest with
          | .ok taken => .ok ((taken.map fun pairs => .object (ofPairs pairs)).within
              (Nat.le_of_lt hb))
          | .error fault => .error fault
      else .error (.upon .expectedValue (b :: rest))

/-- The number of arrays and objects that may be nested. -/
def depthLimit : Nat := 127

def expectEnd (text : Bytes) : Except Fault Unit :=
  match skipBlanks text with
  | [] => .ok ()
  | rest => .error (.upon .trailingCharacters rest)

/-- What `reader` reads from a whole text. -/
def readAll {α : Type} (reader : Reader α) (text : Bytes) : Except Fault α :=
  match reader text with
  | .error fault => .error fault
  | .ok taken =>
    match expectEnd taken.rest with
    | .error fault => .error fault
    | .ok () => .ok taken.value

def read (text : Bytes) : Except Fault Json := readAll (readValue depthLimit) text

def bytesOf (text : String) : Bytes := text.toByteArray.data.toList

/-- The value that a text spells, or the message about its fault. -/
def readText (text : String) : Except String Json :=
  (read (bytesOf text)).mapError (Fault.message (bytesOf text))

/-! ### Values that are not wanted -/

/-- The text behind a string, of which nothing but the escapes is looked at. -/
def skipString (text : Bytes) : Except Fault (Taken Unit text) :=
  match text with
  | [] => .error (.upon .endInString [])
  | b :: rest =>
    if b = '"'.toUInt8 then .ok ⟨(), rest, length_lt_cons b rest⟩
    else if b = '\\'.toUInt8 then
      match rest with
      | [] => .error (.upon .endInString [])
      | letter :: rest =>
        if letter = 'u'.toUInt8 then
          match readHex rest with
          | .error fault => .error fault
          | .ok ⟨_, behind, h⟩ =>
            match skipString behind with
            | .ok taken => .ok (taken.within (length_le_cons_cons_of_lt b letter h))
            | .error fault => .error fault
        else if (shortEscape? letter).isNone then .error (.after .invalidEscape rest)
        else
          match skipString rest with
          | .ok taken => .ok (taken.within (length_le_cons_cons b letter rest))
          | .error fault => .error fault
    else if b < 0x20 then .error (.after .controlCharacter rest)
    else
      match skipString rest with
      | .ok taken => .ok (taken.within (length_le_cons b rest))
      | .error fault => .error fault
termination_by text.length
decreasing_by
  · exact length_lt_cons_cons_of_lt _ _ ‹_›
  · exact length_lt_cons_cons b letter rest
  · exact length_lt_cons b rest

/-- The text behind an exponent, from behind its mark. -/
def skipExponent (text : Bytes) : Except Fault { rest : Bytes // rest.length ≤ text.length } :=
  let digitsFrom (text : Bytes) : Except Fault { rest : Bytes // rest.length ≤ text.length } :=
    match text with
    | [] => .error (.after .invalidNumber [])
    | b :: rest =>
      if isDigit b then
        .ok ⟨rest.dropWhile isDigit, length_dropWhile_le_cons isDigit b rest⟩
      else .error (.after .invalidNumber rest)
  match text with
  | [] => digitsFrom []
  | b :: rest =>
    if b = '+'.toUInt8 ∨ b = '-'.toUInt8 then
      (digitsFrom rest).map fun ⟨behind, h⟩ => ⟨behind, length_le_cons_of_le b h⟩
    else digitsFrom (b :: rest)

/-- The text behind the exponent of a number, if it has one. -/
def skipScale (text : Bytes) : Except Fault { rest : Bytes // rest.length ≤ text.length } :=
  match text with
  | [] => .ok (untouched [])
  | b :: rest =>
    if b = 'e'.toUInt8 ∨ b = 'E'.toUInt8 then
      (skipExponent rest).map fun ⟨behind, h⟩ => ⟨behind, length_le_cons_of_le b h⟩
    else .ok (untouched (b :: rest))

/-- The text behind a number, from behind its minus sign if it has one. -/
def skipNumber (text : Bytes) : Except Fault (Taken Unit text) :=
  match text with
  | [] => .error (.after .invalidNumber [])
  | b :: rest =>
    if !isDigit b then .error (.after .invalidNumber rest)
    else if b = '0'.toUInt8 ∧ rest.head?.any isDigit then .error (.upon .invalidNumber rest)
    else
      match h : rest.dropWhile isDigit with
      | [] => .ok ⟨(), [], by simp⟩
      | c :: fraction =>
        have hc : fraction.length < rest.length := by
          have le := length_dropWhile_le isDigit rest
          rw [h, List.length_cons] at le
          omega
        if c = '.'.toUInt8 then
          match fraction.head?.any isDigit, skipScale (fraction.dropWhile isDigit) with
          | false, _ => .error (.upon .invalidNumber fraction)
          | true, .error fault => .error fault
          | true, .ok ⟨behind, hf⟩ => .ok ⟨(), behind, by
              have := length_dropWhile_le isDigit fraction
              simp
              omega⟩
        else
          match skipScale (c :: fraction) with
          | .error fault => .error fault
          | .ok ⟨behind, hf⟩ => .ok ⟨(), behind, by simp at hf ⊢; omega⟩

/-- The text behind items that are separated by commas, from the first one to behind the closing
bracket. -/
def skipItems (item : Reader Unit) (text : Bytes) : Except Fault (Taken Unit text) :=
  match item text with
  | .error fault => .error fault
  | .ok ⟨_, rest, h⟩ =>
    match hr : skipBlanks rest with
    | [] => .error (.upon .endInList [])
    | b :: behind =>
      have hb := length_lt_of_skipBlanks hr
      if b = ']'.toUInt8 then .ok ⟨(), behind, by omega⟩
      else if b ≠ ','.toUInt8 then .error (.upon .expectedCommaOrBracket (b :: behind))
      else
        have : behind.length < text.length := by omega
        match skipItems item behind with
        | .error fault => .error fault
        | .ok taken => .ok (taken.within (by omega))
termination_by text.length

/-- The text behind members that are separated by commas, from before the first key to behind the
closing brace. -/
def skipMembers (value : Reader Unit) (text : Bytes) : Except Fault (Taken Unit text) :=
  match hq : skipBlanks text with
  | [] => .error (.upon .endInObject [])
  | q :: key =>
    have hk := length_lt_of_skipBlanks hq
    if q ≠ '"'.toUInt8 then .error (.upon .keyMustBeString (q :: key))
    else
      match skipString key with
      | .error fault => .error fault
      | .ok ⟨_, afterKey, ha⟩ =>
      match expectColon afterKey with
      | .error fault => .error fault
      | .ok ⟨afterColon, hcolon⟩ =>
      match value afterColon with
      | .error fault => .error fault
      | .ok ⟨_, rest, hv⟩ =>
      match hr : skipBlanks rest with
      | [] => .error (.upon .endInObject [])
      | b :: behind =>
        have hb := length_lt_of_skipBlanks hr
        if b = '\x7d'.toUInt8 then .ok ⟨(), behind, by omega⟩
        else if b ≠ ','.toUInt8 then .error (.upon .expectedCommaOrBrace (b :: behind))
        else
          have : behind.length < text.length := by omega
          match skipMembers value behind with
          | .error fault => .error fault
          | .ok taken => .ok (taken.within (by omega))
termination_by text.length

/-- The text behind an array, from behind its opening bracket. -/
def skipArray (item : Reader Unit) (text : Bytes) : Except Fault (Taken Unit text) :=
  match h : skipBlanks text with
  | [] => .error (.upon .endInList [])
  | b :: rest =>
    if b = ']'.toUInt8 then .ok ⟨(), rest, length_lt_of_skipBlanks h⟩ else skipItems item text

/-- The text behind an object, from behind its opening brace. -/
def skipObject (value : Reader Unit) (text : Bytes) : Except Fault (Taken Unit text) :=
  match h : skipBlanks text with
  | [] => .error (.upon .endInObject [])
  | b :: rest =>
    if b = '\x7d'.toUInt8 then .ok ⟨(), rest, length_lt_of_skipBlanks h⟩ else skipMembers value text

/-- The text behind a value in which at most `depth` arrays and objects are nested. -/
def skipNested (depth : Nat) (text : Bytes) : Except Fault (Taken Unit text) :=
  match h : skipBlanks text with
  | [] => .error (.upon .endInValue [])
  | b :: rest =>
    have hb := length_lt_of_skipBlanks h
    if b = '"'.toUInt8 then
      match skipString rest with
      | .ok taken => .ok (taken.within (Nat.le_of_lt hb))
      | .error fault => .error fault
    else if b = '-'.toUInt8 then
      match skipNumber rest with
      | .ok taken => .ok (taken.within (Nat.le_of_lt hb))
      | .error fault => .error fault
    else if isDigit b then
      match skipNumber (b :: rest) with
      | .ok taken => .ok (taken.within (length_cons_le_of_lt b hb))
      | .error fault => .error fault
    else if b = '['.toUInt8 then
      match depth with
      | 0 => .error (.upon .depthLimit (b :: rest))
      | depth + 1 =>
        match skipArray (skipNested depth) rest with
        | .ok taken => .ok (taken.within (Nat.le_of_lt hb))
        | .error fault => .error fault
    else if b = '\x7b'.toUInt8 then
      match depth with
      | 0 => .error (.upon .depthLimit (b :: rest))
      | depth + 1 =>
        match skipObject (skipNested depth) rest with
        | .ok taken => .ok (taken.within (Nat.le_of_lt hb))
        | .error fault => .error fault
    else
      match readScalar? b rest with
      | some (.ok (_, ⟨behind, hs⟩)) => .ok ⟨(), behind, by omega⟩
      | some (.error fault) => .error fault
      | none => .error (.upon .expectedValue (b :: rest))

/-- The text behind a value.  A text cannot nest deeper than it is long. -/
def skipValue (text : Bytes) : Except Fault (Taken Unit text) := skipNested text.length text

end SchemaCheck.Json
