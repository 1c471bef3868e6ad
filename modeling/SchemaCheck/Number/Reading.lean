import SchemaCheck.Number.Binary64

/-!
# Reading decimal text

`Binary64.ofText?` reads a sign, a decimal with an optional exponent, or the name of a number that
is not finite, and rounds the exact decimal once.
-/

namespace SchemaCheck

namespace Binary64

/-- The number `coefficient * 10 ^ exponent`, correctly rounded.  A power that no double reaches is
not computed. -/
def ofDecimal (negative : Bool) (coefficient : Nat) (exponent : Int) : Binary64 :=
  if coefficient = 0 ∨ exponent + coefficient.log2 < -400 then .finite (.zero negative)
  else if 400 < exponent then .infinite negative
  else ofRatio negative (coefficient * Nat.pow 10 exponent.toNat * grainsPerUnit)
    (Nat.pow 10 (-exponent).toNat)

/-- The number that a run of decimal digits spells. -/
def digitsValue (digits : List Char) : Nat :=
  digits.foldl (fun n c => 10 * n + (c.toNat - '0'.toNat)) 0

/-- An exponent: its mark, an optional sign and at least one digit. -/
def exponentOf? : List Char → Option Int
  | [] => some 0
  | mark :: rest =>
    if mark.toLower != 'e' then none
    else
      let (negative, digits) := match rest with
        | '-' :: digits => (true, digits)
        | '+' :: digits => (false, digits)
        | digits => (false, digits)
      if digits.isEmpty || !digits.all Char.isDigit then none
      else if negative then some (-(digitsValue digits : Int)) else some (digitsValue digits)

/-- A decimal without sign: digits on at least one side of the point, and an optional exponent. -/
def ofUnsigned? (negative : Bool) (text : List Char) : Option Binary64 :=
  let before := text.takeWhile Char.isDigit
  let rest := text.dropWhile Char.isDigit
  let (after, rest) := match rest with
    | '.' :: rest => (rest.takeWhile Char.isDigit, rest.dropWhile Char.isDigit)
    | rest => ([], rest)
  if before.isEmpty && after.isEmpty then none
  else (exponentOf? rest).map fun exponent =>
    ofDecimal negative (digitsValue (before ++ after)) (exponent - after.length)

/-- The number that a text spells. -/
def ofText? (text : String) : Option Binary64 :=
  let (negative, rest) := match text.toList with
    | '-' :: rest => (true, rest)
    | '+' :: rest => (false, rest)
    | rest => (false, rest)
  let name := String.ofList (rest.map Char.toLower)
  if name == "inf" || name == "infinity" then some (.infinite negative)
  else if name == "nan" then some .nan
  else ofUnsigned? negative rest

end Binary64

end SchemaCheck
