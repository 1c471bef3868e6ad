import SchemaCheck.Number.Shortest

/-!
# Numbers of JSON

A number is an integer or a finite binary number, by the way it was written.  `Json.Number.exact`
gives both sorts one exact scale, so that comparing numbers is comparing integers.
`Json.Number.wide?` is the integer of 128 bits that stands for a number where limits are checked.
-/

namespace SchemaCheck.Json

/-- A number: an integer, or a binary number that was written with a point or an exponent. -/
inductive Number
  | whole (n : Int)
  | float (x : Binary64.Finite)
  deriving DecidableEq

namespace Number

/-- The exact value, in grains. -/
def exact : Number → Int
  | .whole n => n * Binary64.grainsPerUnit
  | .float x => x.grains

/-- The integer that the number is, however it was written. -/
def whole? : Number → Option Int
  | .whole n => some n
  | .float x => x.whole?

/-- An integer cut to 128 bits: what is beyond them becomes the last one on its side. -/
def saturated (k : Int) : Int := max (-Nat.pow 2 127) (min k (Nat.pow 2 127 - 1))

/-- The integer of 128 bits that stands for the number, if that has no fractional part.  The
integers that are read have room in it, but binary numbers may be beyond it. -/
def wide? : Number → Option Int
  | .whole n => some n
  | .float x => x.whole?.map saturated

@[simp] theorem isSome_wide? (n : Number) : n.wide?.isSome = n.whole?.isSome := by
  cases n with
  | whole k => rfl
  | float x => exact Option.isSome_map

/-- The binary number nearest to it. -/
def toBinary64 : Number → Binary64
  | .whole n => .ofInt n
  | .float x => .finite x

/-- Positional from `0.00001` up to sixteen digits, and never without a digit after the point. -/
def style : DecimalStyle := ⟨fun point => -4 ≤ point && point ≤ 16, ".0"⟩

def spell : Number → String
  | .whole n => n.repr
  | .float x => x.spell style .toEven

end Number

end SchemaCheck.Json
