import UnitLinker.Decimal.Fixed

/-!
# Binary floating-point constants

A real constant is kept as its 64-bit interchange pattern, so the payload of a
not-a-number value and the sign of a zero survive. Its text has six decimal
places and is the exact binary value rounded once.
-/

namespace UnitLinker

/-- A double-precision number by its bit pattern. -/
structure Binary64 where
  bits : UInt64
  deriving DecidableEq, Repr

namespace Binary64

/-- The eleven exponent bits. -/
def exponentBits (real : Binary64) : Nat := real.bits.toNat / Nat.pow 2 52 % Nat.pow 2 11

/-- The fifty-two fraction bits. -/
def fractionBits (real : Binary64) : Nat := real.bits.toNat % Nat.pow 2 52

/-- Whether the sign bit is set. -/
def isNegative (real : Binary64) : Bool := Nat.pow 2 63 ≤ real.bits.toNat

/-- Whether the pattern is not a number. -/
def isNaN (real : Binary64) : Bool := real.exponentBits = 2047 && real.fractionBits ≠ 0

/-- Whether the pattern is a zero of either sign. -/
def isZero (real : Binary64) : Bool := real.bits.toNat % Nat.pow 2 63 = 0

/-- Equality as floating-point comparison has it: the two zeros are equal, and
what is not a number differs from everything. -/
def agrees (left right : Binary64) : Bool :=
  !left.isNaN && !right.isNaN && (left = right || (left.isZero && right.isZero))

/-- The magnitude of a finite pattern in units of `10 ^ -places`, rounded half
to even. Its integer significand counts units of `2 ^ (exponent - 1075)`, where
the exponents zero and one have the same scale. -/
def scaledMagnitude (places : Nat) (real : Binary64) : Nat :=
  let exponent := max real.exponentBits 1
  let significand :=
    if real.exponentBits = 0 then real.fractionBits else real.fractionBits + Nat.pow 2 52
  Decimal.roundHalfEven (significand * Nat.pow 10 places * Nat.pow 2 (exponent - 1075))
    (Nat.pow 2 (1075 - exponent))

/-- The decimal places of a real constant's text. -/
def textPlaces : Nat := 6

/-- A real constant as text. -/
def text (real : Binary64) : String :=
  if real.isNaN then "NaN"
  else
    let sign := if real.isNegative then "-" else ""
    if real.exponentBits = 2047 then sign ++ "inf"
    else sign ++ Decimal.fixedText textPlaces (real.scaledMagnitude textPlaces)

end Binary64

end UnitLinker
