/-!
# Decimals with a fixed number of places

A quotient is rounded to the nearest integer, and a tie goes to the even
neighbour. A number of units of the last place is then written with all of its
integer digits.
-/

namespace UnitLinker.Decimal

/-- The integer nearest to a quotient; of two nearest integers, the even one. -/
def roundHalfEven (numerator denominator : Nat) : Nat :=
  let quotient := numerator / denominator
  let twice := 2 * (numerator % denominator)
  if twice < denominator then quotient
  else if denominator < twice then quotient + 1
  else if quotient % 2 = 0 then quotient else quotient + 1

/-- The decimal digits of a number, at least as many as asked for. -/
def paddedDigits (width value : Nat) : String :=
  let digits := toString value
  String.ofList (List.replicate (width - digits.length) '0') ++ digits

/-- A count of units of the last place as a decimal text. -/
def fixedText (places units : Nat) : String :=
  let scale := Nat.pow 10 places
  s!"{units / scale}.{paddedDigits places (units % scale)}"

end UnitLinker.Decimal
