/-!
# Machine words

Slots, offsets, addresses and counts are 64-bit words. Sums and products of
words are checked: a result that does not fit is a `Fault`, which is kept apart
from every error of the linker itself.
-/

namespace UnitLinker

/-- Why a computation on machine words has no result. -/
inductive Fault where
  /-- A sum, difference or product does not fit into its type. -/
  | overflow
  /-- A range reaches past the end of the sequence it selects from. -/
  | outOfRange
  deriving DecidableEq, Repr

namespace Word

/-- The number of distinct words. -/
abbrev count : Nat := UInt64.size

/-- The sum of two words, if it is a word. -/
def add (left right : UInt64) : Except Fault UInt64 :=
  if left.toNat + right.toNat < count then .ok (left + right) else .error .overflow

/-- The product of two words, if it is a word. -/
def mul (left right : UInt64) : Except Fault UInt64 :=
  if left.toNat * right.toNat < count then .ok (left * right) else .error .overflow

/-- A word read as decimal digits with an optional leading plus sign. -/
def ofDecimal? (text : String) : Option UInt64 :=
  let digits := match text.toList with
    | '+' :: rest => rest
    | other => other
  if digits.isEmpty || !digits.all Char.isDigit then none
  else
    let value := digits.foldl (fun total digit => 10 * total + (digit.toNat - '0'.toNat)) 0
    if value < count then some (UInt64.ofNat value) else none

end Word

end UnitLinker
