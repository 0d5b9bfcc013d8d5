/-!
# Sets of characters

A set of characters is kept as closed ranges of codes, in order and with a gap between
any two. So a set has one form, and sets are equal if they have the same ranges.
-/

namespace UnitLinker.Text

/-- A set of characters as ranges of codes. -/
structure CharSet where
  ranges : List (Nat × Nat)
  deriving DecidableEq, Repr

namespace CharSet

/-- The greatest code of a character. -/
def lastCode : Nat := 0x10FFFF

/-- The greatest code that takes one byte. -/
def lastNarrow : Nat := 0x7F

/-- No characters. -/
def empty : CharSet := ⟨[]⟩

/-- All characters. -/
def all : CharSet := ⟨[(0, lastCode)]⟩

/-- Adds a range to ranges in order, joined with those that it meets. -/
def addRange (low high : Nat) : List (Nat × Nat) → List (Nat × Nat)
  | [] => [(low, high)]
  | (first, last) :: rest =>
    if high + 1 < first then (low, high) :: (first, last) :: rest
    else if last + 1 < low then (first, last) :: addRange low high rest
    else addRange (min low first) (max high last) rest

/-- The set of the characters in some ranges. -/
def ofRanges (ranges : List (Nat × Nat)) : CharSet :=
  ⟨ranges.foldl (fun ordered range => addRange range.1 range.2 ordered) []⟩

/-- The set of one character. -/
def single (char : Char) : CharSet := ⟨[(char.toNat, char.toNat)]⟩

/-- Whether a set has no characters. -/
def isEmpty (set : CharSet) : Bool := set.ranges.isEmpty

/-- Whether a character is in a set. -/
def contains (set : CharSet) (char : Char) : Bool :=
  set.ranges.any fun range => range.1 ≤ char.toNat && char.toNat ≤ range.2

/-- Whether all characters of a set take one byte. -/
def isNarrow (set : CharSet) : Bool := set.ranges.all fun range => range.2 ≤ lastNarrow

/-- The only code in a set. -/
def single? (set : CharSet) : Option Nat :=
  match set.ranges with
  | [(low, high)] => if low = high then some low else none
  | _ => none

/-- The characters of two sets. -/
def union (left right : CharSet) : CharSet := .ofRanges (left.ranges ++ right.ranges)

/-- What two ranges have in common. -/
def overlap? (left right : Nat × Nat) : Option (Nat × Nat) :=
  let low := max left.1 right.1
  let high := min left.2 right.2
  if low ≤ high then some (low, high) else none

/-- The characters that two sets have in common. -/
def inter (left right : CharSet) : CharSet :=
  ⟨left.ranges.flatMap fun range => right.ranges.filterMap (overlap? range)⟩

/-- The gaps before, between and after ranges, from a code on. -/
def gaps (start : Nat) : List (Nat × Nat) → List (Nat × Nat)
  | [] => if start ≤ lastCode then [(start, lastCode)] else []
  | (low, high) :: rest =>
    if start < low then (start, low - 1) :: gaps (high + 1) rest else gaps (high + 1) rest

/-- The characters that are not in a set. -/
def complement (set : CharSet) : CharSet := ⟨gaps 0 set.ranges⟩

/-- The characters of the first set that are not in the second. -/
def diff (left right : CharSet) : CharSet := left.inter right.complement

/-- The characters of one set that are not in the other. -/
def symmDiff (left right : CharSet) : CharSet := (left.diff right).union (right.diff left)

/-- Capital letters of one byte. -/
def capitals : CharSet := ⟨[(0x41, 0x5A)]⟩

/-- Small letters of one byte. -/
def smalls : CharSet := ⟨[(0x61, 0x7A)]⟩

/-- A set with both cases of each of its letters of one byte. -/
def withCases (set : CharSet) : CharSet :=
  .ofRanges (set.ranges
    ++ (set.inter capitals).ranges.map (fun range => (range.1 + 0x20, range.2 + 0x20))
    ++ (set.inter smalls).ranges.map (fun range => (range.1 - 0x20, range.2 - 0x20)))

end CharSet

end UnitLinker.Text
