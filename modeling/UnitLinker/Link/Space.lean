import UnitLinker.Image.Basic
import UnitLinker.Link.Error

/-!
# Spaces

Each unit gets one contiguous block of global slots and one of addresses.
Blocks are handed out in order from a bounded space and never overlap.
-/

namespace UnitLinker.Link

/-- What linking may be told. -/
structure Options where
  /-- Leave out units that the program does not reach. -/
  stripUnused : Bool
  /-- Limit of the global table. -/
  maxGlobals : UInt64
  /-- Limit of the instruction stream. -/
  maxInstructions : UInt64
  deriving DecidableEq, Repr

/-- Options unless told otherwise. -/
def Options.standard : Options := ⟨false, 0x10000, 0x1000000⟩

/-- A bounded supply of consecutive words. -/
structure Space where
  kind : SpaceKind
  /-- The first word that is not taken. -/
  next : UInt64
  limit : UInt64
  deriving DecidableEq, Repr

namespace Space

/-- A space with nothing taken. -/
def fresh (kind : SpaceKind) (limit : UInt64) : Space := ⟨kind, 0, limit⟩

/-- Takes the next words for a unit, if the limit allows. -/
def reserve (space : Space) (unit : String) (length : Nat) :
    Except LinkError (Block × Space) :=
  if space.next.toNat + length ≤ space.limit.toNat then
    let stop := space.next + UInt64.ofNat length
    .ok (⟨space.next, stop⟩, ⟨space.kind, stop, space.limit⟩)
  else .error (.spaceOverflow unit space.kind space.next length space.limit)

end Space

end UnitLinker.Link
