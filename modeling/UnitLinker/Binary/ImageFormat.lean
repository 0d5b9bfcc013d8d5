import UnitLinker.Binary.UnitFormat
import UnitLinker.Image.Basic

/-!
# Stored images

The fields of a linked image in order.
-/

namespace UnitLinker.Binary

instance : Stored Block where
  write block := write block.start ++ write block.stop
  read policy := return ⟨← read policy, ← read policy⟩

instance : Stored GlobalVar where
  write var := write var.unit ++ write var.name
  read policy := return ⟨← read policy, ← read policy⟩

instance : Stored EntryPoint where
  write entry := write entry.unit ++ write entry.address
  read policy := return ⟨← read policy, ← read policy⟩

instance : Stored RoutineSymbol where
  write symbol := write symbol.address ++ write symbol.visibility ++ write symbol.signature
    ++ write symbol.depth ++ write symbol.locals
  read policy := return ⟨← read policy, ← read policy, ← read policy, ← read policy, ← read policy⟩

instance : Stored VariableSymbol where
  write symbol := write symbol.global ++ write symbol.visibility
  read policy := return ⟨← read policy, ← read policy⟩

instance : Stored UnitMap where
  write map := write map.kind ++ write map.globals ++ write map.body ++ write map.init
    ++ write map.final ++ write map.stop ++ write map.routines ++ write map.vars
    ++ write map.types
  read policy := return ⟨← read policy, ← read policy, ← read policy, ← read policy, ← read policy,
    ← read policy, ← read policy, ← read policy, ← read policy⟩

instance : Stored Image where
  write image := write image.instructions ++ write image.globals ++ write image.initOrder
    ++ write image.finalOrder ++ write image.main ++ write image.units
  read policy := return ⟨← read policy, ← read policy, ← read policy, ← read policy, ← read policy,
    ← read policy⟩

end UnitLinker.Binary

namespace UnitLinker.Image

/-- The stored form of an image. -/
def encode (image : Image) : Binary.Bytes := Binary.write image

/-- The image that bytes start with. -/
def decode (bytes : Binary.Bytes) : Except Binary.ReadError Image :=
  Binary.decode .lastWins bytes

end UnitLinker.Image
