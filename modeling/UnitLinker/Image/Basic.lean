import UnitLinker.ObjectUnit.Basic

/-!
# Linked images

The result of linking: one instruction stream and one table of global variables
for a whole program, with a map of where every unit and symbol was placed.
-/

namespace UnitLinker

/-- The words from a start up to but not including a stop. -/
structure Block where
  start : UInt64
  stop : UInt64
  deriving DecidableEq, Repr

/-- The owner of a slot of the global table. -/
structure GlobalVar where
  unit : String
  name : String
  deriving DecidableEq, Repr

/-- The qualified name of a global variable. -/
def GlobalVar.text (var : GlobalVar) : String := s!"{var.unit}.{var.name}"

/-- The initialization or finalization block of a unit. -/
structure EntryPoint where
  unit : String
  address : UInt64
  deriving DecidableEq, Repr

/-- A routine after placement. -/
structure RoutineSymbol where
  address : UInt64
  visibility : Visibility
  signature : Signature
  depth : UInt64
  locals : UInt64
  deriving DecidableEq, Repr

/-- A variable after placement. -/
structure VariableSymbol where
  global : UInt64
  visibility : Visibility
  deriving DecidableEq, Repr

/-- Where a unit was placed. -/
structure UnitMap where
  kind : UnitKind
  /-- Slots of its variables. -/
  globals : Block
  /-- Addresses of its body. -/
  body : Block
  /-- Address of its initialization block. -/
  init : UInt64
  /-- Address of its finalization block. -/
  final : UInt64
  /-- The address after its last instruction. -/
  stop : UInt64
  routines : Table RoutineSymbol
  vars : Table VariableSymbol
  types : TypeTables
  deriving DecidableEq, Repr

namespace UnitMap

/-- All addresses of a unit. -/
def code (map : UnitMap) : Block := ⟨map.body.start, map.stop⟩

/-- The address at which a section starts. -/
def base (map : UnitMap) : Section → UInt64
  | .body => map.body.start
  | .init => map.init
  | .final => map.final

/-- The addresses of a section. -/
def block (map : UnitMap) : Section → Block
  | .body => map.body
  | .init => ⟨map.init, map.final⟩
  | .final => ⟨map.final, map.stop⟩

/-- A routine that other units may call. -/
def exportedRoutine? (map : UnitMap) (name : String) : Option RoutineSymbol :=
  (map.routines.get? name).filter fun symbol => symbol.visibility.isExported

/-- A variable that other units may refer to. -/
def exportedVariable? (map : UnitMap) (name : String) : Option VariableSymbol :=
  (map.vars.get? name).filter fun symbol => symbol.visibility.isExported

end UnitMap

/-- A linked program. -/
structure Image where
  instructions : List Instruction
  globals : List GlobalVar
  /-- Initialization blocks in dependency order, the main block last. -/
  initOrder : List EntryPoint
  /-- Finalization blocks in the reverse order. -/
  finalOrder : List EntryPoint
  /-- Address of the main block. -/
  main : UInt64
  units : Table UnitMap
  deriving DecidableEq, Repr

namespace Image

/-- The entry address of a routine of a unit. -/
def routineAddress? (image : Image) (unit name : String) : Option UInt64 := do
  let map ← image.units.get? unit
  let symbol ← map.routines.get? name
  return symbol.address

/-- The slot of a variable of a unit. -/
def globalSlot? (image : Image) (unit name : String) : Option UInt64 := do
  let map ← image.units.get? unit
  let symbol ← map.vars.get? name
  return symbol.global

/-- Whether no instruction refers to anything by name or by a place in a unit. -/
def isFullyLinked (image : Image) : Bool := image.instructions.all Instruction.isLinked

end Image

end UnitLinker
