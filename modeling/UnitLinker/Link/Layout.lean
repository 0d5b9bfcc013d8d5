import UnitLinker.Dependency.Search
import UnitLinker.Link.Relocation

/-!
# Layout and linking

Units are placed one after the other in dependency order, the program last.
Placing a unit reserves its blocks, fixes the addresses of its symbols and then
relocates its code. Either everything links or the first failure is the result.
-/

namespace UnitLinker.Link

/-- Why there is no linked image. -/
inductive Failure where
  /-- The units cannot be linked. -/
  | refused (error : LinkError)
  /-- A slot of a malformed unit is too large to compute with. -/
  | fault (fault : Fault)
  deriving DecidableEq, Repr

/-- A refusal as a failure. -/
def refusing {α : Type} (result : Except LinkError α) : Except Failure α :=
  result.mapError .refused

/-- What has been placed so far. -/
structure Layout where
  globals : Space
  code : Space
  instructions : List Instruction
  globalVars : List GlobalVar
  initOrder : List EntryPoint
  /-- Finalization blocks in the order of placement. -/
  finals : List EntryPoint
  units : Table UnitMap
  deriving DecidableEq, Repr

/-- The blocks of one unit, and the spaces after taking them. -/
structure Reservation where
  globals : Block
  code : Block
  globalsLeft : Space
  codeLeft : Space
  deriving DecidableEq, Repr

namespace Layout

/-- Nothing placed. -/
def fresh (options : Options) : Layout :=
  ⟨.fresh .globals options.maxGlobals, .fresh .code options.maxInstructions, [], [], [], [], .empty⟩

/-- The number of instructions of a unit after placement: the initialization and
the finalization block get a return each. -/
def codeLength (unit : ObjectUnit) : Nat :=
  unit.code.body.length + (unit.code.init.length + 1) + (unit.code.final.length + 1)

/-- Takes the blocks of a unit, globals first. -/
def reserve (layout : Layout) (unit : ObjectUnit) : Except LinkError Reservation := do
  let (globals, globalsLeft) ← layout.globals.reserve unit.name unit.vars.size
  let (code, codeLeft) ← layout.code.reserve unit.name (codeLength unit)
  return ⟨globals, code, globalsLeft, codeLeft⟩

/-- The routines of a unit whose body starts at an address. The first routine
whose entry is not in the body is refused. -/
def routineSymbols (unit : ObjectUnit) (bodyStart : UInt64) :
    Except LinkError (Table RoutineSymbol) :=
  let length := unit.code.body.length
  match unit.routines.entries.find? (fun entry => length ≤ entry.2.entry.toNat) with
  | some (name, routine) =>
    .error (.invalidEntry unit.name name routine.entry length routine.span)
  | none => .ok (unit.routines.map fun _ routine =>
    ⟨bodyStart + routine.entry, routine.visibility, routine.signature, routine.depth, routine.locals⟩)

/-- The variables of a unit whose slots start at a word. -/
def variableSymbols (unit : ObjectUnit) (start : UInt64) : Except Fault (Table VariableSymbol) :=
  if unit.vars.entries.all (fun entry => start.toNat + entry.2.slot.toNat < Word.count) then
    .ok (unit.vars.map fun _ entry => ⟨start + entry.slot, entry.visibility⟩)
  else .error .overflow

/-- The map of a unit in its blocks. -/
def unitMap (unit : ObjectUnit) (reservation : Reservation) : Except Failure UnitMap := do
  let start := reservation.code.start
  let init := start + UInt64.ofNat unit.code.body.length
  let final := init + UInt64.ofNat (unit.code.init.length + 1)
  let routines ← refusing (routineSymbols unit start)
  let vars ← (variableSymbols unit reservation.globals.start).mapError .fault
  return ⟨unit.kind, reservation.globals, ⟨start, init⟩, init, final, reservation.code.stop,
    routines, vars, unit.types⟩

/-- Places one unit. -/
def place (layout : Layout) (unit : ObjectUnit) : Except Failure Layout := do
  let reservation ← refusing (layout.reserve unit)
  let map ← unitMap unit reservation
  let linked ← refusing (Scope.relocateAll ⟨unit, map, layout.units⟩)
  return ⟨reservation.globalsLeft, reservation.codeLeft, layout.instructions ++ linked,
    layout.globalVars ++ unit.vars.names.map (fun name => ⟨unit.name, name⟩),
    layout.initOrder ++ [⟨unit.name, map.init⟩],
    layout.finals ++ [⟨unit.name, map.final⟩],
    layout.units.insert unit.name map⟩

/-- Places units one after the other. -/
def placeAll (layout : Layout) (units : List ObjectUnit) : Except Failure Layout :=
  units.foldlM place layout

/-- The image of a layout whose last unit is the program. -/
def toImage (layout : Layout) (main : UInt64) : Image :=
  ⟨layout.instructions, layout.globalVars, layout.initOrder, layout.finals.reverse, main,
    layout.units⟩

/-- The address of the main block once the program is placed. -/
def mainAddress (layout : Layout) : UInt64 :=
  match layout.initOrder.getLast? with
  | some entry => entry.address
  | none => 0

end Layout

/-- The units to place: those to link in dependency order, and then the program. -/
def sequence (units : List ObjectUnit) (program : ObjectUnit) (options : Options) :
    Except LinkError (List ObjectUnit) := do
  let order ← Dependency.resolveOrder units program options.stripUnused
  return order.map units.get ++ [program]

end Link

/-- Links a program with the units it uses. -/
def link (units : List ObjectUnit) (program : ObjectUnit) (options : Link.Options) :
    Except Link.Failure Image := do
  let sequence ← Link.refusing (Link.sequence units program options)
  let layout ← (Link.Layout.fresh options).placeAll sequence
  return layout.toImage layout.mainAddress

end UnitLinker
