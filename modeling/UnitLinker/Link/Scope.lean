import UnitLinker.Link.Space

/-!
# Scope

How a name in a unit is bound. An unqualified name means a symbol of the unit
itself, whatever its visibility; failing that, a symbol that exactly one unit of
the uses clause exports. A qualified name means a symbol of the named unit, which
is the unit itself or a unit of the uses clause that exports it.
-/

namespace UnitLinker.Link

/-- A unit with its own placement and everything placed before it. -/
structure Scope where
  unit : ObjectUnit
  map : UnitMap
  placed : Table UnitMap

/-- How the symbols of one kind are looked up in a placed unit. -/
structure SymbolLookup where
  kind : SymbolKind
  /-- A symbol that the unit declares. -/
  own : UnitMap → String → Option UInt64
  /-- A symbol that the unit exports. -/
  exported : UnitMap → String → Option UInt64

/-- Variables by their global slots. -/
def SymbolLookup.vars : SymbolLookup where
  kind := .var
  own map name := (map.vars.get? name).map VariableSymbol.global
  exported map name := (map.exportedVariable? name).map VariableSymbol.global

/-- Routines by their addresses. -/
def SymbolLookup.routines : SymbolLookup where
  kind := .routine
  own map name := (map.routines.get? name).map RoutineSymbol.address
  exported map name := (map.exportedRoutine? name).map RoutineSymbol.address

namespace Scope

/-- The error for a name without a binding. -/
def unresolved (scope : Scope) (lookup : SymbolLookup) (symbol : String) : LinkError :=
  .unresolvedSymbol scope.unit.name symbol lookup.kind

/-- The units of the uses clause that export a name, with what they export. -/
def exporters (scope : Scope) (lookup : SymbolLookup) (name : String) :
    List (String × UInt64) :=
  scope.unit.usedNames.filterMap fun used => do
    let map ← scope.placed.get? used
    let place ← lookup.exported map name
    return (used, place)

/-- What an unqualified name is bound to. -/
def bind (scope : Scope) (lookup : SymbolLookup) (name : String) : Except LinkError UInt64 :=
  match lookup.own scope.map name with
  | some place => .ok place
  | none =>
    match scope.exporters lookup name with
    | [] => .error (scope.unresolved lookup name)
    | [(_, place)] => .ok place
    | several =>
      .error (.duplicateExport scope.unit.name name lookup.kind (several.map Prod.fst))

/-- What a qualified name is bound to. -/
def bindQualified (scope : Scope) (lookup : SymbolLookup) (unit name : String) :
    Except LinkError UInt64 :=
  let found : Except LinkError (Option UInt64) :=
    if unit = scope.unit.name then .ok (lookup.own scope.map name)
    else if scope.unit.uses.contains unit then
      .ok ((scope.placed.get? unit).bind fun map => lookup.exported map name)
    else .error (.unitNotUsed scope.unit.name unit name)
  match found with
  | .error error => .error error
  | .ok (some place) => .ok place
  | .ok none => .error (scope.unresolved lookup s!"{unit}.{name}")

end Scope

end UnitLinker.Link
