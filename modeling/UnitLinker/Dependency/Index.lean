import UnitLinker.Link.Error

/-!
# Units by name

Supplied units are found by their names. Names must be distinct and differ
from the program's, and no supplied unit may be a program itself.
-/

namespace UnitLinker.Dependency

/-- Positions of supplied units by name. -/
abbrev Index (units : List ObjectUnit) := Table (Fin units.length)

variable (units : List ObjectUnit) (program : ObjectUnit)

/-- Adds one supplied unit to an index. -/
def addToIndex (index : Index units) (position : Fin units.length) :
    Except LinkError (Index units) :=
  let unit := units.get position
  if unit.kind = .program then .error (.unexpectedProgram unit.name program.name unit.span)
  else if unit.name = program.name || index.contains unit.name then
    .error (.duplicateUnit unit.name unit.span)
  else .ok (index.insert unit.name position)

/-- The index of all supplied units, which are added in supplied order. -/
def indexUnits : Except LinkError (Index units) :=
  (List.finRange units.length).foldlM (addToIndex units program) .empty

/-- The index of the supplied units for a program whose own uses are all there.
What is missing for the program itself is reported before anything else. -/
def prepare : Except LinkError (Index units) := do
  if program.kind ≠ .program then throw (.notAProgram program.name)
  let index ← indexUnits units program
  match program.usedNames.find? (fun used => !index.contains used) with
  | some used => throw (.unresolvedUnit used program.name (program.useSpan used))
  | none => return index

variable {units}

/-- The supplied units among the names that a unit uses, in clause order. -/
def suppliedUses (index : Index units) (unit : ObjectUnit) : List (Fin units.length) :=
  unit.usedNames.filterMap index.get?

end UnitLinker.Dependency
