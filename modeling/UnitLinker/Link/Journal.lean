import UnitLinker.Journal
import UnitLinker.Link.Layout

/-!
# The journal of a link

What is noted while units are ordered, placed and relocated. The journal reads
the same steps as linking itself and ends where linking ends.
-/

namespace UnitLinker.Link

open Journal (Record)

/-- The note on one relocated instruction: where a name leads, or that a
reference was linked before. -/
def Scope.note? (scope : Scope) : Instruction → Option Record
  | .load var | .store var | .addrOf var =>
    match var with
    | .frame _ _ => none
    | .global _ => some ⟨.warn, .link,
        s!"{scope.unit.name} contains an already linked variable reference {var.render}"⟩
    | _ => match scope.globalOf? var with
      | .ok (some slot) =>
        some ⟨.trace, .link, s!"{scope.unit.name}: variable {var.render} -> G{slot}"⟩
      | _ => none
  | .jump target | .jumpIf target | .jumpIfNot target =>
    match target with
    | .address _ => some ⟨.warn, .link,
        s!"{scope.unit.name} contains an already linked jump target {target.render}"⟩
    | _ => none
  | .call callee _ =>
    match callee with
    | .address _ => some ⟨.warn, .link,
        s!"{scope.unit.name} contains an already linked call target {callee.render}"⟩
    | _ => match scope.entryOf? callee with
      | .ok (some address) =>
        some ⟨.trace, .link, s!"{scope.unit.name}: function {callee.render} -> @{address}"⟩
      | _ => none
  | _ => none

/-- The notes on instructions up to the first one that cannot be relocated. -/
def Scope.notes (scope : Scope) : List (Section × Instruction) → List Record
  | [] => []
  | (stream, instruction) :: rest =>
    match scope.relocate stream instruction with
    | .ok _ => (scope.note? instruction).toList ++ scope.notes rest
    | .error _ => []

/-- All instructions of a unit with their sections. -/
def instructionsOf (unit : ObjectUnit) : List (Section × Instruction) :=
  Section.all.flatMap fun stream => (unit.code.stream stream).map fun instruction =>
    (stream, instruction)

/-- The notes on placing one unit. -/
def Layout.notes (layout : Layout) (unit : ObjectUnit) : List Record :=
  match layout.reserve unit with
  | .error _ => []
  | .ok reservation =>
    let globals := reservation.globals
    let code := reservation.code
    let placed : Record := ⟨.debug, .link, s!"linking {unit.kind.text} {unit.name}: "
      ++ s!"globals {globals.start}..{globals.stop}, code {code.start}..{code.stop}"⟩
    match unitMap unit reservation with
    | .error _ => [placed]
    | .ok map => placed :: Scope.notes ⟨unit, map, layout.units⟩ (instructionsOf unit)

/-- The notes on placing units one after the other, and on the finished image. -/
def Layout.notesAll (layout : Layout) : List ObjectUnit → List Record
  | [] => [⟨.info, .link, s!"linked {layout.units.size} units: "
      ++ s!"{layout.instructions.length} instructions, {layout.globalVars.length} globals"⟩]
  | unit :: rest =>
    layout.notes unit ++ match layout.place unit with
      | .ok next => next.notesAll rest
      | .error _ => []

/-- The notes on units that are left out. -/
def orderNotes (units : List ObjectUnit) (program : ObjectUnit) (stripUnused : Bool) :
    List Record :=
  match Dependency.prepare units program with
  | .error _ => []
  | .ok index =>
    if stripUnused then
      (Dependency.leftOut index program).map fun position => ⟨.debug, .order,
        s!"unit {(units.get position).name} is not used by {program.name}, leaving it out"⟩
    else []

/-- The journal of linking a program with the units it uses. -/
def journal (units : List ObjectUnit) (program : ObjectUnit) (options : Options) : List Record :=
  orderNotes units program options.stripUnused
    ++ match Dependency.resolveOrder units program options.stripUnused with
      | .error _ => []
      | .ok order =>
        let ordered := order.map units.get
        ⟨.debug, .link, "link order: " ++ Text.joined ", " (ordered.map ObjectUnit.name)
            ++ s!" then {program.name}"⟩
          :: (Layout.fresh options).notesAll (ordered ++ [program])

end UnitLinker.Link
