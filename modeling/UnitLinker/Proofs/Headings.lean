import Mathlib
import UnitLinker.Proofs.LinkedUnits

/-!
# What ordering reads of units

Units are selected and put in order by their kinds, names and uses clauses alone.
Lists of units that have the same headings, in whatever order, are therefore ordered
alike: both or neither, with corresponding units.
-/

namespace UnitLinker

/-- The kind, the name and the uses clause of a unit. -/
def ObjectUnit.heading (unit : ObjectUnit) : UnitKind × String × List String :=
  (unit.kind, unit.name, unit.usedNames)

namespace Link

theorem kind_eq_of_heading {unit other : ObjectUnit} (same : other.heading = unit.heading) :
    other.kind = unit.kind := congrArg Prod.fst same

theorem name_eq_of_heading {unit other : ObjectUnit} (same : other.heading = unit.heading) :
    other.name = unit.name := congrArg (·.2.1) same

theorem usedNames_eq_of_heading {unit other : ObjectUnit} (same : other.heading = unit.heading) :
    other.usedNames = unit.usedNames := congrArg (·.2.2) same

/-- A chain of uses among units is one among the positions of the units. -/
theorem transGen_uses_of_chain {units : List ObjectUnit} {user used : ObjectUnit}
    (chain : Relation.TransGen (UsesSupplied units) user used) {first : Fin units.length}
    (firstAt : units.get first = user) :
    ∀ second, units.get second = used → Relation.TransGen (Dependency.Uses units) first second := by
  induction chain with
  | single named =>
    rintro second rfl
    subst firstAt
    exact .single named.2
  | tail before named ih =>
    rintro second rfl
    obtain ⟨middle, rfl⟩ := List.mem_iff_get.1 (UsesSupplied.mem_of_chain before)
    exact (ih middle rfl).tail named.2

variable {units others : List ObjectUnit} {program : ObjectUnit} {stripUnused : Bool}
  (headings : (units.map ObjectUnit.heading).Perm (others.map ObjectUnit.heading))
include headings

/-- Lists with the same headings have the same names. -/
theorem names_perm_of_headings :
    (units.map ObjectUnit.name).Perm (others.map ObjectUnit.name) := by
  have names := headings.map (·.2.1)
  rwa [List.map_map, List.map_map] at names

/-- Every unit of one list has a counterpart in the other. -/
theorem exists_sameHeading {unit : ObjectUnit} (supplied : unit ∈ units) :
    ∃ other ∈ others, other.heading = unit.heading :=
  List.mem_map.1 (headings.mem_iff.1 (List.mem_map_of_mem supplied))

/-- Chains of uses lead to the counterparts of the units that they led to. -/
theorem transGen_usesSupplied_of_headings {user used otherUser : ObjectUnit}
    (chain : Relation.TransGen (UsesSupplied units) user used)
    (sameUser : otherUser.heading = user.heading) :
    ∀ other ∈ others, other.heading = used.heading →
      Relation.TransGen (UsesSupplied others) otherUser other := by
  induction chain with
  | single named =>
    intro other supplied sameUsed
    refine .single ⟨supplied, ?_⟩
    rw [name_eq_of_heading sameUsed, usedNames_eq_of_heading sameUser]
    exact named.2
  | tail before named ih =>
    intro other supplied sameUsed
    obtain ⟨middle, middleSupplied, sameMiddle⟩ :=
      exists_sameHeading headings (UsesSupplied.mem_of_chain before)
    refine (ih middle middleSupplied sameMiddle).tail ⟨supplied, ?_⟩
    rw [name_eq_of_heading sameUsed, usedNames_eq_of_heading sameMiddle]
    exact named.2

/-- The counterpart of a unit to link is linked. -/
theorem mem_includedUnits_of_headings {unit other : ObjectUnit}
    (isIncluded : unit ∈ includedUnits units program stripUnused) (supplied : other ∈ others)
    (same : other.heading = unit.heading) : other ∈ includedUnits others program stripUnused := by
  rw [mem_includedUnits] at isIncluded ⊢
  refine ⟨supplied, fun stripped => ?_⟩
  exact transGen_usesSupplied_of_headings headings (isIncluded.2 stripped) rfl other supplied same

/-- Units that can be put in order can be put in order by any list of their headings. -/
theorem orderable_of_headings (orderable : Dependency.Orderable units program stripUnused) :
    Dependency.Orderable others program stripUnused := by
  have names := names_perm_of_headings headings
  -- a unit to link stands at a position to link in the given list too
  have exists_place : ∀ position, Dependency.Included others program stripUnused position →
      ∃ place, (units.get place).heading = (others.get position).heading
        ∧ Dependency.Included units program stripUnused place := by
    intro position isIncluded
    obtain ⟨unit, supplied, same⟩ :=
      exists_sameHeading headings.symm (List.get_mem others position)
    obtain ⟨place, rfl⟩ := List.mem_iff_get.1 supplied
    refine ⟨place, same, included_iff_mem.2 ?_⟩
    exact mem_includedUnits_of_headings headings.symm (included_iff_mem.1 isIncluded) supplied same
  refine ⟨orderable.isProgram, ?_, names.nodup_iff.1 orderable.namesDistinct, ?_, ?_, ?_, ?_⟩
  · intro other supplied
    obtain ⟨unit, isUnit, same⟩ := exists_sameHeading headings.symm supplied
    rw [← kind_eq_of_heading same]
    exact orderable.noOtherProgram unit isUnit
  · exact fun member => orderable.programNameNew (names.mem_iff.2 member)
  · exact fun name member => names.mem_iff.1 (orderable.programUsesSupplied name member)
  · intro position isIncluded name member
    obtain ⟨place, same, placeIncluded⟩ := exists_place position isIncluded
    rw [← usedNames_eq_of_heading same] at member
    exact names.mem_iff.1 (orderable.includedUsesSupplied place placeIncluded name member)
  · intro position cycle
    have isIncluded : Dependency.Included others program stripUnused position := by
      cases cycle with
      | single named => exact named.2.1
      | tail _ named => exact named.2.1
    obtain ⟨place, same, placeIncluded⟩ := exists_place position isIncluded
    have unitCycle : Relation.TransGen (UsesSupplied others) (others.get position)
        (others.get position) :=
      cycle.lift others.get fun _ used named => ⟨List.get_mem others used, named.2.2⟩
    have placeCycle := transGen_uses_of_chain
      (transGen_usesSupplied_of_headings headings.symm unitCycle same (units.get place)
        (List.get_mem units place) same) rfl place rfl
    exact orderable.acyclic place (placeIncluded.transGen placeCycle).2

end Link

end UnitLinker
