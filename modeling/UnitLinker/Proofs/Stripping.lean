import Mathlib
import UnitLinker.Proofs.LinkedUnits
import UnitLinker.Proofs.Mirrors

/-!
# Stripping

Leaving out the units that a program does not need gives what not supplying them
gives, errors included. The needed units are a part of all units that is closed
under uses, so both searches go the same way.
-/

namespace UnitLinker.Link

variable {units : List ObjectUnit} {program : ObjectUnit}

/-- The needed units are a closed part of the supplied ones. -/
theorem exists_closedPart (program : ObjectUnit) (distinct : (units.map ObjectUnit.name).Nodup) :
    ∃ within : Dependency.ClosedPart (neededUnits units program) units program,
      ∀ inner, units.get (within.place inner) = (neededUnits units program).get inner
        ∧ Dependency.Reachable units program (within.place inner) := by
  have sub : (neededUnits units program).Sublist units := List.filter_sublist
  obtain ⟨place, getPlace⟩ := List.sublist_iff_exists_fin_orderEmbedding_get_eq.1 sub
  have isNeeded : ∀ inner, IsNeeded units program ((neededUnits units program).get inner) :=
    fun inner => (mem_neededUnits.1 (List.get_mem _ inner)).2
  refine ⟨⟨place, fun position => congrArg _ (getPlace position).symm, ?_⟩, fun inner => ?_⟩
  · intro user isUser position named
    have uses : UsesSupplied units user (units.get position) := ⟨List.get_mem units position, named⟩
    have needed : IsNeeded units program (units.get position) := by
      rcases List.mem_cons.1 isUser with rfl | member
      · exact .single uses
      · exact (mem_neededUnits.1 member).2.tail uses
    obtain ⟨inner, innerEq⟩ := List.mem_iff_get.1 (mem_neededUnits.2 ⟨uses.1, needed⟩)
    refine ⟨inner, ?_⟩
    rw [getPlace] at innerEq
    have unitsNodup : units.Nodup := distinct.of_map _
    exact unitsNodup.injective_get innerEq
  · exact ⟨(getPlace inner).symm,
      reachable_of_isNeeded (isNeeded inner) _ (getPlace inner).symm⟩

/-- Stripping takes the units in the same order as if the unused ones were not there. -/
theorem sequence_neededUnits (distinct : (units.map ObjectUnit.name).Nodup)
    (new : program.name ∉ units.map ObjectUnit.name)
    (areUnits : ∀ unit ∈ units, unit.kind ≠ .program) (maxGlobals maxInstructions : UInt64) :
    sequence units program ⟨true, maxGlobals, maxInstructions⟩
      = sequence (neededUnits units program) program ⟨false, maxGlobals, maxInstructions⟩ := by
  obtain ⟨within, placed⟩ := exists_closedPart program distinct
  have sub : (neededUnits units program).Sublist units := List.filter_sublist
  obtain ⟨index, indexed⟩ := Dependency.exists_indexUnits_iff.2
    ⟨fun unit member => areUnits unit (sub.subset member), distinct.sublist (sub.map _),
      fun member => new ((sub.map _).subset member)⟩
  obtain ⟨wholeIndex, wholeIndexed⟩ := Dependency.exists_indexUnits_iff.2 ⟨areUnits, distinct, new⟩
  have bothIndexed : SameOutcome (fun _ _ => True)
      (Dependency.indexUnits (neededUnits units program) program)
      (Dependency.indexUnits units program) := by
    rw [indexed, wholeIndexed]
    exact .given trivial
  have sameUnits : ∀ position, Dependency.Included units program true position
      ↔ ∃ inner, Dependency.Included (neededUnits units program) program false inner
        ∧ within.place inner = position := by
    intro position
    constructor
    · intro isIncluded
      obtain ⟨inner, rfl⟩ := within.exists_place_of_reachable (isIncluded rfl)
      exact ⟨inner, fun stripping => absurd stripping Bool.false_ne_true, rfl⟩
    · rintro ⟨inner, _, rfl⟩ _
      exact (placed inner).2
  have same := within.resolveOrder bothIndexed sameUnits
  simp only [sequence]
  generalize Dependency.resolveOrder units program true = wholeOutcome at same ⊢
  generalize Dependency.resolveOrder _ program false = outcome at same ⊢
  cases same with
  | refused error => rfl
  | @given order _ orderEq =>
    have sameOrder : (order.map within.place).map units.get
        = order.map (neededUnits units program).get := by
      rw [List.map_map]
      exact List.map_congr_left fun inner _ => (placed inner).1
    rw [orderEq]
    simp only [bind, Except.bind, sameOrder]

/-- Stripping unused units gives exactly what not supplying them gives: the same
image or the same failure. -/
theorem link_strip_unused (distinct : (units.map ObjectUnit.name).Nodup)
    (new : program.name ∉ units.map ObjectUnit.name)
    (areUnits : ∀ unit ∈ units, unit.kind ≠ .program) (maxGlobals maxInstructions : UInt64) :
    link units program ⟨true, maxGlobals, maxInstructions⟩
      = link (neededUnits units program) program ⟨false, maxGlobals, maxInstructions⟩ := by
  rw [link, link, sequence_neededUnits distinct new areUnits]
  rfl

section Draft

/-- A unit that uses one that is not there. -/
def draft : ObjectUnit := (ObjectUnit.empty "Draft" .unit none).attemptAll [.use "Missing" none]

theorem neededUnits_draft : neededUnits [draft, tally] tallyProgram = [tally] := by
  have programClause : tallyProgram.usedNames = ["Tally"] := by cbv
  have draftClause : draft.usedNames = ["Missing"] := by cbv
  have tallyClause : tally.usedNames = [] := by cbv
  have draftName : draft.name = "Draft" := rfl
  have tallyName : tally.name = "Tally" := rfl
  have needed : IsNeeded [draft, tally] tallyProgram tally :=
    .single ⟨by simp, by simp [programClause, tallyName]⟩
  have notNeeded : ¬ IsNeeded [draft, tally] tallyProgram draft := by
    intro chain
    cases chain with
    | single named => simp [UsesSupplied, programClause, draftName] at named
    | tail before named =>
      have user := UsesSupplied.mem_of_chain before
      simp only [List.mem_cons, List.not_mem_nil, or_false] at user
      rcases user with rfl | rfl
      · simp [UsesSupplied, draftClause, draftName] at named
      · simp [UsesSupplied, tallyClause] at named
  simp [neededUnits, needed, notNeeded]

end Draft

/-- A unit that nobody uses is left out. -/
theorem link_strip_unused_draft :
    link [draft, tally] tallyProgram ⟨true, 0x10000, 0x1000000⟩
      = link [tally] tallyProgram .standard := by
  have distinct : ([draft, tally].map ObjectUnit.name).Nodup := by decide
  have new : tallyProgram.name ∉ [draft, tally].map ObjectUnit.name := by decide
  have areUnits : ∀ unit ∈ [draft, tally], unit.kind ≠ .program := by decide
  have stripped := link_strip_unused distinct new areUnits 0x10000 0x1000000
  rwa [neededUnits_draft] at stripped

end UnitLinker.Link
