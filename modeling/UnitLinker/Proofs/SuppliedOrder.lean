import Mathlib
import UnitLinker.Proofs.Acceptance
import UnitLinker.Proofs.BlockMoves
import UnitLinker.Proofs.Headings

/-!
# The order of supplied units

Units in another order are linked if and only if they are linked in the given one,
and the images differ in where the blocks of the units stand and in nothing else.
-/

namespace UnitLinker.Link

variable {units others : List ObjectUnit} {program : ObjectUnit} {options : Options}

section Units

/-- What is exported does not depend on the order of the units. -/
theorem exports_of_perm (perm : units.Perm others) : exports units = exports others := by
  funext kind name owner
  exact perm.any_eq

/-- What is included does not depend on the order of the units. -/
theorem includedUnits_perm (perm : units.Perm others) (program : ObjectUnit) (stripUnused : Bool) :
    (includedUnits units program stripUnused).Perm (includedUnits others program stripUnused) := by
  cases stripUnused with
  | false => exact perm
  | true =>
    refine (perm.filter _).trans (.of_eq (List.filter_congr fun unit supplied => ?_))
    have headings := perm.map ObjectUnit.heading
    refine decide_eq_decide.2 ⟨fun needed => ?_, fun needed => ?_⟩
    · exact transGen_usesSupplied_of_headings headings needed rfl unit supplied rfl
    · exact transGen_usesSupplied_of_headings headings.symm needed rfl unit
        (perm.mem_iff.2 supplied) rfl

theorem linkedUnits_perm (perm : units.Perm others) (program : ObjectUnit) (stripUnused : Bool) :
    (linkedUnits units program stripUnused).Perm (linkedUnits others program stripUnused) :=
  (includedUnits_perm perm program stripUnused).append_right _

end Units

section Acceptance

/-- What can be linked in one order can be linked in another. -/
theorem IsLinkable.of_perm (linkable : IsLinkable units program options)
    (perm : units.Perm others) : IsLinkable others program options := by
  have members := linkedUnits_perm perm program options.stripUnused
  obtain ⟨order, resolved⟩ := linkable.ordered
  have orderable := orderable_of_headings (perm.map ObjectUnit.heading)
    (Dependency.orderable_of_resolveOrder resolved)
  refine ⟨Dependency.exists_order_of_orderable orderable, ?_, ?_, ?_⟩
  · rw [← extent_eq_of_perm members]
    exact linkable.globalsFit
  · rw [← extent_eq_of_perm members]
    exact linkable.codeFits
  · intro unit isLinked
    have wellFormed := linkable.wellFormed unit (members.mem_iff.2 isLinked)
    exact ⟨wellFormed.entries, fun stream instruction member operand has =>
      (wellFormed.operands stream instruction member operand has).of_sameExports
        (exports_of_perm perm)⟩

/-- Whether units link does not depend on their order. -/
theorem exists_link_of_perm (perm : units.Perm others)
    (inOrder : ∀ unit ∈ program :: units, unit.SlotsInOrder)
    (accepted : ∃ image, link units program options = .ok image) :
    ∃ image, link others program options = .ok image := by
  obtain ⟨image, linked⟩ := accepted
  refine ((isLinkable_of_link linked).of_perm perm).exists_link fun unit member => ?_
  exact inOrder unit ((perm.cons program).mem_iff.2 member)

end Acceptance

section Images

variable {first second : Image}

/-- Every unit of one run has its turn in the other. -/
theorem exists_turn_of_perm (perm : units.Perm others)
    (otherLinked : link others program options = .ok second) (turn : Turn units program options) :
    ∃ other : Turn others program options, turn.unit = other.unit := by
  have isLinked := (linkedUnits_perm perm program options.stripUnused).mem_iff.1 turn.mem_linkedUnits
  obtain ⟨other, unitEq⟩ := Turn.exists_of_mem_linkedUnits otherLinked isLinked
  exact ⟨other, unitEq.symm⟩

/-- Runs with the units in different orders agree. -/
theorem runsAgree_of_perm (perm : units.Perm others)
    (inOrder : ∀ unit ∈ program :: units, unit.SlotsInOrder)
    (linked : link units program options = .ok first) :
    RunsAgree units others program program options options := by
  refine ⟨fun turn other sameName => ?_, exports_of_perm perm, fun turn => ?_⟩
  · have isOther := (perm.cons program).mem_iff.2 (List.mem_cons.2 other.unit_mem.symm)
    exact eq_of_name_eq_of_link linked (List.mem_cons.2 turn.unit_mem.symm) isOther sameName
  · exact inOrder turn.unit (List.mem_cons.2 turn.unit_mem.symm)

/-- The order in which built units are supplied decides about no link, and only moves
the blocks of an image. -/
theorem supplied_order_moves_blocks (perm : units.Perm others)
    (built : ∀ unit ∈ program :: units, unit.IsBuilt)
    (relocatable : ∀ unit ∈ program :: units, IsRelocatable unit) :
    ((∃ image, link units program options = .ok image)
        ↔ ∃ image, link others program options = .ok image)
      ∧ ∀ first second, link units program options = .ok first →
        link others program options = .ok second → MovesBlocks first second := by
  have inOrder : ∀ unit ∈ program :: units, unit.SlotsInOrder :=
    fun unit member => (built unit member).slotsInOrder
  refine ⟨⟨exists_link_of_perm perm inOrder, exists_link_of_perm perm.symm ?_⟩, ?_⟩
  · intro unit member
    exact inOrder unit ((perm.cons program).mem_iff.2 member)
  · intro first second linked otherLinked
    exact (runsAgree_of_perm perm inOrder linked).movesBlocks linked otherLinked
      (fun turn => relocatable turn.unit (List.mem_cons.2 turn.unit_mem.symm))
      (exists_turn_of_perm perm otherLinked) (exists_turn_of_perm perm.symm linked)

end Images

section Gauge

/-- A unit that uses no other one. -/
def gauge : ObjectUnit :=
  (ObjectUnit.empty "Gauge" .unit none).attemptAll
    [.var "level" .interface, .select .init, .emit (.push (.int 7)),
      .emit (.store (.named "level"))]

theorem link_gauge : ∃ image, link [tally, gauge] tallyProgram .standard = .ok image :=
  exists_ok_of_isOk (by cbv)

end Gauge

/-- The blocks of two units change places. -/
theorem supplied_order_moves_blocks_gauge :
    ∃ first second, link [tally, gauge] tallyProgram .standard = .ok first
      ∧ link [gauge, tally] tallyProgram .standard = .ok second ∧ MovesBlocks first second
      ∧ first.units.names = ["Tally", "Gauge", "Main"]
      ∧ second.units.names = ["Gauge", "Tally", "Main"] := by
  have perm : [tally, gauge].Perm [gauge, tally] := .swap _ _ _
  have built : ∀ unit ∈ [tallyProgram, tally, gauge], unit.IsBuilt := by
    simp only [List.forall_mem_cons, List.not_mem_nil, false_imp_iff, implies_true, and_true]
    exact ⟨⟨_, _, _, _, rfl⟩, ⟨_, _, _, _, rfl⟩, ⟨_, _, _, _, rfl⟩⟩
  have relocatable : ∀ unit ∈ [tallyProgram, tally, gauge], IsRelocatable unit := by
    simp only [List.forall_mem_cons, List.not_mem_nil, false_imp_iff, implies_true, and_true]
    refine ⟨?_, ?_, ?_⟩ <;> intro stream <;> cases stream <;> decide
  obtain ⟨accepted, moves⟩ := supplied_order_moves_blocks perm built relocatable
  obtain ⟨first, linked⟩ := link_gauge
  obtain ⟨second, otherLinked⟩ := accepted.1 ⟨first, linked⟩
  refine ⟨first, second, linked, otherLinked, moves first second linked otherLinked, ?_, ?_⟩
  · have names : (link [tally, gauge] tallyProgram .standard).toOption.map (·.units.names)
        = some ["Tally", "Gauge", "Main"] := by cbv
    rw [linked] at names
    exact Option.some.inj names
  · have names : (link [gauge, tally] tallyProgram .standard).toOption.map (·.units.names)
        = some ["Gauge", "Tally", "Main"] := by cbv
    rw [otherLinked] at names
    exact Option.some.inj names

end UnitLinker.Link
