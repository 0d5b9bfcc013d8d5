import Mathlib
import UnitLinker.Proofs.Acceptance
import UnitLinker.Proofs.SuppliedOrder

/-!
# Kept units

Units that the program does not need can be left out of a link that succeeds. The
units that are kept may then be placed in another order, since one that is left out may
have brought forward a unit that it shares with the others. Their code, symbols and
types are the same but for where their blocks stand.
-/

namespace UnitLinker.Link

/-- One image has some of the units of another one, each of them as it is there but for
where its blocks stand. -/
structure KeepsUnits (whole part : Image) : Prop where
  /-- The kept units have the same lengths, symbols and types. -/
  maps : ∀ name map, part.units.get? name = some map →
    ∃ wholeMap, whole.units.get? name = some wholeMap ∧ map.relative = wholeMap.relative
  /-- Blocks cover the part, so every word of it has its origin. -/
  origins : ∀ space, ∀ word < part.size space, ∃! origin, SameWord space whole part origin word
  /-- No word is kept at two places. -/
  unique : ∀ space origin word other, SameWord space whole part origin word →
    SameWord space whole part origin other → word = other
  instructions : ∀ address target, part.instructions[address]? = some target →
    ∃ origin source, SameWord .code whole part origin address
      ∧ whole.instructions[origin]? = some source ∧ SameInstruction whole part source target

variable {units : List ObjectUnit} {program : ObjectUnit} {maxGlobals maxInstructions : UInt64}
  {whole part : Image}

section Acceptance

/-- Leaving units out removes conditions on the uses graph and adds none. -/
theorem orderable_strip (orderable : Dependency.Orderable units program false) :
    Dependency.Orderable units program true := by
  refine ⟨orderable.isProgram, orderable.noOtherProgram, orderable.namesDistinct,
    orderable.programNameNew, orderable.programUsesSupplied, ?_, ?_⟩
  · intro position _
    exact orderable.includedUsesSupplied position nofun
  · intro position cycle
    apply orderable.acyclic position
    apply Relation.TransGen.mono _ _ _ cycle
    intro user used named
    exact ⟨nofun, nofun, named.2.2⟩

/-- Stripping keeps the order of what is left. -/
theorem linkedUnits_sublist (units : List ObjectUnit) (program : ObjectUnit) :
    (linkedUnits units program true).Sublist (linkedUnits units program false) := by
  have kept : (neededUnits units program).Sublist units := List.filter_sublist
  exact kept.append_right [program]

/-- Fewer units take no more words. -/
theorem extent_le_of_sublist {size : ObjectUnit → Nat} {fewer more : List ObjectUnit}
    (sub : fewer.Sublist more) : extent size fewer ≤ extent size more :=
  (sub.map size).sum_le_sum fun _ _ => Nat.zero_le _

/-- What can be linked with all units can be linked with the needed ones. -/
theorem IsLinkable.strip
    (linkable : IsLinkable units program ⟨false, maxGlobals, maxInstructions⟩) :
    IsLinkable units program ⟨true, maxGlobals, maxInstructions⟩ := by
  have sub := linkedUnits_sublist units program
  obtain ⟨order, resolved⟩ := linkable.ordered
  have orderable := orderable_strip (Dependency.orderable_of_resolveOrder resolved)
  refine ⟨Dependency.exists_order_of_orderable orderable, ?_, ?_, ?_⟩
  · exact (extent_le_of_sublist sub).trans linkable.globalsFit
  · exact (extent_le_of_sublist sub).trans linkable.codeFits
  · intro unit isLinked
    exact linkable.wellFormed unit (sub.subset isLinked)

end Acceptance

section Images

variable (linked : link units program ⟨false, maxGlobals, maxInstructions⟩ = .ok whole)
include linked

/-- A name stands for one unit in both runs. -/
theorem runsAgree_strip (inOrder : ∀ unit ∈ program :: units, unit.SlotsInOrder) :
    RunsAgree units units program program ⟨false, maxGlobals, maxInstructions⟩
      ⟨true, maxGlobals, maxInstructions⟩ := by
  refine ⟨fun turn other sameName => ?_, rfl, fun turn => ?_⟩
  · exact eq_of_name_eq_of_link linked (List.mem_cons.2 turn.unit_mem.symm)
      (List.mem_cons.2 other.unit_mem.symm) sameName
  · exact inOrder turn.unit (List.mem_cons.2 turn.unit_mem.symm)

/-- A unit that is kept had its turn among all units. -/
theorem exists_turn_of_kept (other : Turn units program ⟨true, maxGlobals, maxInstructions⟩) :
    ∃ turn : Turn units program ⟨false, maxGlobals, maxInstructions⟩, turn.unit = other.unit := by
  have isLinked := (linkedUnits_sublist units program).subset other.mem_linkedUnits
  exact Turn.exists_of_mem_linkedUnits linked isLinked

/-- What is left after stripping is linked as before. -/
theorem keepsUnits_of_link (inOrder : ∀ unit ∈ program :: units, unit.SlotsInOrder)
    (relocatable : ∀ unit ∈ program :: units, IsRelocatable unit)
    (stripped : link units program ⟨true, maxGlobals, maxInstructions⟩ = .ok part) :
    KeepsUnits whole part := by
  have agree := runsAgree_strip linked inOrder
  refine ⟨?_, ?_, ?_, ?_⟩
  · intro name map found
    obtain ⟨other, rfl, rfl⟩ := Turn.exists_of_name stripped found
    obtain ⟨turn, sameUnit⟩ := exists_turn_of_kept linked other
    refine ⟨turn.map, ?_, ?_⟩
    · rw [← sameUnit]
      exact (turn.completed linked).1
    · rw [other.relative_map, turn.relative_map, sameUnit]
  · intro space word inside
    have placed : ∀ other : Turn units program ⟨true, maxGlobals, maxInstructions⟩,
        ∃ turn : Turn units program ⟨false, maxGlobals, maxInstructions⟩,
          other.unit = turn.unit := by
      intro other
      obtain ⟨turn, sameUnit⟩ := exists_turn_of_kept linked other
      exact ⟨turn, sameUnit.symm⟩
    obtain ⟨origin, same, unique⟩ := exists_sameWord stripped linked placed inside
    exact ⟨origin, same.symm, fun third sameThird => unique third sameThird.symm⟩
  · intro space origin word other same sameOther
    exact same.unique linked sameOther
  · intro address target standsAt
    have inside : address < part.size .code := (List.getElem?_eq_some_iff.1 standsAt).1
    obtain ⟨other, offset, isAt⟩ := exists_isAt stripped inside
    obtain ⟨turn, sameUnit⟩ := exists_turn_of_kept linked other
    obtain ⟨owned, rfl⟩ := Turn.isAt_iff.1 isAt
    rw [← sameUnit] at owned
    have isRelocatable := relocatable turn.unit (List.mem_cons.2 turn.unit_mem.symm)
    obtain ⟨source, found, sourceAt, foundAt, sameInstruction⟩ :=
      agree.exists_sameInstruction_at linked stripped sameUnit isRelocatable owned
    cases standsAt.symm.trans foundAt
    exact ⟨_, source, sameWord_of_turns linked stripped sameUnit owned, sourceAt, sameInstruction⟩

end Images

/-- A link that succeeds with all units succeeds without those that the program does not
need. The image has the program and the needed units, as they were but for where their
blocks stand. -/
theorem stripping_keeps_units (built : ∀ unit ∈ program :: units, unit.IsBuilt)
    (relocatable : ∀ unit ∈ program :: units, IsRelocatable unit)
    (linked : link units program ⟨false, maxGlobals, maxInstructions⟩ = .ok whole) :
    ∃ part, link units program ⟨true, maxGlobals, maxInstructions⟩ = .ok part
      ∧ part.units.names.Perm ((neededUnits units program ++ [program]).map ObjectUnit.name)
      ∧ KeepsUnits whole part := by
  have inOrder : ∀ unit ∈ program :: units, unit.SlotsInOrder :=
    fun unit member => (built unit member).slotsInOrder
  obtain ⟨part, stripped⟩ := (isLinkable_of_link linked).strip.exists_link inOrder
  obtain ⟨ordered, _, sequenced, _, _⟩ := link_eq_ok.1 stripped
  refine ⟨part, stripped, ?_, keepsUnits_of_link linked inOrder relocatable stripped⟩
  rw [(holds_of_link stripped sequenced).1]
  exact (sequence_perm sequenced).map ObjectUnit.name

section Probe

/-- A unit that no program needs. It uses `tally`, which is therefore placed before it. -/
def probe : ObjectUnit :=
  (ObjectUnit.empty "Probe" .unit none).attemptAll
    [.use "Tally" none, .var "seen" .interface, .select .init,
      .emit (.call (.routine "step") 0), .emit (.load (.qualified "Tally" "count")),
      .emit (.store (.slot 0))]

/-- A program that counts with `tally` up to the level of `gauge`. -/
def meterProgram : ObjectUnit :=
  (ObjectUnit.empty "Main" .program none).attemptAll
    [.use "Gauge" none, .use "Tally" none, .select .init, .label "again",
      .emit (.call (.routine "step") 0), .emit (.load (.named "count")),
      .emit (.load (.named "level")), .emit (.binary .lt), .emit (.jumpIf (.label "again"))]

theorem link_probe :
    ∃ image, link [probe, gauge, tally] meterProgram .standard = .ok image :=
  exists_ok_of_isOk (by cbv)

end Probe

/-- Without `probe`, `tally` is no longer placed before `gauge`. -/
theorem stripping_keeps_units_probe :
    ∃ whole part, link [probe, gauge, tally] meterProgram ⟨false, 0x10000, 0x1000000⟩ = .ok whole
      ∧ link [probe, gauge, tally] meterProgram ⟨true, 0x10000, 0x1000000⟩ = .ok part
      ∧ KeepsUnits whole part
      ∧ whole.units.names = ["Tally", "Probe", "Gauge", "Main"]
      ∧ part.units.names = ["Gauge", "Tally", "Main"] := by
  have built : ∀ unit ∈ [meterProgram, probe, gauge, tally], unit.IsBuilt := by
    simp only [List.forall_mem_cons, List.not_mem_nil, false_imp_iff, implies_true, and_true]
    exact ⟨⟨_, _, _, _, rfl⟩, ⟨_, _, _, _, rfl⟩, ⟨_, _, _, _, rfl⟩, ⟨_, _, _, _, rfl⟩⟩
  have relocatable : ∀ unit ∈ [meterProgram, probe, gauge, tally], IsRelocatable unit := by
    simp only [List.forall_mem_cons, List.not_mem_nil, false_imp_iff, implies_true, and_true]
    refine ⟨?_, ?_, ?_, ?_⟩ <;> intro stream <;> cases stream <;> decide
  obtain ⟨whole, linked⟩ := link_probe
  obtain ⟨part, stripped, _, keeps⟩ := stripping_keeps_units built relocatable linked
  refine ⟨whole, part, linked, stripped, keeps, ?_, ?_⟩
  · have names : (link [probe, gauge, tally] meterProgram .standard).toOption.map (·.units.names)
        = some ["Tally", "Probe", "Gauge", "Main"] := by cbv
    rw [linked] at names
    exact Option.some.inj names
  · have names : (link [probe, gauge, tally] meterProgram ⟨true, 0x10000, 0x1000000⟩).toOption.map
        (·.units.names) = some ["Gauge", "Tally", "Main"] := by cbv
    rw [stripped] at names
    exact Option.some.inj names

end UnitLinker.Link
