import Mathlib
import UnitLinker.Proofs.BuiltUnits
import UnitLinker.Proofs.LinkedUnits
import UnitLinker.Proofs.References
import UnitLinker.Proofs.Refusals

/-!
# Acceptance

What units and a program must satisfy to be linked, as conditions on each of them
and on sums over all of them. The order in which they are placed does not show in
the conditions: no check fails because of what happens to be placed before.
-/

namespace UnitLinker.Link

/-- What a unit must satisfy to be placed. -/
structure IsWellFormed (units : List ObjectUnit) (unit : ObjectUnit) : Prop where
  /-- Routines start in the body. -/
  entries : ∀ entry ∈ unit.routines.entries, entry.2.entry.toNat < unit.code.body.length
  /-- Every operand of its code has what it needs. -/
  operands : ∀ stream, ∀ instruction ∈ unit.code.stream stream,
    ∀ operand, instruction.operand? = some operand → Resolves units unit stream operand

/-- What units and a program must satisfy to be linked. -/
structure IsLinkable (units : List ObjectUnit) (program : ObjectUnit) (options : Options) :
    Prop where
  ordered : ∃ order, Dependency.resolveOrder units program options.stripUnused = .ok order
  globalsFit : extent slotCount (linkedUnits units program options.stripUnused)
    ≤ options.maxGlobals.toNat
  codeFits : extent Layout.codeLength (linkedUnits units program options.stripUnused)
    ≤ options.maxInstructions.toNat
  wellFormed : ∀ unit ∈ linkedUnits units program options.stripUnused, IsWellFormed units unit

/-- All sums that are made from the map of a unit when its code is relocated are words:
the ends of its blocks, its symbols, and what slots and jumps become. -/
structure SumsFit (unit : ObjectUnit) (map : UnitMap) : Prop where
  globals : map.globals.start.toNat + unit.vars.size < Word.count
  code : map.body.start.toNat + Layout.codeLength unit < Word.count
  routines : ∀ entry ∈ unit.routines.entries,
    map.body.start.toNat + entry.2.entry.toNat < Word.count
  vars : ∀ entry ∈ unit.vars.entries, map.globals.start.toNat + entry.2.slot.toNat < Word.count
  slots : ∀ slot : UInt64, slot.toNat < unit.vars.size →
    map.globals.start.toNat + slot.toNat < Word.count
  jumps : ∀ position : CodeOffset, IsInside unit position.stream position.offset.toNat →
    (map.base position.stream).toNat + position.offset.toNat < Word.count

variable {units : List ObjectUnit} {program : ObjectUnit} {options : Options} {image : Image}
  {ordered : List ObjectUnit}

theorem extent_eq_of_perm {size : ObjectUnit → Nat} {first second : List ObjectUnit}
    (perm : first.Perm second) : extent size first = extent size second :=
  (perm.map size).sum_eq

section Runs

variable {layout next final : Layout} {unit : ObjectUnit} {earlier rest later : List ObjectUnit}

/-- Placing units keeps the limits. -/
theorem limits_placeAll (placedAll : layout.placeAll rest = .ok final) :
    final.globals.limit = layout.globals.limit ∧ final.code.limit = layout.code.limit := by
  induction rest generalizing layout with
  | nil =>
    cases pure_eq_ok.1 placedAll
    exact ⟨rfl, rfl⟩
  | cons unit rest ih =>
    obtain ⟨next, placedUnit, placedRest⟩ := placeAll_cons_eq_ok.1 placedAll
    obtain ⟨reservation, map, code, reserved, _, _, rfl⟩ := Layout.place_eq_ok.1 placedUnit
    obtain ⟨_, _, rfl⟩ := Layout.reserve_eq_ok.1 reserved
    have kept := ih placedRest
    exact kept

/-- A unit is placed after all that comes before it, if there is room and the unit is
well formed. -/
theorem exists_place
    (sequenced : sequence units program options = .ok (earlier ++ unit :: later))
    (placed : (Layout.fresh options).placeAll earlier = .ok layout)
    (globalsFit : extent slotCount earlier + slotCount unit ≤ options.maxGlobals.toNat)
    (codeFits : extent Layout.codeLength earlier + Layout.codeLength unit
      ≤ options.maxInstructions.toNat)
    (inOrder : unit.SlotsInOrder) (wellFormed : IsWellFormed units unit) :
    ∃ next, layout.place unit = .ok next := by
  have distinct := sequence_names_nodup sequenced
  rw [List.map_append, List.nodup_append] at distinct
  have holds : Holds layout earlier := (holds_fresh options).placeAll distinct.1 placed
  obtain ⟨globalsLimit, codeLimit⟩ := limits_placeAll placed
  have globalsRoom : layout.globals.next.toNat + unit.vars.size ≤ layout.globals.limit.toNat := by
    rw [holds.globalsNext, globalsLimit]
    exact globalsFit
  have codeRoom : layout.code.next.toNat + Layout.codeLength unit ≤ layout.code.limit.toNat := by
    rw [holds.codeNext, codeLimit]
    exact codeFits
  have reserved := Layout.reserve_eq_ok.2 ⟨globalsRoom, codeRoom, rfl⟩
  have slots := slots_fit reserved fun _ => inOrder.slot_lt_size
  have mapped := Layout.unitMap_eq_ok.2 ⟨wellFormed.entries, slots, rfl⟩
  let turn : Turn units program options :=
    ⟨earlier, unit, later, layout, _, _, sequenced, placed, reserved, mapped⟩
  obtain ⟨code, relocated⟩ := turn.exists_relocateAll_iff.2 wellFormed.operands
  exact ⟨_, Layout.place_eq_ok.2 ⟨_, _, code, reserved, mapped, relocated, rfl⟩⟩

/-- A run goes on to its end if there is room for all units and all of them are well
formed. -/
theorem exists_placeAll (sequenced : sequence units program options = .ok (earlier ++ rest))
    (placed : (Layout.fresh options).placeAll earlier = .ok layout)
    (globalsFit : extent slotCount (earlier ++ rest) ≤ options.maxGlobals.toNat)
    (codeFits : extent Layout.codeLength (earlier ++ rest) ≤ options.maxInstructions.toNat)
    (inOrder : ∀ unit ∈ rest, unit.SlotsInOrder)
    (wellFormed : ∀ unit ∈ rest, IsWellFormed units unit) :
    ∃ final, layout.placeAll rest = .ok final := by
  induction rest generalizing earlier layout with
  | nil => exact ⟨layout, rfl⟩
  | cons unit rest ih =>
    have globalsPart := globalsFit
    have codePart := codeFits
    rw [extent_append, extent_cons] at globalsPart codePart
    obtain ⟨next, placedUnit⟩ := exists_place sequenced placed (by omega) (by omega)
      (inOrder unit List.mem_cons_self) (wellFormed unit List.mem_cons_self)
    have placedNext : (Layout.fresh options).placeAll (earlier ++ [unit]) = .ok next :=
      placeAll_append_eq_ok.2 ⟨layout, placed, placeAll_cons_eq_ok.2 ⟨next, placedUnit, rfl⟩⟩
    rw [List.append_cons] at sequenced globalsFit codeFits
    obtain ⟨final, placedRest⟩ := ih sequenced placedNext globalsFit codeFits
      (fun other member => inOrder other (List.mem_cons_of_mem _ member))
      (fun other member => wellFormed other (List.mem_cons_of_mem _ member))
    exact ⟨final, placeAll_cons_eq_ok.2 ⟨next, placedUnit, placedRest⟩⟩

/-- Placing a unit with slots in order is refused or succeeds. -/
theorem place_ne_fault (inOrder : unit.SlotsInOrder) (fault : Fault) :
    layout.place unit ≠ .error (.fault fault) := by
  intro faulted
  rcases (refusal_of_place faulted).exists_misplaced with ⟨name, entry, found, outside⟩
  have inside := inOrder.slot_lt_size (Table.get?_eq_some_iff.1 found)
  exact absurd inside (Nat.not_lt.2 outside)

/-- Units with their slots in order never make the linker count past the last word. -/
theorem link_ne_fault (inOrder : ∀ unit ∈ program :: units, unit.SlotsInOrder) (fault : Fault) :
    link units program options ≠ .error (.fault fault) := by
  intro faulted
  rcases link_eq_error_cases faulted with ⟨error, _, notFault⟩ | ⟨stop, _⟩
  · cases notFault
  · exact place_ne_fault (inOrder stop.unit (List.mem_cons.2 stop.unit_mem.symm)) fault stop.stopped

end Runs

/-- What can be linked is linked. -/
theorem IsLinkable.exists_link (linkable : IsLinkable units program options)
    (inOrder : ∀ unit ∈ program :: units, unit.SlotsInOrder) :
    ∃ image, link units program options = .ok image := by
  obtain ⟨order, resolved⟩ := linkable.ordered
  have sequenced : sequence units program options
      = .ok ([] ++ (order.map units.get ++ [program])) := sequence_eq_ok.2 ⟨order, resolved, rfl⟩
  have members := sequence_perm sequenced
  obtain ⟨layout, placedAll⟩ := exists_placeAll sequenced (pure_eq_ok.2 rfl)
    (by rw [extent_eq_of_perm members]; exact linkable.globalsFit)
    (by rw [extent_eq_of_perm members]; exact linkable.codeFits)
    (fun unit member => inOrder unit (mem_cons_of_mem_linkedUnits (members.mem_iff.1 member)))
    (fun unit member => linkable.wellFormed unit (members.mem_iff.1 member))
  exact ⟨_, link_eq_ok.2 ⟨_, layout, sequenced, placedAll, rfl⟩⟩

/-- A unit that is relocated at its turn is well formed. -/
theorem Turn.isWellFormed (turn : Turn units program options)
    (relocated : ∃ code, turn.scope.relocateAll = .ok code) : IsWellFormed units turn.unit :=
  ⟨(Layout.unitMap_eq_ok.1 turn.mapped).1, turn.exists_relocateAll_iff.1 relocated⟩

/-- There was room for all that is linked. -/
theorem extents_le_of_link (linked : link units program options = .ok image)
    (sequenced : sequence units program options = .ok ordered) :
    extent slotCount ordered ≤ options.maxGlobals.toNat
      ∧ extent Layout.codeLength ordered ≤ options.maxInstructions.toNat := by
  obtain ⟨order, _, rfl⟩ := sequence_eq_ok.1 sequenced
  -- the program is placed last, so its turn sees the sums over all units before it
  obtain ⟨turn, earlierEq, unitEq⟩ := Turn.exists_of_linked linked sequenced
  obtain ⟨globalsRoom, codeRoom, _⟩ := Layout.reserve_eq_ok.1 turn.reserved
  obtain ⟨globalsLimit, codeLimit⟩ := limits_placeAll turn.placed
  rw [turn.holds.globalsNext, globalsLimit, earlierEq, unitEq] at globalsRoom
  rw [turn.holds.codeNext, codeLimit, earlierEq, unitEq] at codeRoom
  rw [extent_append, extent_append, extent_cons, extent_cons, extent_nil, extent_nil]
  exact ⟨globalsRoom, codeRoom⟩

/-- What is linked can be linked. -/
theorem isLinkable_of_link (linked : link units program options = .ok image) :
    IsLinkable units program options := by
  obtain ⟨ordered, _, sequenced, _, _⟩ := link_eq_ok.1 linked
  obtain ⟨order, resolved, _⟩ := sequence_eq_ok.1 sequenced
  have members := sequence_perm sequenced
  obtain ⟨globalsFit, codeFits⟩ := extents_le_of_link linked sequenced
  rw [extent_eq_of_perm members] at globalsFit codeFits
  refine ⟨⟨order, resolved⟩, globalsFit, codeFits, fun unit isLinked => ?_⟩
  obtain ⟨turn, rfl⟩ := Turn.exists_of_mem_linkedUnits linked isLinked
  obtain ⟨_, _, code, _, relocated, _⟩ := turn.completed linked
  exact turn.isWellFormed ⟨code, relocated⟩

/-- All sums are words when a unit is relocated, whether the run succeeds or not. -/
theorem Turn.sumsFit (turn : Turn units program options) : SumsFit turn.unit turn.map := by
  obtain ⟨entries, vars, _⟩ := Layout.unitMap_eq_ok.1 turn.mapped
  have globals : turn.map.globals.start.toNat + turn.unit.vars.size < 2 ^ 64 := by
    have stop := turn.toNat_globals_stop
    rw [← turn.toNat_globals_start] at stop
    exact stop ▸ turn.map.globals.stop.toNat_lt
  have code : turn.map.body.start.toNat + Layout.codeLength turn.unit < 2 ^ 64 := by
    have base : turn.map.body.start.toNat = _ := turn.toNat_base .body
    rw [base]
    exact turn.code_fits
  refine ⟨globals, code, ?_, ?_, ?_, ?_⟩
  · intro entry member
    have inside := entries entry member
    rw [Layout.codeLength] at code
    change _ < 2 ^ 64
    omega
  · rw [turn.map_eq]
    exact vars
  · intro slot inside
    change _ < 2 ^ 64
    omega
  · intro position inside
    have fits := turn.code_fits
    have within := sectionStart_add_lt inside
    change _ < 2 ^ 64
    rw [turn.toNat_base]
    omega

/-- Linking accepts exactly what can be linked. It makes no sum that is not a word: it
never ends in a fault, and all sums fit at the turn of every unit that it comes to. -/
theorem link_accepts_exactly (built : ∀ unit ∈ program :: units, unit.IsBuilt) :
    ((∃ image, link units program options = .ok image) ↔ IsLinkable units program options)
      ∧ (∀ fault, link units program options ≠ .error (.fault fault))
      ∧ ∀ turn : Turn units program options, SumsFit turn.unit turn.map := by
  have inOrder : ∀ unit ∈ program :: units, unit.SlotsInOrder :=
    fun unit member => (built unit member).slotsInOrder
  refine ⟨⟨?_, ?_⟩, link_ne_fault inOrder, Turn.sumsFit⟩
  · rintro ⟨image, linked⟩
    exact isLinkable_of_link linked
  · intro linkable
    exact linkable.exists_link inOrder

/-- A program that links meets all conditions. -/
theorem link_accepts_exactly_tally :
    (∀ unit ∈ [tallyProgram, tally], unit.IsBuilt) ∧ IsLinkable [tally] tallyProgram .standard := by
  have built : ∀ unit ∈ [tallyProgram, tally], unit.IsBuilt := by
    simp only [List.forall_mem_cons, List.not_mem_nil, false_imp_iff, implies_true, and_true]
    exact ⟨⟨_, _, _, _, rfl⟩, ⟨_, _, _, _, rfl⟩⟩
  exact ⟨built, (link_accepts_exactly built).1.1 link_tally⟩

end UnitLinker.Link
