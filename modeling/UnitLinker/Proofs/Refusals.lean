import Mathlib
import UnitLinker.Proofs.Turns

/-!
# Refusals

What is known when a run fails. It fails before any unit is placed, or at one unit of
its sequence when all units before that one are placed. A unit that is refused is the
unit that its error names. A unit at which counting goes past the last word declares a
variable with a slot that it does not have.
-/

namespace UnitLinker

/-- The unit for which an error is raised, if it is raised while a unit is placed. -/
def LinkError.raisedFor? : LinkError → Option String
  | .unresolvedSymbol unit _ _ | .unitNotUsed unit _ _ | .duplicateExport unit _ _ _
  | .undefinedLabel unit _ | .invalidOffset unit _ _ _ | .invalidEntry unit _ _ _ _
  | .slotOutOfRange unit _ _ | .spaceOverflow unit _ _ _ _ => some unit
  | .declaration _ | .duplicateUnit _ _ | .unexpectedProgram _ _ _ | .notAProgram _
  | .unresolvedUnit _ _ _ | .cyclicDependency _ _ => none

/-- Whether an error says that a space has no room left. -/
def LinkError.isSpaceOverflow : LinkError → Bool
  | .spaceOverflow _ _ _ _ _ => true
  | _ => false

/-- A variable that a unit declares with a slot that it does not have. -/
def ObjectUnit.Misplaces (unit : ObjectUnit) (name : String) : Prop :=
  ∃ entry, unit.vars.get? name = some entry ∧ unit.vars.size ≤ entry.slot.toNat

namespace Link

/-- All errors of a computation are raised for the unit of this name. -/
abbrev Blames {α : Type} (name : String) (result : Except LinkError α) : Prop :=
  OnlyErrors (fun error => error.raisedFor? = some name) result

namespace Scope

variable (scope : Scope) (stream : Section)

/-- A name that cannot be bound is refused for the unit that refers to it. -/
theorem blames_bind (lookup : SymbolLookup) (name : String) :
    Blames scope.unit.name (scope.bind lookup name) := by
  unfold bind
  split
  · exact .ok _
  · split
    · exact .error rfl
    · exact .ok _
    · exact .error rfl

/-- So is a name of another unit. -/
theorem blames_bindQualified (lookup : SymbolLookup) (unit name : String) :
    Blames scope.unit.name (scope.bindQualified lookup unit name) := by
  simp only [bindQualified]
  split
  · rename_i error found
    split at found
    · cases found
    · split at found
      · cases found
      · cases found
        exact .error rfl
  · exact .ok _
  · exact .error rfl

/-- Variables are refused for the unit of the instruction. -/
theorem blames_relocateVar (var : VarRef) :
    Blames scope.unit.name (scope.relocateVar var) := by
  have found : Blames scope.unit.name (scope.globalOf? var) := by
    cases var with
    | slot slot =>
      simp only [globalOf?]
      split
      · exact .error rfl
      · exact .ok _
    | named name => exact (scope.blames_bind .vars name).bind_pure
    | qualified unit name => exact (scope.blames_bindQualified .vars unit name).bind_pure
    | frame _ _ | global _ => exact .ok _
  apply found.bind
  intro place
  cases place <;> exact .ok _

/-- Positions are refused for the unit that they are in. -/
theorem blames_addressOf (position : CodeOffset) :
    Blames scope.unit.name (scope.addressOf position) := by
  unfold addressOf
  split
  · exact .error rfl
  · exact .ok _

/-- Jumps are refused for the unit of the instruction. -/
theorem blames_relocateTarget (target : JumpTarget) :
    Blames scope.unit.name (scope.relocateTarget stream target) := by
  cases target with
  | label name =>
    simp only [relocateTarget]
    split
    · exact .error rfl
    · exact (scope.blames_addressOf _).bind_pure
  | offset offset => exact (scope.blames_addressOf _).bind_pure
  | address _ => exact .ok _

/-- Calls are refused for the unit of the instruction, not for the one that is called. -/
theorem blames_relocateCallee (callee : Callee) :
    Blames scope.unit.name (scope.relocateCallee callee) := by
  have found : Blames scope.unit.name (scope.entryOf? callee) := by
    cases callee with
    | routine name => exact (scope.blames_bind .routines name).bind_pure
    | qualified unit name => exact (scope.blames_bindQualified .routines unit name).bind_pure
    | address _ => exact .ok _
  apply found.bind
  intro place
  cases place <;> exact .ok _

/-- Whatever is wrong with an instruction, the unit that has it is to blame. -/
theorem blames_relocate (instruction : Instruction) :
    Blames scope.unit.name (scope.relocate stream instruction) := by
  cases instruction with
  | load var | store var | addrOf var => exact (scope.blames_relocateVar var).bind_pure
  | jump target | jumpIf target | jumpIfNot target =>
    exact (scope.blames_relocateTarget stream target).bind_pure
  | call callee _ => exact (scope.blames_relocateCallee callee).bind_pure
  | _ => exact .ok _

/-- A unit whose code is refused is the unit that the error names. -/
theorem blames_relocateAll : Blames scope.unit.name scope.relocateAll := by
  refine OnlyErrors.bind_pure (.mapM fun stream _ => ?_)
  refine OnlyErrors.bind_pure (.mapM fun instruction _ => ?_)
  exact scope.blames_relocate stream instruction

end Scope

section Stops

variable {layout : Layout} {unit : ObjectUnit} {failure : Failure}

/-- Why a unit is not placed, by the checks in their order. -/
inductive Refusal (layout : Layout) (unit : ObjectUnit) : Failure → Prop where
  | space {error : LinkError} (full : layout.reserve unit = .error error) :
      Refusal layout unit (.refused error)
  | entry {reservation : Reservation} {error : LinkError}
      (reserved : layout.reserve unit = .ok reservation)
      (outside : Layout.routineSymbols unit reservation.code.start = .error error) :
      Refusal layout unit (.refused error)
  | slot {reservation : Reservation} {fault : Fault}
      (reserved : layout.reserve unit = .ok reservation)
      (entries : ∃ symbols, Layout.routineSymbols unit reservation.code.start = .ok symbols)
      (overflows : Layout.variableSymbols unit reservation.globals.start = .error fault) :
      Refusal layout unit (.fault fault)
  | code {reservation : Reservation} {map : UnitMap} {error : LinkError}
      (reserved : layout.reserve unit = .ok reservation)
      (mapped : Layout.unitMap unit reservation = .ok map)
      (unresolved : Scope.relocateAll ⟨unit, map, layout.units⟩ = .error error) :
      Refusal layout unit (.refused error)

/-- A unit that cannot be placed fails one of the checks. -/
theorem refusal_of_place (failed : layout.place unit = .error failure) :
    Refusal layout unit failure := by
  rw [Layout.place] at failed
  rcases bind_eq_error.1 failed with notReserved | ⟨reservation, reserved, mapping⟩
  · obtain ⟨error, full, rfl⟩ := mapError_eq_error.1 notReserved
    exact .space full
  · have reserved := refusing_eq_ok.1 reserved
    rcases bind_eq_error.1 mapping with notMapped | ⟨map, mapped, relocating⟩
    · rcases bind_eq_error.1 notMapped with badEntry | ⟨symbols, entries, placingVars⟩
      · obtain ⟨error, outside, rfl⟩ := mapError_eq_error.1 badEntry
        exact .entry reserved outside
      · rcases bind_eq_error.1 placingVars with badSlot | ⟨vars, _, given⟩
        · obtain ⟨fault, overflows, rfl⟩ := mapError_eq_error.1 badSlot
          exact .slot reserved ⟨symbols, refusing_eq_ok.1 entries⟩ overflows
        · cases given
    · rcases bind_eq_error.1 relocating with notRelocated | ⟨code, _, given⟩
      · obtain ⟨error, unresolved, rfl⟩ := mapError_eq_error.1 notRelocated
        exact .code reserved mapped unresolved
      · cases given

/-- Blocks are refused for want of room, and for the unit that asks for them. -/
theorem Layout.reserve_errors (layout : Layout) (unit : ObjectUnit) :
    OnlyErrors (fun error => error.raisedFor? = some unit.name ∧ error.isSpaceOverflow = true)
      (layout.reserve unit) := by
  have reserve : ∀ (space : Space) (length : Nat),
      OnlyErrors (fun error => error.raisedFor? = some unit.name ∧ error.isSpaceOverflow = true)
        (space.reserve unit.name length) := by
    intro space length
    unfold Space.reserve
    split
    · exact .ok _
    · exact .error ⟨rfl, rfl⟩
  apply (reserve layout.globals unit.vars.size).bind
  intro globals
  exact (reserve layout.code (codeLength unit)).bind_pure

/-- Entries are refused for the unit of the routine. -/
theorem Layout.blames_routineSymbols (unit : ObjectUnit) (start : UInt64) :
    Blames unit.name (routineSymbols unit start) := by
  simp only [routineSymbols]
  split
  · exact .error rfl
  · exact .ok _

/-- A unit that is refused is the unit that the error names. -/
theorem Refusal.raisedFor {error : LinkError} (refusal : Refusal layout unit (.refused error)) :
    error.raisedFor? = some unit.name := by
  cases refusal with
  | space full => exact (layout.reserve_errors unit error full).1
  | entry reserved outside => exact Layout.blames_routineSymbols unit _ error outside
  | code reserved mapped unresolved => exact Scope.blames_relocateAll _ error unresolved

/-- The slots of a unit are words once its block is reserved. -/
theorem slots_fit {reservation : Reservation} (reserved : layout.reserve unit = .ok reservation)
    (inside : ∀ entry ∈ unit.vars.entries, entry.2.slot.toNat < unit.vars.size) :
    ∀ entry ∈ unit.vars.entries,
      reservation.globals.start.toNat + entry.2.slot.toNat < 2 ^ 64 := by
  obtain ⟨room, _, rfl⟩ := Layout.reserve_eq_ok.1 reserved
  intro entry member
  have slotInside := inside entry member
  have bound := layout.globals.limit.toNat_lt
  change layout.globals.next.toNat + _ < _
  omega

/-- Counting goes past the last word only for a variable that its unit misplaces. -/
theorem Refusal.exists_misplaced {fault : Fault} (refusal : Refusal layout unit (.fault fault)) :
    ∃ name, unit.Misplaces name := by
  cases refusal with
  | slot reserved entries overflows =>
    by_contra allPlaced
    have inside : ∀ entry ∈ unit.vars.entries, entry.2.slot.toNat < unit.vars.size := by
      intro entry member
      by_contra outside
      exact allPlaced ⟨entry.1, entry.2, Table.get?_eq_some_iff.2 member, Nat.not_lt.1 outside⟩
    rw [variableSymbols_eq_ok.2 ⟨slots_fit reserved inside, rfl⟩] at overflows
    cases overflows

/-- The moment of a run at which a unit is not placed, which ends the run. -/
structure Stop (units : List ObjectUnit) (program : ObjectUnit) (options : Options)
    (failure : Failure) where
  earlier : List ObjectUnit
  unit : ObjectUnit
  later : List ObjectUnit
  before : Layout
  sequenced : sequence units program options = .ok (earlier ++ unit :: later)
  placed : (Layout.fresh options).placeAll earlier = .ok before
  stopped : before.place unit = .error failure

variable {units : List ObjectUnit} {program : ObjectUnit} {options : Options}

/-- A run stops at a supplied unit or at the program. -/
theorem Stop.unit_mem (stop : Stop units program options failure) :
    stop.unit ∈ units ∨ stop.unit = program :=
  mem_of_sequence stop.sequenced (List.mem_append_right _ List.mem_cons_self)

/-- A run fails because its units cannot be put in order, or at one of its units. -/
theorem link_eq_error_cases (failed : link units program options = .error failure) :
    (∃ error, sequence units program options = .error error ∧ failure = .refused error)
      ∨ ∃ stop : Stop units program options failure, Refusal stop.before stop.unit failure := by
  rw [link] at failed
  rcases bind_eq_error.1 failed with notSequenced | ⟨ordered, sequenced, placing⟩
  · obtain ⟨error, unordered, rfl⟩ := mapError_eq_error.1 notSequenced
    exact .inl ⟨error, unordered, rfl⟩
  · rcases bind_eq_error.1 placing with notPlaced | ⟨layout, _, given⟩
    · obtain ⟨earlier, unit, later, before, rfl, placed, stopped⟩ :=
        exists_of_foldlM_eq_error notPlaced
      exact .inr ⟨⟨earlier, unit, later, before, refusing_eq_ok.1 sequenced, placed, stopped⟩,
        refusal_of_place stopped⟩
    · cases given

end Stops

end Link

end UnitLinker
