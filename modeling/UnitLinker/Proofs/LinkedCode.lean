import Mathlib
import UnitLinker.Proofs.Turns

/-!
# Linked code

Relocation rewrites exactly the operands that are not linked. Whatever it gives is
linked, and what is linked already stays as it is. So an image never has an
unresolved operand, and code that needs no linking is put one block after the other.
-/

namespace UnitLinker

/-- Whether no instruction of a unit needs further resolution. -/
def ObjectUnit.HasLinkedCode (unit : ObjectUnit) : Prop :=
  ∀ stream, ∀ instruction ∈ unit.code.stream stream, instruction.isLinked = true

/-- The code of a unit as it stands in its block if nothing of it is rewritten. -/
def ObjectUnit.blockCode (unit : ObjectUnit) : List Instruction :=
  unit.code.body ++ (unit.code.init ++ [.ret]) ++ (unit.code.final ++ [.ret])

namespace Link

namespace Scope

variable {scope : Scope} {stream : Section} {operand moved : Operand}
  {source target : Instruction} {code : List Instruction}

/-- A variable that is relocated is linked. -/
theorem isLinked_of_relocateVar {var given : VarRef}
    (relocated : scope.relocateVar var = .ok given) : given.isLinked = true := by
  cases linked : var.isLinked with
  | true =>
    rw [relocateVar_of_linked linked] at relocated
    cases relocated
    exact linked
  | false =>
    obtain ⟨slot, rfl⟩ := exists_slot_of_relocateVar linked relocated
    rfl

/-- A jump target that is relocated is linked. -/
theorem isLinked_of_relocateTarget {target given : JumpTarget}
    (relocated : scope.relocateTarget stream target = .ok given) : given.isLinked = true := by
  cases target with
  | address word =>
    cases relocated
    rfl
  | offset offset =>
    obtain ⟨word, _, rfl⟩ := relocateTarget_offset_eq_ok.1 relocated
    rfl
  | label name =>
    obtain ⟨position, word, _, _, rfl⟩ := relocateTarget_label_eq_ok.1 relocated
    rfl

/-- A callee that is relocated is linked. -/
theorem isLinked_of_relocateCallee {callee given : Callee}
    (relocated : scope.relocateCallee callee = .ok given) : given.isLinked = true := by
  cases linked : callee.isLinked with
  | true =>
    rw [relocateCallee_of_linked linked] at relocated
    cases relocated
    exact linked
  | false =>
    obtain ⟨word, rfl⟩ := exists_word_of_relocateCallee linked relocated
    rfl

/-- An operand that is relocated is linked, whatever it is. -/
theorem isLinked_of_relocateOperand
    (relocated : scope.relocateOperand stream operand = .ok moved) : moved.isLinked = true := by
  cases operand with
  | var var =>
    obtain ⟨given, varMoved, rfl⟩ := map_eq_ok.1 relocated
    exact isLinked_of_relocateVar varMoved
  | target target =>
    obtain ⟨given, targetMoved, rfl⟩ := map_eq_ok.1 relocated
    exact isLinked_of_relocateTarget targetMoved
  | callee callee =>
    obtain ⟨given, calleeMoved, rfl⟩ := map_eq_ok.1 relocated
    exact isLinked_of_relocateCallee calleeMoved

/-- A linked operand stays as it is. -/
theorem relocateOperand_of_linked (linked : operand.isLinked = true) :
    scope.relocateOperand stream operand = .ok operand := by
  cases operand with
  | var var => simp [relocateOperand, relocateVar_of_linked linked, Except.map]
  | callee callee => simp [relocateOperand, relocateCallee_of_linked linked, Except.map]
  | target target =>
    cases target with
    | address word => rfl
    | label name => cases linked
    | offset offset => cases linked

/-- An instruction that is relocated is linked. -/
theorem isLinked_of_relocate (relocated : scope.relocate stream source = .ok target) :
    target.isLinked = true := by
  cases has : source.operand? with
  | none =>
    rw [relocate_of_no_operand has] at relocated
    cases relocated
    simp [Instruction.isLinked_eq, has]
  | some operand =>
    rw [relocate_of_operand has] at relocated
    obtain ⟨moved, operandMoved, rfl⟩ := map_eq_ok.1 relocated
    rw [Instruction.isLinked_eq, operand?_withOperand has operandMoved]
    exact isLinked_of_relocateOperand operandMoved

/-- A linked instruction stays as it is, whatever is known of its unit. -/
theorem relocate_of_linked (linked : source.isLinked = true) :
    scope.relocate stream source = .ok source := by
  cases has : source.operand? with
  | none => exact relocate_of_no_operand has
  | some operand =>
    rw [Instruction.isLinked_eq, has] at linked
    rw [relocate_of_operand has, relocateOperand_of_linked linked]
    exact congrArg Except.ok (Instruction.withOperand_self has)

theorem isLinked_of_mem_moved {sources moved : List Instruction}
    (pieces : List.Forall₂ (fun source target => scope.relocate stream source = .ok target)
      sources moved) : ∀ instruction ∈ moved, instruction.isLinked = true := by
  induction pieces with
  | nil => simp
  | cons piece _ ih => exact List.forall_mem_cons.2 ⟨isLinked_of_relocate piece, ih⟩

/-- All code of a relocated section is linked, its return included. -/
theorem isLinked_of_relocateSection (relocated : scope.relocateSection stream = .ok code) :
    ∀ instruction ∈ code, instruction.isLinked = true := by
  obtain ⟨moved, pieces, rfl⟩ := relocateSection_eq_ok.1 relocated
  have ended : ∀ instruction ∈ trailer stream, instruction.isLinked = true := by
    cases stream <;> simp [trailer, Instruction.isLinked]
  exact List.forall_mem_append.2 ⟨isLinked_of_mem_moved pieces, ended⟩

/-- All code of a relocated unit is linked. -/
theorem isLinked_of_relocateAll (relocated : scope.relocateAll = .ok code) :
    ∀ instruction ∈ code, instruction.isLinked = true := by
  obtain ⟨body, init, final, bodyDone, initDone, finalDone, rfl⟩ := relocateAll_eq_ok.1 relocated
  simp only [List.forall_mem_append]
  exact ⟨isLinked_of_relocateSection bodyDone, isLinked_of_relocateSection initDone,
    isLinked_of_relocateSection finalDone⟩

/-- A section of linked code only gets its return. -/
theorem relocateSection_of_linked
    (linked : ∀ instruction ∈ scope.unit.code.stream stream, instruction.isLinked = true) :
    scope.relocateSection stream = .ok (scope.unit.code.stream stream ++ trailer stream) := by
  apply relocateSection_eq_ok.2
  refine ⟨_, ?_, rfl⟩
  apply List.forall₂_same.2
  intro instruction member
  exact relocate_of_linked (linked instruction member)

/-- A unit of linked code only gets its returns. -/
theorem relocateAll_of_linked (linked : scope.unit.HasLinkedCode) :
    scope.relocateAll = .ok scope.unit.blockCode := by
  apply relocateAll_eq_ok.2
  refine ⟨_, _, _, relocateSection_of_linked (linked .body),
    relocateSection_of_linked (linked .init),
    relocateSection_of_linked (linked .final), ?_⟩
  simp [ObjectUnit.blockCode, Code.stream, trailer]

end Scope

/-- The code is that of a unit, relocated in some scope. -/
def IsRelocated (unit : ObjectUnit) (code : List Instruction) : Prop :=
  ∃ scope : Scope, scope.unit = unit ∧ scope.relocateAll = .ok code

variable {units : List ObjectUnit} {program : ObjectUnit} {options : Options} {image : Image}
  {layout final : Layout} {rest : List ObjectUnit} {codes : List (List Instruction)}

/-- Placing units adds the relocated code of each of them. -/
theorem exists_codes_of_placeAll (placedAll : layout.placeAll rest = .ok final) :
    ∃ codes, List.Forall₂ IsRelocated rest codes
      ∧ final.instructions = layout.instructions ++ codes.flatten := by
  induction rest generalizing layout with
  | nil =>
    cases pure_eq_ok.1 placedAll
    exact ⟨[], .nil, by simp⟩
  | cons unit rest ih =>
    obtain ⟨next, placedUnit, placedRest⟩ := placeAll_cons_eq_ok.1 placedAll
    obtain ⟨reservation, map, code, _, _, relocated, rfl⟩ := Layout.place_eq_ok.1 placedUnit
    obtain ⟨codes, pieces, addedEq⟩ := ih placedRest
    refine ⟨code :: codes, .cons ⟨⟨unit, map, layout.units⟩, rfl, relocated⟩ pieces, ?_⟩
    simp [addedEq]

/-- The code of an image is the relocated code of its units. -/
theorem exists_codes_of_link (linked : link units program options = .ok image) :
    ∃ ordered codes, sequence units program options = .ok ordered
      ∧ List.Forall₂ IsRelocated ordered codes ∧ image.instructions = codes.flatten := by
  obtain ⟨ordered, layout, sequenced, placed, rfl⟩ := link_eq_ok.1 linked
  obtain ⟨codes, pieces, addedEq⟩ := exists_codes_of_placeAll placed
  exact ⟨ordered, codes, sequenced, pieces, addedEq⟩

/-- The code of several relocated units is linked. -/
theorem isLinked_of_mem_flatten (pieces : List.Forall₂ IsRelocated rest codes) :
    ∀ instruction ∈ codes.flatten, instruction.isLinked = true := by
  induction pieces with
  | nil => simp
  | cons piece _ ih =>
    obtain ⟨scope, _, relocated⟩ := piece
    rw [List.flatten_cons, List.forall_mem_append]
    exact ⟨Scope.isLinked_of_relocateAll relocated, ih⟩

/-- Units whose code is linked already are put one after the other. -/
theorem flatten_of_linked (pieces : List.Forall₂ IsRelocated rest codes)
    (linked : ∀ unit ∈ rest, unit.HasLinkedCode) :
    codes.flatten = rest.flatMap ObjectUnit.blockCode := by
  induction pieces with
  | nil => rfl
  | cons piece _ ih =>
    obtain ⟨scope, rfl, relocated⟩ := piece
    obtain ⟨unitLinked, restLinked⟩ := List.forall_mem_cons.1 linked
    rw [Scope.relocateAll_of_linked unitLinked] at relocated
    cases relocated
    rw [List.flatten_cons, List.flatMap_cons, ih restLinked]

/-- Relocation makes linked code of any code, and changes nothing of code that is linked.
So an image is fully linked, and one of units whose code is linked already has the code of
these units, block after block. -/
theorem relocated_code_is_linked (units : List ObjectUnit) (program : ObjectUnit)
    (options : Options) :
    (∀ (scope : Scope) (stream : Section) (source : Instruction),
      (∀ target, scope.relocate stream source = .ok target → target.isLinked = true)
      ∧ (source.isLinked = true → scope.relocate stream source = .ok source))
    ∧ ∀ image, link units program options = .ok image →
      image.isFullyLinked = true
      ∧ ((∀ unit ∈ program :: units, unit.HasLinkedCode) →
        ∃ ordered, sequence units program options = .ok ordered
          ∧ image.units.names = ordered.map ObjectUnit.name
          ∧ image.instructions = ordered.flatMap ObjectUnit.blockCode) := by
  constructor
  · intro scope stream source
    exact ⟨fun target => Scope.isLinked_of_relocate, Scope.relocate_of_linked⟩
  · intro image linked
    obtain ⟨ordered, codes, sequenced, pieces, instructionsEq⟩ := exists_codes_of_link linked
    constructor
    · rw [Image.isFullyLinked, List.all_eq_true, instructionsEq]
      exact isLinked_of_mem_flatten pieces
    · intro allLinked
      have orderedLinked : ∀ unit ∈ ordered, unit.HasLinkedCode := by
        intro unit member
        apply allLinked
        exact List.mem_cons.2 (mem_of_sequence sequenced member).symm
      refine ⟨ordered, sequenced, (holds_of_link linked sequenced).1, ?_⟩
      rw [instructionsEq, flatten_of_linked pieces orderedLinked]

section Beacon

/-- A unit whose code is linked already: it sets a slot that it knows by its place. -/
def beacon : ObjectUnit :=
  (ObjectUnit.empty "Beacon" .unit none).attemptAll
    [.emit (.load (.frame 0 1)), .emit (.store (.global 0)), .emit .ret, .select .init,
      .emit (.call (.address 0) 1)]

/-- A program that enters the unit by an address. -/
def beaconProgram : ObjectUnit :=
  (ObjectUnit.empty "Main" .program none).attemptAll
    [.use "Beacon" none, .var "signal" .implementation, .select .init, .emit (.jump (.address 1))]

theorem link_beacon : ∃ image, link [beacon] beaconProgram .standard = .ok image :=
  exists_ok_of_isOk (by cbv)

theorem hasLinkedCode_beacon : ∀ unit ∈ [beaconProgram, beacon], unit.HasLinkedCode := by
  intro unit member stream
  simp only [List.mem_cons, List.not_mem_nil, or_false] at member
  rcases member with rfl | rfl <;> cases stream <;> decide

theorem not_hasLinkedCode_tally : ¬ tally.HasLinkedCode := by
  intro linked
  have code : tally.code.stream .body
      = [.load (.slot 0), .store (.named "count"), .ret] := by cbv
  have first := linked .body (.load (.slot 0))
  rw [code] at first
  cases first List.mem_cons_self

end Beacon

/-- One image has the code of its units as it is, the other one has no operand of its
unit left. -/
theorem relocated_code_is_linked_beacon :
    ((∀ unit ∈ [beaconProgram, beacon], unit.HasLinkedCode)
      ∧ ∃ image, link [beacon] beaconProgram .standard = .ok image
        ∧ image.isFullyLinked = true
        ∧ image.instructions = beacon.blockCode ++ beaconProgram.blockCode)
    ∧ ¬ tally.HasLinkedCode
      ∧ ∃ image, link [tally] tallyProgram .standard = .ok image
        ∧ image.isFullyLinked = true := by
  constructor
  · obtain ⟨image, linked⟩ := link_beacon
    obtain ⟨isFullyLinked, inOrder⟩ :=
      (relocated_code_is_linked [beacon] beaconProgram .standard).2 image linked
    obtain ⟨ordered, sequenced, _, instructionsEq⟩ := inOrder hasLinkedCode_beacon
    have expected : sequence [beacon] beaconProgram .standard
        = .ok [beacon, beaconProgram] := by cbv
    cases expected.symm.trans sequenced
    exact ⟨hasLinkedCode_beacon, image, linked, isFullyLinked, by simpa using instructionsEq⟩
  · obtain ⟨image, linked⟩ := link_tally
    obtain ⟨isFullyLinked, _⟩ :=
      (relocated_code_is_linked [tally] tallyProgram .standard).2 image linked
    exact ⟨not_hasLinkedCode_tally, image, linked, isFullyLinked⟩

end Link

end UnitLinker
