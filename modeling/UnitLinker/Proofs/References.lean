import Mathlib
import UnitLinker.Proofs.Binding

/-!
# What references need

The scoping rule as a relation between a reference and the unit whose declaration it
means, and what every other operand needs. At its turn a unit is relocated if and
only if all of its operands have what they need.
-/

namespace UnitLinker.Link

/-- The scoping rule: the unit whose declaration a reference in a unit means. -/
inductive BindsTo (units : List ObjectUnit) (user : ObjectUnit) : Reference → String → Prop where
  /-- A declaration of the unit itself comes first, whatever its visibility. -/
  | own {kind : SymbolKind} {name : String} (declared : (user.visibility? name kind).isSome) :
      BindsTo units user ⟨kind, none, name⟩ user.name
  /-- Failing that, exactly one unit of the uses clause exports the name. -/
  | imported {kind : SymbolKind} {name owner : String}
      (absent : user.visibility? name kind = none)
      (only : exportersOf units user kind name = [owner]) :
      BindsTo units user ⟨kind, none, name⟩ owner
  | qualifiedOwn {kind : SymbolKind} {name : String}
      (declared : (user.visibility? name kind).isSome) :
      BindsTo units user ⟨kind, some user.name, name⟩ user.name
  | qualifiedUsed {kind : SymbolKind} {name owner : String} (differs : owner ≠ user.name)
      (used : owner ∈ user.usedNames) (exported : exports units kind name owner = true) :
      BindsTo units user ⟨kind, some owner, name⟩ owner

/-- What an operand in a section of a unit needs. Frame slots and operands that are
linked already need nothing. -/
def Resolves (units : List ObjectUnit) (unit : ObjectUnit) (stream : Section) : Operand → Prop
  | .var (.slot slot) => slot.toNat < unit.vars.size
  | .target (.label name) => ∃ position, unit.labels.get? name = some position
      ∧ IsInside unit position.stream position.offset.toNat
  | .target (.offset offset) => IsInside unit stream offset.toNat
  | operand => match operand.reference? with
    | some reference => ∃ owner, BindsTo units unit reference owner
    | none => True

variable {units : List ObjectUnit} {program : ObjectUnit} {options : Options}
  {turn : Turn units program options} {user : ObjectUnit} {reference : Reference}

/-- A reference means one declaration at most. -/
theorem BindsTo.unique {first second : String} (toFirst : BindsTo units user reference first)
    (toSecond : BindsTo units user reference second) : first = second := by
  cases toFirst with
  | own declared =>
    cases toSecond with
    | own _ => rfl
    | imported absent _ =>
      rw [absent] at declared
      cases declared
  | imported absent only =>
    cases toSecond with
    | own declared =>
      rw [absent] at declared
      cases declared
    | imported _ otherOnly =>
      rw [only] at otherOnly
      exact List.singleton_inj.1 otherOnly
  | qualifiedOwn _ =>
    cases toSecond with
    | qualifiedOwn _ => rfl
    | qualifiedUsed differs _ _ => rfl
  | qualifiedUsed _ _ _ =>
    cases toSecond with
    | qualifiedOwn _ => rfl
    | qualifiedUsed _ _ _ => rfl

section Exports

variable {others : List ObjectUnit} (sameExports : exports units = exports others)
include sameExports

/-- The scoping rule reads the supplied units by what they export. -/
theorem BindsTo.of_sameExports {owner : String} (bindsTo : BindsTo units user reference owner) :
    BindsTo others user reference owner := by
  cases bindsTo with
  | own declared => exact .own declared
  | imported absent only =>
    rw [exportersOf, sameExports] at only
    exact .imported absent only
  | qualifiedOwn declared => exact .qualifiedOwn declared
  | qualifiedUsed differs used exported =>
    rw [sameExports] at exported
    exact .qualifiedUsed differs used exported

/-- What resolves depends on other units by their exports only. -/
theorem Resolves.of_sameExports {stream : Section} {operand : Operand}
    (resolves : Resolves units user stream operand) : Resolves others user stream operand := by
  cases operand with
  | var var =>
    cases var with
    | slot _ => exact resolves
    | frame _ _ | global _ => trivial
    | named _ | qualified _ _ =>
      obtain ⟨owner, bindsTo⟩ := resolves
      exact ⟨owner, bindsTo.of_sameExports sameExports⟩
  | target target =>
    cases target with
    | label _ | offset _ => exact resolves
    | address _ => trivial
  | callee callee =>
    cases callee with
    | address _ => trivial
    | routine _ | qualified _ _ =>
      obtain ⟨owner, bindsTo⟩ := resolves
      exact ⟨owner, bindsTo.of_sameExports sameExports⟩

end Exports

namespace Turn

/-- At the turn of a unit, a reference is resolved to the place of the declaration
that it means, and refused if it means none. -/
theorem resolve_outcome (turn : Turn units program options) (reference : Reference) :
    (∃ owner place, BindsTo units turn.unit reference owner
        ∧ turn.place? reference.kind owner reference.name = some place
        ∧ turn.scope.resolve reference = .ok place)
      ∨ ((∀ owner, ¬ BindsTo units turn.unit reference owner)
        ∧ ∃ error, turn.scope.resolve reference = .error error) := by
  obtain ⟨kind, owner?, name⟩ := reference
  cases owner? with
  | none =>
    rcases turn.bind_outcome kind name with ⟨declared, place, recorded, bound⟩
      | ⟨absent, exported, bound⟩ | ⟨absent, owner, place, exported, recorded, bound⟩
      | ⟨absent, several, bound⟩
    · exact .inl ⟨_, place, .own declared, recorded, bound⟩
    · refine .inr ⟨fun owner bindsTo => ?_, _, bound⟩
      cases bindsTo with
      | own declared => simp [absent] at declared
      | imported _ only => simp [exported] at only
    · exact .inl ⟨owner, place, .imported absent exported, recorded, bound⟩
    · refine .inr ⟨fun owner bindsTo => ?_, _, bound⟩
      cases bindsTo with
      | own declared => simp [absent] at declared
      | imported _ only => simp [only] at several
  | some given =>
    rcases turn.bindQualified_outcome kind given name with ⟨place, recorded, bound, found⟩
      | ⟨differs, notUsed, bound⟩ | ⟨absent, bound⟩
    · refine .inl ⟨given, place, ?_, recorded, bound⟩
      rcases found with ⟨rfl, declared⟩ | ⟨differs, used, exported⟩
      · exact .qualifiedOwn declared
      · exact .qualifiedUsed differs used exported
    · refine .inr ⟨fun owner bindsTo => ?_, _, bound⟩
      cases bindsTo with
      | qualifiedOwn _ => exact differs rfl
      | qualifiedUsed _ used _ => exact notUsed used
    · refine .inr ⟨fun owner bindsTo => ?_, _, bound⟩
      cases bindsTo with
      | qualifiedOwn declared =>
        rcases absent with ⟨_, missing⟩ | ⟨differs, _, _⟩
        · simp [missing] at declared
        · exact differs rfl
      | qualifiedUsed differs _ exported =>
        rcases absent with ⟨same, _⟩ | ⟨_, _, hidden⟩
        · exact differs same
        · simp [hidden] at exported

/-- A reference is resolved exactly if it means a symbol. -/
theorem exists_resolve_iff (turn : Turn units program options) (reference : Reference) :
    (∃ place, turn.scope.resolve reference = .ok place)
      ↔ ∃ owner, BindsTo units turn.unit reference owner := by
  rcases turn.resolve_outcome reference with ⟨owner, place, bindsTo, _, resolved⟩
    | ⟨unbound, error, refused⟩
  · exact iff_of_true ⟨place, resolved⟩ ⟨owner, bindsTo⟩
  · refine iff_of_false ?_ fun ⟨owner, bindsTo⟩ => unbound owner bindsTo
    rintro ⟨place, resolved⟩
    rw [refused] at resolved
    cases resolved

/-- What a reference is resolved to is the place of the declaration that it means. -/
theorem exists_owner_of_resolve {place : UInt64}
    (resolved : turn.scope.resolve reference = .ok place) :
    ∃ owner, BindsTo units turn.unit reference owner
      ∧ turn.place? reference.kind owner reference.name = some place := by
  rcases turn.resolve_outcome reference with ⟨owner, other, bindsTo, recorded, resolvedTo⟩
    | ⟨_, error, refused⟩
  · cases resolved.symm.trans resolvedTo
    exact ⟨owner, bindsTo, recorded⟩
  · cases resolved.symm.trans refused

section Operands

variable {stream : Section} {operand : Operand}

theorem exists_relocateOperand_of_reference (turn : Turn units program options)
    (refers : operand.reference? = some reference) :
    (∃ moved, turn.scope.relocateOperand stream operand = .ok moved)
      ↔ ∃ owner, BindsTo units turn.unit reference owner := by
  rw [Scope.relocateOperand_of_reference refers, ← exists_resolve_iff]
  constructor
  · rintro ⟨moved, relocated⟩
    obtain ⟨place, resolved, _⟩ := map_eq_ok.1 relocated
    exact ⟨place, resolved⟩
  · rintro ⟨place, resolved⟩
    exact ⟨_, map_eq_ok.2 ⟨place, resolved, rfl⟩⟩

/-- At the turn of a unit, an operand is relocated if and only if it has what it needs. -/
theorem exists_relocateOperand_iff (turn : Turn units program options) (stream : Section)
    (operand : Operand) :
    (∃ moved, turn.scope.relocateOperand stream operand = .ok moved)
      ↔ Resolves units turn.unit stream operand := by
  cases operand with
  | var var =>
    cases var with
    | slot slot =>
      constructor
      · rintro ⟨moved, relocated⟩
        obtain ⟨target, varMoved, _⟩ := map_eq_ok.1 relocated
        exact (Scope.relocateVar_slot_eq_ok.1 varMoved).1
      · intro inside
        exact ⟨_, map_eq_ok.2 ⟨_, Scope.relocateVar_slot_eq_ok.2 ⟨inside, rfl⟩, rfl⟩⟩
    | named _ | qualified _ _ => exact turn.exists_relocateOperand_of_reference rfl
    | frame _ _ | global _ => exact iff_of_true ⟨_, rfl⟩ trivial
  | target target =>
    cases target with
    | label name =>
      constructor
      · rintro ⟨moved, relocated⟩
        obtain ⟨target, targetMoved, _⟩ := map_eq_ok.1 relocated
        obtain ⟨position, word, labelled, addressed, _⟩ :=
          Scope.relocateTarget_label_eq_ok.1 targetMoved
        exact ⟨position, labelled, (Scope.addressOf_eq_ok.1 addressed).1⟩
      · rintro ⟨position, labelled, inside⟩
        have addressed : turn.scope.addressOf position = .ok _ :=
          Scope.addressOf_eq_ok.2 ⟨inside, rfl⟩
        exact ⟨_, map_eq_ok.2 ⟨_, Scope.relocateTarget_label_eq_ok.2
          ⟨position, _, labelled, addressed, rfl⟩, rfl⟩⟩
    | offset offset =>
      constructor
      · rintro ⟨moved, relocated⟩
        obtain ⟨target, targetMoved, _⟩ := map_eq_ok.1 relocated
        obtain ⟨word, addressed, _⟩ := Scope.relocateTarget_offset_eq_ok.1 targetMoved
        exact (Scope.addressOf_eq_ok.1 addressed).1
      · intro inside
        have addressed : turn.scope.addressOf ⟨stream, offset⟩ = .ok _ :=
          Scope.addressOf_eq_ok.2 ⟨inside, rfl⟩
        exact ⟨_, map_eq_ok.2 ⟨_, Scope.relocateTarget_offset_eq_ok.2 ⟨_, addressed, rfl⟩, rfl⟩⟩
    | address _ => exact iff_of_true ⟨_, rfl⟩ trivial
  | callee callee =>
    cases callee with
    | routine _ | qualified _ _ => exact turn.exists_relocateOperand_of_reference rfl
    | address _ => exact iff_of_true ⟨_, rfl⟩ trivial

/-- An instruction is relocated exactly if its operand has what it needs. -/
theorem exists_relocate_iff (turn : Turn units program options) (stream : Section)
    (instruction : Instruction) :
    (∃ moved, turn.scope.relocate stream instruction = .ok moved)
      ↔ ∀ operand, instruction.operand? = some operand →
        Resolves units turn.unit stream operand := by
  cases has : instruction.operand? with
  | none => exact iff_of_true ⟨_, Scope.relocate_of_no_operand has⟩ nofun
  | some operand =>
    rw [Scope.relocate_of_operand has]
    have needs := turn.exists_relocateOperand_iff stream operand
    constructor
    · rintro ⟨moved, relocated⟩ _ ⟨⟩
      obtain ⟨movedOperand, operandMoved, _⟩ := map_eq_ok.1 relocated
      exact needs.1 ⟨movedOperand, operandMoved⟩
    · intro resolves
      obtain ⟨movedOperand, operandMoved⟩ := needs.2 (resolves operand rfl)
      exact ⟨_, map_eq_ok.2 ⟨movedOperand, operandMoved, rfl⟩⟩

/-- At its turn a unit is relocated if and only if all of its operands have what they need. -/
theorem exists_relocateAll_iff (turn : Turn units program options) :
    (∃ code, turn.scope.relocateAll = .ok code)
      ↔ ∀ stream, ∀ instruction ∈ turn.unit.code.stream stream,
        ∀ operand, instruction.operand? = some operand →
          Resolves units turn.unit stream operand := by
  rw [Scope.exists_relocateAll_iff]
  exact forall_congr' fun stream => forall₂_congr fun instruction _ =>
    turn.exists_relocate_iff stream instruction

end Operands

end Turn

end UnitLinker.Link
