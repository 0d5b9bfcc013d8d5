import UnitLinker.Link.Scope

/-!
# Relocation

Every reference of a unit becomes a global slot or an address. Instructions
without references, frame references and references that are linked already
stay as they are.
-/

namespace UnitLinker.Link.Scope

/-- The global slot that a variable reference means; none if it is linked already. -/
def globalOf? (scope : Scope) : VarRef → Except LinkError (Option UInt64)
  | .slot slot =>
    if scope.unit.vars.size ≤ slot.toNat then
      .error (.slotOutOfRange scope.unit.name slot scope.unit.vars.size)
    else .ok (some (scope.map.globals.start + slot))
  | .named name => return some (← scope.bind .vars name)
  | .qualified unit name => return some (← scope.bindQualified .vars unit name)
  | .frame _ _ | .global _ => .ok none

/-- A variable reference after relocation. -/
def relocateVar (scope : Scope) (var : VarRef) : Except LinkError VarRef := do
  match ← scope.globalOf? var with
  | some slot => return .global slot
  | none => return var

/-- Whether an offset into a section is past its end. The initialization and
finalization blocks get a return appended, which their end offset means; nothing
is appended to the body. -/
def isPastEnd (scope : Scope) (stream : Section) (offset : UInt64) : Bool :=
  let length := (scope.unit.code.stream stream).length
  match stream with
  | .body => length ≤ offset.toNat
  | .init | .final => length < offset.toNat

/-- The address of a position in the unit. -/
def addressOf (scope : Scope) (position : CodeOffset) : Except LinkError UInt64 :=
  if scope.isPastEnd position.stream position.offset then
    .error (.invalidOffset scope.unit.name position.stream position.offset
      (scope.unit.code.stream position.stream).length)
  else .ok (scope.map.base position.stream + position.offset)

/-- A jump target after relocation, for a jump in a given section. -/
def relocateTarget (scope : Scope) (stream : Section) : JumpTarget → Except LinkError JumpTarget
  | .label name =>
    match scope.unit.labels.get? name with
    | none => .error (.undefinedLabel scope.unit.name name)
    | some position => return .address (← scope.addressOf position)
  | .offset offset => return .address (← scope.addressOf ⟨stream, offset⟩)
  | .address address => .ok (.address address)

/-- The address that a callee means; none if it is linked already. -/
def entryOf? (scope : Scope) : Callee → Except LinkError (Option UInt64)
  | .routine name => return some (← scope.bind .routines name)
  | .qualified unit name => return some (← scope.bindQualified .routines unit name)
  | .address _ => .ok none

/-- A callee after relocation. -/
def relocateCallee (scope : Scope) (callee : Callee) : Except LinkError Callee := do
  match ← scope.entryOf? callee with
  | some address => return .address address
  | none => return callee

/-- An instruction of a given section after relocation. -/
def relocate (scope : Scope) (stream : Section) : Instruction → Except LinkError Instruction
  | .load var => return .load (← scope.relocateVar var)
  | .store var => return .store (← scope.relocateVar var)
  | .addrOf var => return .addrOf (← scope.relocateVar var)
  | .jump target => return .jump (← scope.relocateTarget stream target)
  | .jumpIf target => return .jumpIf (← scope.relocateTarget stream target)
  | .jumpIfNot target => return .jumpIfNot (← scope.relocateTarget stream target)
  | .call callee argCount => return .call (← scope.relocateCallee callee) argCount
  | other => .ok other

/-- What is appended to a section when it is placed. -/
def trailer : Section → List Instruction
  | .body => []
  | .init | .final => [.ret]

/-- A section after relocation. -/
def relocateSection (scope : Scope) (stream : Section) : Except LinkError (List Instruction) := do
  let code ← (scope.unit.code.stream stream).mapM (scope.relocate stream)
  return code ++ trailer stream

/-- All code of the unit after relocation, section by section. -/
def relocateAll (scope : Scope) : Except LinkError (List Instruction) := do
  let parts ← Section.all.mapM scope.relocateSection
  return parts.flatten

end UnitLinker.Link.Scope
