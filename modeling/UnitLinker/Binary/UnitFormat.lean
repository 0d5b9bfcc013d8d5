import UnitLinker.Binary.Stored
import UnitLinker.ObjectUnit.Basic

/-!
# Stored object units

The fields of a unit in order. The section that a builder is working on is not
stored, so a unit that was read continues in its body.
-/

namespace UnitLinker.Binary

instance : Stored Location where
  write location := write location.line ++ write location.column
  read policy := return ⟨← read policy, ← read policy⟩

instance : Stored Span where
  write span := write span.file ++ write span.start ++ write span.stop
  read policy := return ⟨← read policy, ← read policy, ← read policy⟩

instance : Stored Visibility where
  write
    | .interface => writeChoice 0
    | .implementation => writeChoice 1
  read _ := do
    match ← readChoice with
    | 0 => return .interface
    | 1 => return .implementation
    | other => throw (.badChoice other 2)

instance : Stored Binary64 where
  write real := write real.bits
  read policy := return ⟨← read policy⟩

instance : Stored Value where
  write
    | .nil => writeChoice 0
    | .bool value => writeChoice 1 ++ write value
    | .int value => writeChoice 2 ++ write value
    | .real value => writeChoice 3 ++ write value
    | .char value => writeChoice 4 ++ write value
    | .text value => writeChoice 5 ++ write value
  read policy := do
    match ← readChoice with
    | 0 => return .nil
    | 1 => return .bool (← read policy)
    | 2 => return .int (← read policy)
    | 3 => return .real (← read policy)
    | 4 => return .char (← read policy)
    | 5 => return .text (← read policy)
    | other => throw (.badChoice other 6)

instance : Stored VarRef where
  write
    | .slot slot => writeChoice 0 ++ write slot
    | .named name => writeChoice 1 ++ write name
    | .qualified unit name => writeChoice 2 ++ write unit ++ write name
    | .frame depth slot => writeChoice 3 ++ write depth ++ write slot
    | .global slot => writeChoice 4 ++ write slot
  read policy := do
    match ← readChoice with
    | 0 => return .slot (← read policy)
    | 1 => return .named (← read policy)
    | 2 => return .qualified (← read policy) (← read policy)
    | 3 => return .frame (← read policy) (← read policy)
    | 4 => return .global (← read policy)
    | other => throw (.badChoice other 5)

instance : Stored JumpTarget where
  write
    | .label name => writeChoice 0 ++ write name
    | .offset offset => writeChoice 1 ++ write offset
    | .address address => writeChoice 2 ++ write address
  read policy := do
    match ← readChoice with
    | 0 => return .label (← read policy)
    | 1 => return .offset (← read policy)
    | 2 => return .address (← read policy)
    | other => throw (.badChoice other 3)

instance : Stored Callee where
  write
    | .routine name => writeChoice 0 ++ write name
    | .qualified unit name => writeChoice 1 ++ write unit ++ write name
    | .address address => writeChoice 2 ++ write address
  read policy := do
    match ← readChoice with
    | 0 => return .routine (← read policy)
    | 1 => return .qualified (← read policy) (← read policy)
    | 2 => return .address (← read policy)
    | other => throw (.badChoice other 3)

/-- The operations on two operands in the order of their stored indices. -/
def binaryOps : List BinaryOp :=
  [.add, .sub, .mul, .div, .intDiv, .mod, .and, .or, .xor, .shl, .shr,
    .eq, .notEq, .lt, .ltEq, .gt, .gtEq, .member]

instance : Stored BinaryOp where
  write op := writeChoice (binaryOps.idxOf op)
  read _ := do
    let index ← readChoice
    match binaryOps[index]? with
    | some op => return op
    | none => throw (.badChoice index binaryOps.length)

instance : Stored UnaryOp where
  write
    | .neg => writeChoice 0
    | .not => writeChoice 1
  read _ := do
    match ← readChoice with
    | 0 => return .neg
    | 1 => return .not
    | other => throw (.badChoice other 2)

instance : Stored Instruction where
  write
    | .comment text => writeChoice 0 ++ write text
    | .nop => writeChoice 1
    | .push value => writeChoice 2 ++ write value
    | .pop => writeChoice 3
    | .dup => writeChoice 4
    | .swap => writeChoice 5
    | .load var => writeChoice 6 ++ write var
    | .store var => writeChoice 7 ++ write var
    | .addrOf var => writeChoice 8 ++ write var
    | .loadIndirect => writeChoice 9
    | .storeIndirect => writeChoice 10
    | .element arrayType => writeChoice 11 ++ write arrayType
    | .field recordType index => writeChoice 12 ++ write recordType ++ write index
    | .binary op => writeChoice 13 ++ write op
    | .unary op => writeChoice 14 ++ write op
    | .jump target => writeChoice 15 ++ write target
    | .jumpIf target => writeChoice 16 ++ write target
    | .jumpIfNot target => writeChoice 17 ++ write target
    | .call callee argCount => writeChoice 18 ++ write callee ++ write argCount
    | .builtin name argCount => writeChoice 19 ++ write name ++ write argCount
    | .enter depth locals => writeChoice 20 ++ write depth ++ write locals
    | .leave => writeChoice 21
    | .ret => writeChoice 22
    | .halt => writeChoice 23
  read policy := do
    match ← readChoice with
    | 0 => return .comment (← read policy)
    | 1 => return .nop
    | 2 => return .push (← read policy)
    | 3 => return .pop
    | 4 => return .dup
    | 5 => return .swap
    | 6 => return .load (← read policy)
    | 7 => return .store (← read policy)
    | 8 => return .addrOf (← read policy)
    | 9 => return .loadIndirect
    | 10 => return .storeIndirect
    | 11 => return .element (← read policy)
    | 12 => return .field (← read policy) (← read policy)
    | 13 => return .binary (← read policy)
    | 14 => return .unary (← read policy)
    | 15 => return .jump (← read policy)
    | 16 => return .jumpIf (← read policy)
    | 17 => return .jumpIfNot (← read policy)
    | 18 => return .call (← read policy) (← read policy)
    | 19 => return .builtin (← read policy) (← read policy)
    | 20 => return .enter (← read policy) (← read policy)
    | 21 => return .leave
    | 22 => return .ret
    | 23 => return .halt
    | other => throw (.badChoice other 24)

instance : Stored EnumType where
  write enum := write enum.values
  read policy := return ⟨← read policy⟩

instance : Stored IndexRange where
  write range := write range.low ++ write range.high
  read policy := return ⟨← read policy, ← read policy⟩

instance : Stored ArrayType where
  write array := write array.dimensions ++ write array.elementType
  read policy := return ⟨← read policy, ← read policy⟩

instance : Stored RecordField where
  write field := write field.name ++ write field.type
  read policy := return ⟨← read policy, ← read policy⟩

instance : Stored RecordType where
  write record := write record.fields
  read policy := return ⟨← read policy⟩

instance : Stored TypeTables where
  write types := write types.enums ++ write types.arrays ++ write types.records
  read policy := return ⟨← read policy, ← read policy, ← read policy⟩

instance : Stored Param where
  write param := write param.name ++ write param.type ++ write param.byReference
  read policy := return ⟨← read policy, ← read policy, ← read policy⟩

instance : Stored Signature where
  write signature := write signature.params ++ write signature.result
  read policy := return ⟨← read policy, ← read policy⟩

instance : Stored Routine where
  write routine := write routine.signature ++ write routine.visibility ++ write routine.entry
    ++ write routine.depth ++ write routine.locals ++ write routine.span
  read policy := return ⟨← read policy, ← read policy, ← read policy, ← read policy, ← read policy,
    ← read policy⟩

instance : Stored UnitKind where
  write
    | .unit => writeChoice 0
    | .program => writeChoice 1
  read _ := do
    match ← readChoice with
    | 0 => return .unit
    | 1 => return .program
    | other => throw (.badChoice other 2)

instance : Stored Section where
  write
    | .body => writeChoice 0
    | .init => writeChoice 1
    | .final => writeChoice 2
  read _ := do
    match ← readChoice with
    | 0 => return .body
    | 1 => return .init
    | 2 => return .final
    | other => throw (.badChoice other 3)

instance : Stored CodeOffset where
  write position := write position.stream ++ write position.offset
  read policy := return ⟨← read policy, ← read policy⟩

instance : Stored Variable where
  write entry := write entry.slot ++ write entry.visibility
  read policy := return ⟨← read policy, ← read policy⟩

instance : Stored Code where
  write code := write code.body ++ write code.init ++ write code.final
  read policy := return ⟨← read policy, ← read policy, ← read policy⟩

instance : Stored ObjectUnit where
  write unit := write unit.name ++ write unit.kind ++ write unit.span ++ write unit.uses
    ++ write unit.vars ++ write unit.labels ++ write unit.routines ++ write unit.types
    ++ write unit.code
  read policy := return ⟨← read policy, ← read policy, ← read policy, ← read policy, ← read policy,
    ← read policy, ← read policy, ← read policy, ← read policy, .body⟩

end UnitLinker.Binary

namespace UnitLinker.ObjectUnit

/-- The stored form of a unit. -/
def encode (unit : ObjectUnit) : Binary.Bytes := Binary.write unit

/-- The unit that bytes start with. -/
def decode (bytes : Binary.Bytes) : Except Binary.ReadError ObjectUnit :=
  Binary.decode .lastWins bytes

end UnitLinker.ObjectUnit
