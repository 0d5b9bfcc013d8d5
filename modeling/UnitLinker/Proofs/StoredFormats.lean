import Mathlib
import UnitLinker.Binary.ImageFormat
import UnitLinker.Proofs.Storage

/-!
# Reading units and images back

Each part of a stored unit or image is restored from its parts in turn.
-/

namespace UnitLinker.Binary

instance : LawfulStored Location where
  restores policy location :=
    ((Continues.start Location policy).read location.line).read location.column

instance : LawfulStored Span where
  restores policy span :=
    (((Continues.start Span policy).read span.file).read span.start).read span.stop

instance : LawfulStored Visibility where
  restores policy visibility := by
    cases visibility with
    | interface => exact (Continues.start Visibility policy).choice 0
    | implementation => exact (Continues.start Visibility policy).choice 1

instance : LawfulStored Binary64 where
  restores policy real := (Continues.start Binary64 policy).read real.bits

instance : LawfulStored Value where
  restores policy value := by
    have start := Continues.start Value policy
    cases value with
    | nil => exact start.choice 0
    | bool value => exact (start.choice 1).read value
    | int value => exact (start.choice 2).read value
    | real value => exact (start.choice 3).read value
    | char value => exact (start.choice 4).read value
    | text value => exact (start.choice 5).read value

instance : LawfulStored VarRef where
  restores policy var := by
    have start := Continues.start VarRef policy
    cases var with
    | slot slot => exact (start.choice 0).read slot
    | named name => exact (start.choice 1).read name
    | qualified unit name => exact ((start.choice 2).read unit).read name
    | frame depth slot => exact ((start.choice 3).read depth).read slot
    | global slot => exact (start.choice 4).read slot

instance : LawfulStored JumpTarget where
  restores policy target := by
    have start := Continues.start JumpTarget policy
    cases target with
    | label name => exact (start.choice 0).read name
    | offset offset => exact (start.choice 1).read offset
    | address address => exact (start.choice 2).read address

instance : LawfulStored Callee where
  restores policy callee := by
    have start := Continues.start Callee policy
    cases callee with
    | routine name => exact (start.choice 0).read name
    | qualified unit name => exact ((start.choice 1).read unit).read name
    | address address => exact (start.choice 2).read address

instance : LawfulStored BinaryOp where
  restores policy op := by
    have start := Continues.start BinaryOp policy
    cases op <;> exact start.choice _

instance : LawfulStored UnaryOp where
  restores policy op := by
    cases op with
    | neg => exact (Continues.start UnaryOp policy).choice 0
    | not => exact (Continues.start UnaryOp policy).choice 1

instance : LawfulStored Instruction where
  restores policy instruction := by
    have start := Continues.start Instruction policy
    cases instruction with
    | comment text => exact (start.choice 0).read text
    | nop => exact start.choice 1
    | push value => exact (start.choice 2).read value
    | pop => exact start.choice 3
    | dup => exact start.choice 4
    | swap => exact start.choice 5
    | load var => exact (start.choice 6).read var
    | store var => exact (start.choice 7).read var
    | addrOf var => exact (start.choice 8).read var
    | loadIndirect => exact start.choice 9
    | storeIndirect => exact start.choice 10
    | element arrayType => exact (start.choice 11).read arrayType
    | field recordType index => exact ((start.choice 12).read recordType).read index
    | binary op => exact (start.choice 13).read op
    | unary op => exact (start.choice 14).read op
    | jump target => exact (start.choice 15).read target
    | jumpIf target => exact (start.choice 16).read target
    | jumpIfNot target => exact (start.choice 17).read target
    | call callee argCount => exact ((start.choice 18).read callee).read argCount
    | builtin name argCount => exact ((start.choice 19).read name).read argCount
    | enter depth locals => exact ((start.choice 20).read depth).read locals
    | leave => exact start.choice 21
    | ret => exact start.choice 22
    | halt => exact start.choice 23

instance : OccupiesBytes Instruction where
  write_ne_nil instruction := by
    cases instruction <;> simp [write, writeChoice, littleEndian_ne_nil]

/-! ## Types and routines -/

instance : LawfulStored EnumType where
  restores policy enum := (Continues.start EnumType policy).read enum.values

instance : LawfulStored IndexRange where
  restores policy range := ((Continues.start IndexRange policy).read range.low).read range.high

instance : OccupiesBytes IndexRange where
  write_ne_nil range := by simp [write, littleEndian_ne_nil]

instance : LawfulStored ArrayType where
  restores policy array :=
    ((Continues.start ArrayType policy).read array.dimensions).read array.elementType

instance : LawfulStored RecordField where
  restores policy field := ((Continues.start RecordField policy).read field.name).read field.type

instance : OccupiesBytes RecordField where
  write_ne_nil field := by simp [write, writeLength, littleEndian_ne_nil]

instance : LawfulStored RecordType where
  restores policy record := (Continues.start RecordType policy).read record.fields

instance : LawfulStored TypeTables where
  restores policy types :=
    (((Continues.start TypeTables policy).read types.enums).read types.arrays).read types.records

instance : LawfulStored Param where
  restores policy param :=
    (((Continues.start Param policy).read param.name).read param.type).read param.byReference

instance : OccupiesBytes Param where
  write_ne_nil param := by simp [write, writeLength, littleEndian_ne_nil]

instance : LawfulStored Signature where
  restores policy signature :=
    ((Continues.start Signature policy).read signature.params).read signature.result

instance : LawfulStored Routine where
  restores policy routine :=
    ((((((Continues.start Routine policy).read routine.signature).read routine.visibility).read
      routine.entry).read routine.depth).read routine.locals).read routine.span

/-! ## Units -/

instance : LawfulStored UnitKind where
  restores policy kind := by
    cases kind with
    | unit => exact (Continues.start UnitKind policy).choice 0
    | program => exact (Continues.start UnitKind policy).choice 1

instance : LawfulStored Section where
  restores policy stream := by
    cases stream with
    | body => exact (Continues.start Section policy).choice 0
    | init => exact (Continues.start Section policy).choice 1
    | final => exact (Continues.start Section policy).choice 2

instance : LawfulStored CodeOffset where
  restores policy position :=
    ((Continues.start CodeOffset policy).read position.stream).read position.offset

instance : LawfulStored Variable where
  restores policy entry := ((Continues.start Variable policy).read entry.slot).read entry.visibility

instance : LawfulStored Code where
  restores policy code :=
    (((Continues.start Code policy).read code.body).read code.init).read code.final

/-- A unit is restored but for the section that its builder was working on. -/
theorem restores_unit (policy : NamePolicy) (unit : ObjectUnit) :
    Restores (read policy) (write unit) { unit with active := .body } :=
  (((((((((Continues.start ObjectUnit policy).read unit.name).read unit.kind).read unit.span).read
    unit.uses).read unit.vars).read unit.labels).read unit.routines).read unit.types).read unit.code

/-! ## Images -/

instance : LawfulStored Block where
  restores policy block := ((Continues.start Block policy).read block.start).read block.stop

instance : LawfulStored GlobalVar where
  restores policy var := ((Continues.start GlobalVar policy).read var.unit).read var.name

instance : OccupiesBytes GlobalVar where
  write_ne_nil var := by simp [write, writeLength, littleEndian_ne_nil]

instance : LawfulStored EntryPoint where
  restores policy entry := ((Continues.start EntryPoint policy).read entry.unit).read entry.address

instance : OccupiesBytes EntryPoint where
  write_ne_nil entry := by simp [write, writeLength, littleEndian_ne_nil]

instance : LawfulStored RoutineSymbol where
  restores policy symbol :=
    (((((Continues.start RoutineSymbol policy).read symbol.address).read symbol.visibility).read
      symbol.signature).read symbol.depth).read symbol.locals

instance : LawfulStored VariableSymbol where
  restores policy symbol :=
    ((Continues.start VariableSymbol policy).read symbol.global).read symbol.visibility

instance : LawfulStored UnitMap where
  restores policy map :=
    (((((((((Continues.start UnitMap policy).read map.kind).read map.globals).read map.body).read
      map.init).read map.final).read map.stop).read map.routines).read map.vars).read map.types

instance : LawfulStored Image where
  restores policy image :=
    ((((((Continues.start Image policy).read image.instructions).read image.globals).read
      image.initOrder).read image.finalOrder).read image.main).read image.units

end UnitLinker.Binary
