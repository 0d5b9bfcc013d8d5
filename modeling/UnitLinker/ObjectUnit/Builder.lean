import UnitLinker.ObjectUnit.Error

/-!
# Building object units

Declarations are only ever added. Slots are given out in order of declaration
and never change, and a refused declaration leaves the unit as it was.

An operation gives its answer and the unit that it leaves behind, also when the
answer is a refusal. `Edit` holds the operations as data, so that statements can
speak of every sequence of operations.
-/

namespace UnitLinker.ObjectUnit

/-- Adds a name to the uses clause, unless it is there. Says whether it was added. -/
def addUse (unit : ObjectUnit) (name : String) (span : Option Span) : Bool × ObjectUnit :=
  if unit.uses.contains name then (false, unit)
  else (true, { unit with uses := unit.uses.insert name span })

/-- Declares a variable and gives its slot. A variable that exists keeps its
slot, and an interface declaration makes it visible to other units. -/
def declareVariable (unit : ObjectUnit) (name : String) (visibility : Visibility) :
    UInt64 × ObjectUnit :=
  match unit.vars.get? name with
  | some existing =>
    if visibility.isExported then
      (existing.slot, { unit with
        vars := unit.vars.adjust name fun entry => ⟨entry.slot, .interface⟩ })
    else (existing.slot, unit)
  | none =>
    let slot := UInt64.ofNat unit.vars.size
    (slot, { unit with vars := unit.vars.insert name ⟨slot, visibility⟩ })

/-- Selects the section for the instructions and labels that follow. -/
def beginSection (unit : ObjectUnit) (stream : Section) : ObjectUnit :=
  { unit with active := stream }

/-- Appends an instruction to a section and gives its offset. -/
def emitTo (unit : ObjectUnit) (stream : Section) (instruction : Instruction) :
    Nat × ObjectUnit :=
  ((unit.code.stream stream).length, { unit with code := unit.code.push stream instruction })

/-- Appends an instruction to the active section and gives its offset. -/
def emit (unit : ObjectUnit) (instruction : Instruction) : Nat × ObjectUnit :=
  unit.emitTo unit.active instruction

/-- Defines a label at the end of the active section and gives its position. -/
def defineLabel (unit : ObjectUnit) (name : String) :
    Except DeclarationError CodeOffset × ObjectUnit :=
  match unit.labels.get? name with
  | some existing => (.error (.duplicateLabel unit.name name existing), unit)
  | none =>
    let position : CodeOffset := ⟨unit.active, UInt64.ofNat unit.currentOffset⟩
    (.ok position, { unit with labels := unit.labels.insert name position })

/-- Declares a routine with the entry that its declaration gives. -/
def declareRoutine (unit : ObjectUnit) (name : String) (routine : Routine) :
    Except DeclarationError Routine × ObjectUnit :=
  if unit.routines.contains name then (.error (.duplicateRoutine unit.name name), unit)
  else (.ok routine, { unit with routines := unit.routines.insert name routine })

/-- Declares a routine whose code starts at the end of the body. -/
def beginRoutine (unit : ObjectUnit) (name : String) (routine : Routine) :
    Except DeclarationError Routine × ObjectUnit :=
  unit.declareRoutine name { routine with entry := UInt64.ofNat unit.code.body.length }

/-- A type declaration of any form. -/
inductive TypeDeclaration where
  | enum (type : EnumType)
  | array (type : ArrayType)
  | record (type : RecordType)
  deriving DecidableEq, Repr

/-- Declares a type. Types of all forms share one set of names. -/
def declareType (unit : ObjectUnit) (name : String) (declaration : TypeDeclaration) :
    Except DeclarationError Unit × ObjectUnit :=
  if unit.types.contains name then (.error (.duplicateType unit.name name), unit)
  else
    let types := unit.types
    (.ok (), { unit with types := match declaration with
      | .enum type => ⟨types.enums.insert name type, types.arrays, types.records⟩
      | .array type => ⟨types.enums, types.arrays.insert name type, types.records⟩
      | .record type => ⟨types.enums, types.arrays, types.records.insert name type⟩ })

/-- A building operation. -/
inductive Edit where
  | use (name : String) (span : Option Span)
  | var (name : String) (visibility : Visibility)
  | select (stream : Section)
  | emit (instruction : Instruction)
  | emitTo (stream : Section) (instruction : Instruction)
  | label (name : String)
  | begin (name : String) (routine : Routine)
  | declare (name : String) (routine : Routine)
  | type (name : String) (declaration : TypeDeclaration)
  deriving DecidableEq, Repr

/-- Whether one operation is accepted or why it is refused, and the unit that it leaves. -/
def apply (unit : ObjectUnit) : Edit → Except DeclarationError Unit × ObjectUnit
  | .use name span => (.ok (), (unit.addUse name span).2)
  | .var name visibility => (.ok (), (unit.declareVariable name visibility).2)
  | .select stream => (.ok (), unit.beginSection stream)
  | .emit instruction => (.ok (), (unit.emit instruction).2)
  | .emitTo stream instruction => (.ok (), (unit.emitTo stream instruction).2)
  | .label name => (unit.defineLabel name).map (Except.map fun _ => ()) id
  | .begin name routine => (unit.beginRoutine name routine).map (Except.map fun _ => ()) id
  | .declare name routine => (unit.declareRoutine name routine).map (Except.map fun _ => ()) id
  | .type name declaration => unit.declareType name declaration

/-- The unit after one operation, accepted or refused. -/
def attempt (unit : ObjectUnit) (edit : Edit) : ObjectUnit := (unit.apply edit).2

/-- The unit after a sequence of operations, refused ones included. -/
def attemptAll (unit : ObjectUnit) (edits : List Edit) : ObjectUnit := edits.foldl attempt unit

/-- A unit that some sequence of operations builds from an empty one. -/
def IsBuilt (unit : ObjectUnit) : Prop :=
  ∃ name kind span edits, unit = (empty name kind span).attemptAll edits

end UnitLinker.ObjectUnit
