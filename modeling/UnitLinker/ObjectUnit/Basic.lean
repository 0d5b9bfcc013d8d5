import UnitLinker.Instruction.Basic
import UnitLinker.Routine
import UnitLinker.Types

/-!
# Object units

A separately compiled unit or program: the units it uses, its declarations and
its three instruction streams. All offsets in it are local to the unit.
-/

namespace UnitLinker

/-- Whether a compilation produced a unit or a whole program. -/
inductive UnitKind where
  | unit
  | program
  deriving DecidableEq, Repr

/-- The name of a kind. -/
def UnitKind.text : UnitKind → String
  | .unit => "unit"
  | .program => "program"

/-- One of the instruction streams of a unit. -/
inductive Section where
  /-- The code of its routines. -/
  | body
  /-- The initialization block; the main block of a program. -/
  | init
  /-- The finalization block. -/
  | final
  deriving DecidableEq, Repr

namespace Section

/-- The sections in the order in which they are placed. -/
def all : List Section := [.body, .init, .final]

/-- The name of a section. -/
def text : Section → String
  | .body => "body"
  | .init => "initialization"
  | .final => "finalization"

end Section

/-- A position in one of the streams of a unit. -/
structure CodeOffset where
  stream : Section
  offset : UInt64
  deriving DecidableEq, Repr

/-- The text of a position. -/
def CodeOffset.text (position : CodeOffset) : String :=
  s!"{position.stream.text}+{position.offset}"

/-- A variable of a unit. -/
structure Variable where
  slot : UInt64
  visibility : Visibility
  deriving DecidableEq, Repr

/-- The three instruction streams of a unit. -/
structure Code where
  body : List Instruction
  init : List Instruction
  final : List Instruction
  deriving DecidableEq, Repr

namespace Code

/-- No instructions. -/
def empty : Code := ⟨[], [], []⟩

/-- The instructions of a section. -/
def stream (code : Code) : Section → List Instruction
  | .body => code.body
  | .init => code.init
  | .final => code.final

/-- The code with one more instruction at the end of a section. -/
def push (code : Code) (stream : Section) (instruction : Instruction) : Code :=
  match stream with
  | .body => ⟨code.body ++ [instruction], code.init, code.final⟩
  | .init => ⟨code.body, code.init ++ [instruction], code.final⟩
  | .final => ⟨code.body, code.init, code.final ++ [instruction]⟩

/-- Agreement of all streams, real constants by floating-point comparison. -/
def agrees (left right : Code) : Bool :=
  Section.all.all fun stream => Instruction.listAgrees (left.stream stream) (right.stream stream)

end Code

/-- A separately compiled unit or program. -/
structure ObjectUnit where
  name : String
  kind : UnitKind
  span : Option Span
  /-- The uses clause: unit names, each with its position in the source. -/
  uses : Table (Option Span)
  vars : Table Variable
  labels : Table CodeOffset
  routines : Table Routine
  types : TypeTables
  code : Code
  /-- The section that a builder is working on. It is not stored in files. -/
  active : Section
  deriving DecidableEq, Repr

namespace ObjectUnit

/-- A unit or program without declarations and code. -/
def empty (name : String) (kind : UnitKind) (span : Option Span) : ObjectUnit :=
  ⟨name, kind, span, .empty, .empty, .empty, .empty, .empty, .empty, .body⟩

/-- The names of the uses clause in order. -/
def usedNames (unit : ObjectUnit) : List String := unit.uses.names

/-- The source position of a name in the uses clause. -/
def useSpan (unit : ObjectUnit) (name : String) : Option Span := (unit.uses.get? name).join

/-- The slot of a variable. -/
def variableSlot? (unit : ObjectUnit) (name : String) : Option UInt64 :=
  (unit.vars.get? name).map Variable.slot

/-- The offset at the end of the active section. -/
def currentOffset (unit : ObjectUnit) : Nat := (unit.code.stream unit.active).length

/-- A routine that other units may call. -/
def exportedRoutine? (unit : ObjectUnit) (name : String) : Option Routine :=
  (unit.routines.get? name).filter Routine.isExported

/-- Equality of units, real constants by floating-point comparison. -/
def agrees (left right : ObjectUnit) : Bool :=
  let blank (unit : ObjectUnit) : ObjectUnit := ⟨unit.name, unit.kind, unit.span, unit.uses,
    unit.vars, unit.labels, unit.routines, unit.types, .empty, unit.active⟩
  blank left = blank right && left.code.agrees right.code

end ObjectUnit

end UnitLinker
