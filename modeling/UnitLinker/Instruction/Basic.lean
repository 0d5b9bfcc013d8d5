import UnitLinker.Instruction.Operand

/-!
# Instructions

The instructions of the stack machine that linked programs run on. Most of
them are the same before and after linking; loads, stores, jumps and calls
carry references.
-/

namespace UnitLinker

/-- An operation on two operands. -/
inductive BinaryOp where
  | add | sub | mul
  /-- Real division. -/
  | div
  /-- Integer division. -/
  | intDiv
  | mod | and | or | xor | shl | shr
  | eq | notEq | lt | ltEq | gt | gtEq
  /-- Set membership. -/
  | member
  deriving DecidableEq, Repr

namespace BinaryOp

/-- The mnemonic of an operation. -/
def mnemonic : BinaryOp → String
  | .add => "add"
  | .sub => "sub"
  | .mul => "mul"
  | .div => "div"
  | .intDiv => "idiv"
  | .mod => "mod"
  | .and => "and"
  | .or => "or"
  | .xor => "xor"
  | .shl => "shl"
  | .shr => "shr"
  | .eq => "eq"
  | .notEq => "ne"
  | .lt => "lt"
  | .ltEq => "le"
  | .gt => "gt"
  | .gtEq => "ge"
  | .member => "in"

end BinaryOp

/-- An operation on one operand. -/
inductive UnaryOp where
  | neg | not
  deriving DecidableEq, Repr

namespace UnaryOp

/-- The mnemonic of an operation. -/
def mnemonic : UnaryOp → String
  | .neg => "neg"
  | .not => "not"

end UnaryOp

/-- One instruction. -/
inductive Instruction where
  | comment (text : String)
  | nop
  | push (value : Value)
  | pop
  | dup
  | swap
  | load (var : VarRef)
  | store (var : VarRef)
  /-- Pushes the address of a variable. -/
  | addrOf (var : VarRef)
  | loadIndirect
  | storeIndirect
  /-- Replaces an array address and an index by the address of the element. -/
  | element (arrayType : String)
  /-- Replaces a record address by the address of one of its fields. -/
  | field (recordType : String) (index : UInt64)
  | binary (op : BinaryOp)
  | unary (op : UnaryOp)
  | jump (target : JumpTarget)
  | jumpIf (target : JumpTarget)
  | jumpIfNot (target : JumpTarget)
  | call (callee : Callee) (argCount : UInt64)
  /-- Calls a routine of the runtime. -/
  | builtin (name : String) (argCount : UInt64)
  /-- Opens the frame of a routine. -/
  | enter (depth locals : UInt64)
  /-- Closes the frame of a routine. -/
  | leave
  | ret
  | halt
  deriving DecidableEq, Repr

namespace Instruction

/-- Whether no operand needs further resolution. -/
def isLinked : Instruction → Bool
  | .load var | .store var | .addrOf var => var.isLinked
  | .jump target | .jumpIf target | .jumpIfNot target => target.isLinked
  | .call callee _ => callee.isLinked
  | _ => true

/-- Equality of instructions, real constants by floating-point comparison. -/
def agrees : Instruction → Instruction → Bool
  | .push left, .push right => left.agrees right
  | left, right => left = right

/-- Agreement of instruction lists, element by element. -/
def listAgrees : List Instruction → List Instruction → Bool
  | [], [] => true
  | left :: lefts, right :: rights => left.agrees right && listAgrees lefts rights
  | _, _ => false

end Instruction

end UnitLinker
