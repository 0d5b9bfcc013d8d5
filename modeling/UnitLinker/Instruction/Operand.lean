import UnitLinker.Binary64

/-!
# Operands

Constants, variable references, jump targets and callees. A reference is
linked once it no longer depends on the unit it stands in.
-/

namespace UnitLinker

/-- A constant that an instruction pushes. -/
inductive Value where
  | nil
  | bool (value : Bool)
  | int (value : Int64)
  | real (value : Binary64)
  | char (value : Char)
  | text (value : String)
  deriving DecidableEq, Repr

namespace Value

/-- A character sequence with every quote written twice. -/
def doubleQuotes : List Char → List Char
  | [] => []
  | first :: rest =>
    if first = '\x27' then '\x27' :: '\x27' :: doubleQuotes rest else first :: doubleQuotes rest

/-- The text of a constant. -/
def render : Value → String
  | .nil => "nil"
  | .bool value => if value then "true" else "false"
  | .int value => toString value.toInt
  | .real value => value.text
  | .char value => s!"#{value.toNat}"
  | .text value => "'" ++ String.ofList (doubleQuotes value.toList) ++ "'"

/-- Equality of constants, reals by floating-point comparison. -/
def agrees : Value → Value → Bool
  | .real left, .real right => left.agrees right
  | left, right => left = right

end Value

/-- A reference to a variable. -/
inductive VarRef where
  /-- A variable of the unit itself by its slot there. -/
  | slot (slot : UInt64)
  /-- A variable by name, of the unit itself or exported by a unit it uses. -/
  | named (name : String)
  /-- A variable of a given unit. -/
  | qualified (unit name : String)
  /-- A local of the routine some lexical levels up. -/
  | frame (depth slot : UInt64)
  /-- A slot of the program's global table. -/
  | global (slot : UInt64)
  deriving DecidableEq, Repr

namespace VarRef

/-- Whether a reference needs no further resolution. -/
def isLinked : VarRef → Bool
  | .frame _ _ | .global _ => true
  | .slot _ | .named _ | .qualified _ _ => false

/-- The text of a variable reference. -/
def render : VarRef → String
  | .slot index => s!"%{index}"
  | .named name => name
  | .qualified unit name => s!"{unit}.{name}"
  | .frame depth index => if depth = 0 then s!"L{index}" else s!"L{index}^{depth}"
  | .global index => s!"G{index}"

end VarRef

/-- The destination of a jump. -/
inductive JumpTarget where
  /-- A label of the same unit. -/
  | label (name : String)
  /-- An offset into the stream that holds the jump. -/
  | offset (offset : UInt64)
  /-- An address of the linked program. -/
  | address (address : UInt64)
  deriving DecidableEq, Repr

namespace JumpTarget

/-- Whether a target needs no further resolution. -/
def isLinked : JumpTarget → Bool
  | .address _ => true
  | .label _ | .offset _ => false

/-- The text of a jump target. -/
def render : JumpTarget → String
  | .label name => name
  | .offset distance => s!"+{distance}"
  | .address place => s!"@{place}"

end JumpTarget

/-- The routine that a call enters. -/
inductive Callee where
  /-- A routine by name, of the unit itself or exported by a unit it uses. -/
  | routine (name : String)
  /-- A routine of a given unit. -/
  | qualified (unit name : String)
  /-- An entry address of the linked program. -/
  | address (address : UInt64)
  deriving DecidableEq, Repr

namespace Callee

/-- Whether a callee needs no further resolution. -/
def isLinked : Callee → Bool
  | .address _ => true
  | .routine _ | .qualified _ _ => false

/-- The text of a callee. -/
def render : Callee → String
  | .routine name => name
  | .qualified unit name => s!"{unit}.{name}"
  | .address place => s!"@{place}"

end Callee

end UnitLinker
