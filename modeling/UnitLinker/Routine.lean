import UnitLinker.Source.Span
import UnitLinker.Text.Align

/-!
# Routines

Functions and procedures as a unit declares them: a signature, who may call
them, and where their code starts.
-/

namespace UnitLinker

/-- Who may refer to a declaration. -/
inductive Visibility where
  /-- The unit and every unit that uses it. -/
  | interface
  /-- The unit alone. -/
  | implementation
  deriving DecidableEq, Repr

namespace Visibility

/-- Whether other units may refer to a declaration. -/
def isExported : Visibility → Bool
  | .interface => true
  | .implementation => false

/-- The name of a visibility. -/
def text : Visibility → String
  | .interface => "interface"
  | .implementation => "implementation"

end Visibility

/-- A parameter; one passed by reference is a `var` parameter. -/
structure Param where
  name : String
  type : String
  byReference : Bool
  deriving DecidableEq, Repr

namespace Param

/-- The declaration text of a parameter. -/
def text (param : Param) : String :=
  (if param.byReference then "var " else "") ++ s!"{param.name}: {param.type}"

end Param

/-- Parameters and result of a routine; a procedure has no result. -/
structure Signature where
  params : List Param
  result : Option String
  deriving DecidableEq, Repr

namespace Signature

/-- The declaration text of a signature. -/
def text (signature : Signature) : String :=
  (if signature.result.isSome then "function" else "procedure")
    ++ (if signature.params.isEmpty then ""
        else "(" ++ Text.joined "; " (signature.params.map Param.text) ++ ")")
    ++ (match signature.result with
        | some type => ": " ++ type
        | none => "")

end Signature

/-- A routine declared by a unit. -/
structure Routine where
  signature : Signature
  visibility : Visibility
  /-- Offset of its first instruction in the body of the unit. -/
  entry : UInt64
  /-- Nesting level: one for routines of the unit itself. -/
  depth : UInt64
  /-- Frame slots of an activation, parameters included. -/
  locals : UInt64
  span : Option Span
  deriving DecidableEq, Repr

namespace Routine

/-- A routine at the top level whose only locals are its parameters. -/
def ofSignature (signature : Signature) (visibility : Visibility) : Routine :=
  ⟨signature, visibility, 0, 1, UInt64.ofNat signature.params.length, none⟩

/-- Whether other units may call a routine. -/
def isExported (routine : Routine) : Bool := routine.visibility.isExported

end Routine

end UnitLinker
