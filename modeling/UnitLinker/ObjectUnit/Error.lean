import UnitLinker.Diagnostic.Message
import UnitLinker.ObjectUnit.Basic

/-!
# Refused declarations

A label, a routine or a type can be declared once in a unit.
-/

namespace UnitLinker

/-- Why a declaration is refused. -/
inductive DeclarationError where
  | duplicateLabel (unit label : String) (existing : CodeOffset)
  | duplicateRoutine (unit name : String)
  | duplicateType (unit name : String)
  deriving DecidableEq, Repr

namespace DeclarationError

/-- The text of a refusal. -/
def text : DeclarationError → String
  | .duplicateLabel unit label _ => s!"label `{label}` is already defined in `{unit}`"
  | .duplicateRoutine unit name => s!"function `{name}` is already declared in `{unit}`"
  | .duplicateType unit name => s!"type `{name}` is already declared in `{unit}`"

/-- The message for a refusal. -/
def message (error : DeclarationError) : Diagnostic.Message :=
  let plain := Diagnostic.Message.ofTitle error.text
  match error with
  | .duplicateLabel _ _ existing => plain.withNote s!"previous definition is at {existing.text}"
  | .duplicateRoutine _ _ | .duplicateType _ _ => plain

end DeclarationError

end UnitLinker
