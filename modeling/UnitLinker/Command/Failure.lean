import UnitLinker.Binary.Stored
import UnitLinker.Files.Tree
import UnitLinker.Link.Layout

/-!
# Failures of the command

Errors of linking, and errors of finding, reading and writing files.
-/

namespace UnitLinker.Command

/-- Why the command fails. -/
inductive Failure where
  | link (error : LinkError)
  | fileNotFound (path : String)
  | readFailed (path reason : String)
  /-- A file found by the name of a unit holds another unit. -/
  | unexpectedUnit (path expected found : String)
  | duplicateUnit (name newPath existingPath : String)
  | outputFailed (path reason : String)
  | encodeFailed (reason : String)
  deriving DecidableEq, Repr

namespace Failure

/-- A failure in one line. -/
def text : Failure → String
  | .link error => error.text
  | .fileNotFound path => s!"file not found: {path}"
  | .readFailed _ reason => reason
  | .unexpectedUnit path expected _ => s!"{path} does not contain unit `{expected}`"
  | .duplicateUnit _ _ _ => "unit was already loaded"
  | .outputFailed path reason => s!"writing to file {path} failed: {reason}"
  | .encodeFailed reason => reason

/-- The message for a failure. -/
def message : Failure → Diagnostic.Message
  | .link error => error.message
  | .fileNotFound path => .ofTitle s!"file not found: {path}"
  | .readFailed path reason =>
    (Diagnostic.Message.ofTitle s!"failed to read compiled unit {path}").withNote reason
  | .unexpectedUnit path expected found =>
    (Diagnostic.Message.ofTitle s!"expected {path} to contain unit `{expected}`").withNote
      s!"it contains `{found}`"
  | .duplicateUnit name newPath existingPath =>
    (Diagnostic.Message.ofTitle s!"`{name}` @ {newPath} was already loaded").withNote
      s!"previously loaded from {existingPath}"
  | .outputFailed path reason => .ofTitle s!"Writing output file `{path}` failed: {reason}"
  | .encodeFailed reason => .ofTitle s!"failed to encode linked program: {reason}"

end Failure

end UnitLinker.Command
