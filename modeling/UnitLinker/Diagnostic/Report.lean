import UnitLinker.Diagnostic.Message
import UnitLinker.Diagnostic.Snippet
import UnitLinker.Files.Tree

/-!
# Reports

A message as it is shown to a user. A label is shown in the source that it marks:
its lines and columns become a range of bytes, columns counted in bytes too. A
column past the end of its line leads into the lines below.
-/

namespace UnitLinker.Diagnostic

/-- Why a message cannot be shown with its label. -/
inductive ReportError where
  | file (error : Files.FileError)
  | invalidLine (given maximum : Nat)
  deriving DecidableEq, Repr

/-- The text of a report error. -/
def ReportError.text : ReportError → String
  | .file error => error.text
  | .invalidLine given maximum => s!"invalid line {given}, maximum line is {maximum}"

/-- Why there is no report. -/
inductive Unreported where
  /-- A position in a source is no word. -/
  | fault (fault : Fault)
  | error (error : ReportError)
  deriving DecidableEq, Repr

/-- The position of the first byte of a line. The line after the last one has a start
but no end, so it is refused too. -/
def lineStart (lines : List Source.Line) (index : Nat) : Except Unreported Nat :=
  match lines[index]? with
  | some line => .ok line.start
  | none =>
    let given := if index = lines.length then index + 1 else index
    .error (.error (.invalidLine given (lines.length - 1)))

/-- A sum of positions, which has to be a word. -/
def advance (position distance : Nat) : Except Unreported Nat :=
  if position + distance < Word.count then .ok (position + distance) else .error (.fault .overflow)

/-- The marked range of a label in its source. The range ends after the last position
of the label, and a range within one line has a word after its start. -/
def Label.snippet (label : Label) (source : String) : Except Unreported Snippet := do
  let lines := Source.lines source
  let first ← lineStart lines label.span.start.line.toNat
  let start ← advance first label.span.start.column.toNat
  let last ← lineStart lines label.span.stop.line.toNat
  let final ← advance last label.span.stop.column.toNat
  let stop ← advance final 1
  let snippet : Snippet := ⟨lines, start, stop, label.text.getD ""⟩
  if snippet.first = snippet.last then
    let _ ← advance (start - (snippet.lineAt snippet.first).start) 1
  return snippet

/-- The lines of a note: a bullet in front of the first one. -/
def noteLines (gutter : String) (note : String) : List String :=
  match Text.linesOf note with
  | [] => []
  | first :: rest => s!"{gutter} = {first}" :: rest.map fun line => s!"{gutter}   {line}"

/-- An error message as text. Its label is read from a file tree. -/
def Message.render (message : Message) (tree : Files.Tree) : Except Unreported String := do
  let title := "error: " ++ message.title
  match message.label with
  | none => return Text.lines (title :: message.notes.flatMap (noteLines "") ++ [""])
  | some label =>
    let source ← (tree.readText label.span.file).mapError fun error => .error (.file error)
    let snippet ← label.snippet source
    let below := if message.notes.isEmpty then [] else
      snippet.border :: message.notes.flatMap (noteLines snippet.gutter)
    return Text.lines (title
      :: snippet.render (Path.relativeTo tree.workingPath label.span.file) ++ below ++ [""])

end UnitLinker.Diagnostic
