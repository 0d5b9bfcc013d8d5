import UnitLinker.Files.Path
import UnitLinker.Word

/-!
# Positions in source files

Lines and columns are stored from zero and shown from one.
-/

namespace UnitLinker

/-- A line and a column, both counted from zero. -/
structure Location where
  line : UInt64
  column : UInt64
  deriving DecidableEq, Repr

namespace Location

/-- The first column of the first line. -/
def zero : Location := ⟨0, 0⟩

/-- The one-based text of a location; the largest word has no successor to show. -/
def text (location : Location) : Except Fault String := do
  let line ← Word.add location.line 1
  let column ← Word.add location.column 1
  return s!"{line}:{column}"

end Location

/-- A stretch of a source file, its last position included. -/
structure Span where
  file : String
  start : Location
  stop : Location
  deriving DecidableEq, Repr

namespace Span

/-- The start of a file. -/
def zero (file : String) : Span := ⟨file, .zero, .zero⟩

/-- File and start of a span, the file as seen from a directory. -/
def text (span : Span) (directory : String) : Except Fault String := do
  let start ← span.start.text
  return s!"{Path.relativeTo directory span.file}:{start}"

/-- File and both ends of a span, lines and columns as they are stored. -/
def rawText (span : Span) (directory : String) : String :=
  let file := Path.relativeTo directory span.file
  s!"Span({file}:{span.start.line}:{span.start.column}..{span.stop.line}:{span.stop.column})"

end Span

end UnitLinker
