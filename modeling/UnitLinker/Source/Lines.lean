import UnitLinker.Text.Split

/-!
# Lines of a source file

A source is cut after every line feed, and positions in it are counted in bytes. A
position past the end belongs to the last line.
-/

namespace UnitLinker.Source

/-- The bytes that characters take. -/
def byteSize (chars : List Char) : Nat := chars.foldr (fun char size => char.utf8Size + size) 0

/-- A line with its line feed, if it has one. -/
structure Line where
  /-- The position of its first byte. -/
  start : Nat
  chars : List Char
  deriving DecidableEq, Repr

/-- Lines from the parts between line feeds, the first of them at a position. -/
def linesFrom (start : Nat) : List (List Char) → List Line
  | [] => []
  | [last] => [⟨start, last⟩]
  | part :: rest => ⟨start, part ++ ['\n']⟩ :: linesFrom (start + byteSize part + 1) rest

/-- The lines of a source; there is at least one. -/
def lines (source : String) : List Line := linesFrom 0 (Text.splitChars '\n' source.toList)

/-- The number of the line, from zero, that a position is in. -/
def lineIndex (lines : List Line) (position : Nat) : Nat :=
  lines.countP (fun line => line.start ≤ position) - 1

/-- How many of some characters, the first of them at a position, end at or before
another position. -/
def countUpTo (limit position : Nat) : List Char → Nat
  | [] => 0
  | char :: rest =>
    if position + char.utf8Size ≤ limit then countUpTo limit (position + char.utf8Size) rest + 1
    else 0

namespace Line

/-- The column, from zero, of a position in a line: the characters before it. -/
def column (line : Line) (position : Nat) : Nat := countUpTo position line.start line.chars

/-- The characters that are shown of a line: those before the line end and before null
characters at its end. -/
def body (line : Line) : List Char :=
  (line.chars.reverse.dropWhile fun char => char = '\n' || char = '\r' || char = Char.ofNat 0).reverse

end Line

end UnitLinker.Source
