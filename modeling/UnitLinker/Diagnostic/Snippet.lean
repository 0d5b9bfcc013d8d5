import UnitLinker.Source.Lines
import UnitLinker.Text.Align
import UnitLinker.Text.Blank
import UnitLinker.Text.Width

/-!
# Source snippets

Lines of source with a marked range of bytes. A range within one line is marked by
carets below the line. For a range over several lines a bar at the left joins the
first line to the last one, and lines far from both are left out.
-/

namespace UnitLinker.Diagnostic

open Source (Line)

/-- Columns from one tab stop to the next. -/
def tabWidth : Nat := 4

/-- A character of a shown line. -/
structure Cell where
  char : Char
  /-- The bytes before the character. -/
  offset : Nat
  /-- The columns that the character takes. -/
  width : Nat
  deriving DecidableEq, Repr

namespace Cell

/-- The characters of a line from an offset and a column on. -/
def ofChars (offset column : Nat) : List Char → List Cell
  | [] => []
  | char :: rest =>
    let width := if char = '\t' then tabWidth - column % tabWidth else Text.columns char
    ⟨char, offset, width⟩ :: ofChars (offset + char.utf8Size) (column + width) rest

/-- A character repeated over the columns of a cell. -/
def fill (cell : Cell) (char : Char) : List Char := List.replicate cell.width char

/-- A cell as it is shown: tabs are blanks. -/
def shown (cell : Cell) : List Char := if cell.char = '\t' then cell.fill ' ' else [cell.char]

/-- What stands below a cell if the bytes from `start` to before `stop` are marked. -/
def mark (start stop : Nat) (cell : Cell) : List Char :=
  if max start cell.offset < min stop (cell.offset + cell.char.utf8Size) then cell.fill '^'
  else if cell.offset < stop then cell.fill ' '
  else []

end Cell

/-- The cells of a line. -/
def cellsOf (line : Line) : List Cell := Cell.ofChars 0 0 line.body

/-- A line as it is shown. -/
def shownText (line : Line) : String := String.ofList ((cellsOf line).flatMap Cell.shown)

/-- Carets below the marked bytes of a line. The end of the line can be marked like a
character. -/
def carets (line : Line) (start stop : Nat) : String :=
  let ending : Cell := ⟨Char.ofNat 0, Source.byteSize line.body, 1⟩
  String.ofList ((cellsOf line ++ [ending]).flatMap (Cell.mark start stop))

/-- A horizontal stroke below the cells that start before an offset. -/
def stroke (line : Line) (offset : Nat) : String :=
  String.ofList (((cellsOf line).filter (·.offset < offset)).flatMap (Cell.fill · '─'))

/-- How a range over several lines touches one of them. -/
inductive Touch where
  /-- The range starts at an offset in the line. -/
  | opens (offset : Nat)
  | passes
  /-- The range ends before an offset in the line. -/
  | closes (offset : Nat)
  | apart
  deriving DecidableEq, Repr

/-- Whether a range that starts at an offset covers all of a line but blanks. -/
def startsInFront (line : Line) (offset : Nat) : Bool :=
  offset ≤ Source.byteSize (line.body.takeWhile Text.isBlank)

/-- The bar to the left of a line. -/
def barOf (line : Line) : Touch → String
  | .opens offset => if startsInFront line offset then " ╭" else "  "
  | .passes => " │"
  | .closes _ => " │"
  | .apart => "  "

/-- A range of bytes in lines of source, with a remark. The range can end before it
starts. -/
structure Snippet where
  lines : List Line
  start : Nat
  stop : Nat
  remark : String
  deriving DecidableEq, Repr

/-- What is shown between the first and the last line of a snippet. -/
inductive Row where
  | line (index : Nat)
  /-- Lines are left out before a line. -/
  | gap (next : Nat)
  deriving DecidableEq, Repr

namespace Row

/-- Lines with what stands between them: a single line that is left out is shown
after all. -/
def join : List Nat → List Row
  | [] => []
  | [index] => [.line index]
  | index :: next :: rest =>
    let between := if next = index + 2 then [.line (index + 1)]
      else if index + 2 < next then [.gap next]
      else []
    .line index :: between ++ join (next :: rest)

end Row

namespace Snippet

/-- Lines that are shown after the first line of a range. -/
def linesAfterStart : Nat := 3

/-- Lines that are shown before the last line of a range. -/
def linesBeforeStop : Nat := 1

/-- The line that the range starts in. -/
def first (snippet : Snippet) : Nat := Source.lineIndex snippet.lines snippet.start

/-- The line that the range ends in. -/
def last (snippet : Snippet) : Nat := Source.lineIndex snippet.lines snippet.stop

/-- The line with an index. -/
def lineAt (snippet : Snippet) (index : Nat) : Line := snippet.lines.getD index ⟨0, []⟩

/-- How a range over several lines touches a line. -/
def touch (snippet : Snippet) (index : Nat) : Touch :=
  if index = snippet.first then .opens (snippet.start - (snippet.lineAt index).start)
  else if index = snippet.last then .closes (snippet.stop - (snippet.lineAt index).start)
  else if snippet.first < index && index < snippet.last then .passes
  else .apart

/-- What is shown of a range over several lines. -/
def rows (snippet : Snippet) : List Row :=
  if snippet.first < snippet.last then
    Row.join (((List.range (snippet.last - snippet.first + 1)).map (snippet.first + ·)).filter
      fun index => index - snippet.first ≤ linesAfterStart || snippet.last - index ≤ linesBeforeStop)
  else Row.join [snippet.last, snippet.first]

/-- The columns that line numbers take. -/
def gutterWidth (snippet : Snippet) : Nat :=
  max (toString (snippet.first + 1)).length (toString (snippet.last + 1)).length

/-- The empty space below a line number. -/
def gutter (snippet : Snippet) : String := Text.blanks snippet.gutterWidth

/-- The number of a line. -/
def numbered (snippet : Snippet) (index : Nat) : String :=
  Text.alignRight snippet.gutterWidth (toString (index + 1))

/-- The remark after a blank, if there is one. -/
def trailing (snippet : Snippet) : String :=
  if snippet.remark = "" then "" else " " ++ snippet.remark

/-- The file and the place where the range starts, from one. -/
def locus (snippet : Snippet) (file : String) : String :=
  let column := (snippet.lineAt snippet.first).column snippet.start
  s!"{snippet.gutter} ┌─ {file}:{snippet.first + 1}:{column + 1}"

/-- The line of a range within one line, and the carets below it. A range without
bytes is marked by one caret. -/
def singleLines (snippet : Snippet) : List String :=
  let line := snippet.lineAt snippet.first
  let start := snippet.start - line.start
  let stop := max (snippet.stop - line.start) (start + 1)
  [s!"{snippet.numbered snippet.first} │ {shownText line}",
    s!"{snippet.gutter} │ {carets line start stop}{snippet.trailing}"]

/-- A row of a range over several lines. -/
def rowLines (snippet : Snippet) : Row → List String
  | .gap next => [s!"{snippet.gutter} ·{barOf (snippet.lineAt next) (passing (snippet.touch next))}"]
  | .line index =>
    let line := snippet.lineAt index
    let touch := snippet.touch index
    s!"{snippet.numbered index} │{barOf line touch} {shownText line}" :: match touch with
      | .opens offset =>
        if startsInFront line offset then []
        else [s!"{snippet.gutter} │ ╭{stroke line (offset + 1)}^"]
      | .closes offset => [s!"{snippet.gutter} │ ╰{stroke line offset}^{snippet.trailing}"]
      | .passes => []
      | .apart => []
where
  /-- In a gap the range has not started before the line that it starts in. -/
  passing : Touch → Touch
    | .opens _ => .apart
    | other => other

/-- The border below the locus and above notes. -/
def border (snippet : Snippet) : String :=
  s!"{snippet.gutter} │" ++ if snippet.first = snippet.last then "" else "  "

/-- The snippet under a file name. -/
def render (snippet : Snippet) (file : String) : List String :=
  [snippet.locus file, snippet.border]
    ++ if snippet.first = snippet.last then snippet.singleLines else snippet.rows.flatMap snippet.rowLines

end Snippet

end UnitLinker.Diagnostic
