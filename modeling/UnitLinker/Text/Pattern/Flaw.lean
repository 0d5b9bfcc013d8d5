import UnitLinker.Text.Align
import UnitLinker.Text.Split

/-!
# Flaws of written patterns

What can be wrong with a text that should denote a pattern, and how it is shown: the
lines of the text, marks below the characters in question, and the flaw.
-/

namespace UnitLinker.Text.Pattern

/-- How deep parts of a written pattern may lie in each other. -/
def depthLimit : Nat := 250

/-- What is wrong with a text that should denote a pattern. -/
inductive Flaw where
  | groupUnclosed
  | groupUnopened
  | nameIncomplete
  | nameEmpty
  | nameChar
  | nameRepeated
  | flagMissing
  | flagUnknown
  | flagRepeated
  | negationRepeated
  | negationDangling
  | lookAround
  | repetitionMissing
  | countUnclosed
  | countMissing
  | countRange
  | countHuge
  | escapeIncomplete
  | escapeUnknown
  | backReference
  | hexMissing
  | hexDigit
  | hexValue
  | propertyName
  | wordEdgeUnclosed
  | wordEdgeUnknown
  | wordEdgeIncomplete
  | setUnclosed
  | setRange
  | setRangeBound
  | setEscape
  | tooDeep
  | unicodeRefused
  | bytesRefused
  | propertyUnknown
  | classUnavailable
  | caseUnavailable
  deriving DecidableEq, Repr

/-- The text of a flaw. -/
def Flaw.text : Flaw → String
  | .groupUnclosed => "unclosed group"
  | .groupUnopened => "unopened group"
  | .nameIncomplete => "unclosed capture group name"
  | .nameEmpty => "empty capture group name"
  | .nameChar => "invalid capture group character"
  | .nameRepeated => "duplicate capture group name"
  | .flagMissing => "expected flag but got end of regex"
  | .flagUnknown => "unrecognized flag"
  | .flagRepeated => "duplicate flag"
  | .negationRepeated => "flag negation operator repeated"
  | .negationDangling => "dangling flag negation operator"
  | .lookAround => "look-around, including look-ahead and look-behind, is not supported"
  | .repetitionMissing => "repetition operator missing expression"
  | .countUnclosed => "unclosed counted repetition"
  | .countMissing => "repetition quantifier expects a valid decimal"
  | .countRange => "invalid repetition count range, the start must be <= the end"
  | .countHuge => "decimal literal invalid"
  | .escapeIncomplete => "incomplete escape sequence, reached end of pattern prematurely"
  | .escapeUnknown => "unrecognized escape sequence"
  | .backReference => "backreferences are not supported"
  | .hexMissing => "hexadecimal literal empty"
  | .hexDigit => "invalid hexadecimal digit"
  | .hexValue => "hexadecimal literal is not a Unicode scalar value"
  | .propertyName => "invalid Unicode character class"
  | .wordEdgeUnclosed =>
    "special word boundary assertion is either unclosed or contains an invalid character"
  | .wordEdgeUnknown =>
    "unrecognized special word boundary assertion, valid choices are: "
      ++ "start, end, start-half or end-half"
  | .wordEdgeIncomplete =>
    "found either the beginning of a special word boundary or a bounded repetition on a \\b with "
      ++ "an opening brace, but no closing brace"
  | .setUnclosed => "unclosed character class"
  | .setRange => "invalid character class range, the start must be <= the end"
  | .setRangeBound => "invalid range boundary, must be a literal"
  | .setEscape => "invalid escape sequence found in character class"
  | .tooDeep => s!"exceed the maximum number of nested parentheses/brackets ({depthLimit})"
  | .unicodeRefused => "Unicode not allowed here"
  | .bytesRefused => "pattern can match invalid UTF-8"
  | .propertyUnknown => "Unicode property not found"
  | .classUnavailable =>
    "Unicode-aware Perl class not found (make sure the unicode-perl feature is enabled)"
  | .caseUnavailable =>
    "Unicode-aware case insensitivity matching is not available "
      ++ "(make sure the unicode-case feature is enabled)"

/-- Some characters of a written pattern: from `start` to before `stop`. -/
structure Extent where
  start : Nat
  stop : Nat
  deriving DecidableEq, Repr

/-- The line of a place of a text and the column in it, both counted from zero. -/
def lineAndColumn (text : List Char) (position : Nat) : Nat × Nat :=
  let before := text.take position
  (before.count '\n', (before.reverse.takeWhile (· ≠ '\n')).length)

/-- A flaw with the characters that have it. Of a thing that is given twice, the first
one is shown too. -/
structure ReadError where
  flaw : Flaw
  extent : Extent
  earlier : Option Extent
  deriving DecidableEq, Repr

/-- Fails with a flaw at a range of characters. -/
def refuse {α : Type} (flaw : Flaw) (start stop : Nat) : Except ReadError α :=
  .error ⟨flaw, ⟨start, stop⟩, none⟩

/-- Fails as something is given a second time. -/
def refuseRepeated {α : Type} (flaw : Flaw) (extent earlier : Extent) : Except ReadError α :=
  .error ⟨flaw, extent, some earlier⟩

namespace ReadError

/-- The extents of an error in the order of the text. -/
def extents (error : ReadError) : List Extent :=
  match error.earlier with
  | some earlier =>
    if earlier.start < error.extent.start then [earlier, error.extent] else [error.extent, earlier]
  | none => [error.extent]

/-- The marks below a line for the extents in it. Each extent has one mark at least. -/
def marks (text : List Char) (inLine : List Extent) : String :=
  inLine.foldl (fun marked extent =>
    let column := (lineAndColumn text extent.start).2
    marked ++ blanks (column - marked.length)
      ++ String.ofList (List.replicate (max 1 (extent.stop - extent.start)) '^')) ""

/-- The lines of a text, each behind its margin, and marks below the lines that have
extents. -/
def notated (text : List Char) (lines : List String) (margin : Nat → String) (extents : List Extent) :
    List String :=
  let placed := extents.map fun extent => ((lineAndColumn text extent.start).1, extent)
  lines.zipIdx.flatMap fun (line, index) =>
    let inLine := (placed.filter (·.1 = index)).map Prod.snd
    (margin (index + 1) ++ line)
      :: (if inLine.isEmpty then [] else [blanks (margin 1).length ++ marks text inLine])

/-- The note on an extent of several lines. -/
def spread (text : List Char) (extent : Extent) : String :=
  let (startLine, startColumn) := lineAndColumn text extent.start
  let (stopLine, stopColumn) := lineAndColumn text extent.stop
  s!"on line {startLine + 1} (column {startColumn + 1}) through line {stopLine + 1} (column {stopColumn})"

/-- An error below the text that has it. The lines of a text with several lines are
numbered and set off. -/
def render (error : ReadError) (text : String) : String :=
  let chars := text.toList
  let lines := linesOf text
  let (single, several) := error.extents.partition fun extent =>
    (lineAndColumn chars extent.start).1 = (lineAndColumn chars extent.stop).1
  let body :=
    if chars.contains '\n' then
      let count := lines.length + (if chars.getLast? = some '\n' then 1 else 0)
      let width := (toString count).length
      let divider := String.ofList (List.replicate 79 '~')
      [divider] ++ notated chars lines (fun number => alignRight width (toString number) ++ ": ") single
        ++ [divider] ++ several.map (spread chars)
    else notated chars lines (fun _ => blanks 4) single
  joined "\n" ("regex parse error:" :: body ++ ["error: " ++ error.flaw.text])

end ReadError

end UnitLinker.Text.Pattern
