/-!
# Splitting text

Texts are cut at every occurrence of one character, so joining the parts with
that character gives the text back.
-/

namespace UnitLinker.Text

/-- The runs of characters between occurrences of a separator. -/
def splitChars (separator : Char) : List Char → List (List Char)
  | [] => [[]]
  | first :: rest =>
    if first = separator then [] :: splitChars separator rest
    else match splitChars separator rest with
      | [] => [[first]]
      | part :: parts => (first :: part) :: parts

/-- The parts of a text between occurrences of a separator. -/
def split (separator : Char) (text : String) : List String :=
  (splitChars separator text.toList).map String.ofList

/-- The text before the first separator and, if there is one, the text after it. -/
def cut (separator : Char) (text : String) : String × Option String :=
  let before := text.toList.takeWhile (· ≠ separator)
  match text.toList.dropWhile (· ≠ separator) with
  | [] => (String.ofList before, none)
  | _ :: after => (String.ofList before, some (String.ofList after))

/-- A line that a line feed ends: a carriage return before the line feed belongs to
the line end. -/
def withoutReturn (line : List Char) : List Char :=
  match line.reverse with
  | '\r' :: earlier => earlier.reverse
  | _ => line

/-- Lines from the parts between line feeds. The last part is a line only if it is
not empty, and all other parts are ended by line feeds. -/
def linesFromParts : List (List Char) → List (List Char)
  | [] => []
  | [last] => if last.isEmpty then [] else [last]
  | part :: rest => withoutReturn part :: linesFromParts rest

/-- The lines of a text. -/
def linesOf (text : String) : List String :=
  (linesFromParts (splitChars '\n' text.toList)).map String.ofList

end UnitLinker.Text
