/-!
# Aligned text

Columns are counted in characters. A text wider than its column is not cut.
-/

namespace UnitLinker.Text

/-- A run of blanks. -/
def blanks (width : Nat) : String := String.ofList (List.replicate width ' ')

/-- A text moved to the right end of a column. -/
def alignRight (width : Nat) (text : String) : String :=
  blanks (width - text.length) ++ text

/-- A text at the left end of a column. -/
def alignLeft (width : Nat) (text : String) : String :=
  text ++ blanks (width - text.length)

/-- Texts one after another with a separator between them. -/
def joined (separator : String) (parts : List String) : String :=
  separator.intercalate parts

/-- Texts as lines, each ended by a line feed. -/
def lines (parts : List String) : String :=
  String.join (parts.map (fun part => part ++ "\n"))

end UnitLinker.Text
