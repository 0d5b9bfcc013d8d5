import UnitLinker.Instruction.Listing
import UnitLinker.ObjectUnit.Basic

/-!
# The text of an object unit

Headings for variables, types, routines and labels, then one instruction list
for each section. A blank line ends every group.
-/

namespace UnitLinker.ObjectUnit

/-- A group of lines under a heading. -/
def group (heading : String) (items : List String) : String :=
  Text.lines (("* " ++ heading) :: items ++ [""])

/-- The instruction list of a section under its heading. -/
def sectionText (unit : ObjectUnit) (stream : Section) : String :=
  s!"* {stream.text}:\n" ++ Instruction.listText .plain 0 (unit.code.stream stream) ++ "\n"

/-- A unit as text. -/
def text (unit : ObjectUnit) : String :=
  s!"{unit.kind.text} {unit.name}\n"
    ++ (if unit.uses.isEmpty then "" else "uses " ++ Text.joined ", " unit.usedNames ++ "\n")
    ++ "\n"
    ++ group "Variables" (unit.vars.entries.map fun entry =>
        s!"{entry.2.slot}: {entry.1} ({entry.2.visibility.text})")
    ++ group "Types" unit.types.textLines
    ++ group "Functions" (unit.routines.entries.map fun entry =>
        s!"{entry.2.visibility.text}: {entry.1} {entry.2.signature.text} @ {entry.2.entry}")
    ++ group "Labels" (unit.labels.entries.map fun entry => s!"{entry.1}: {entry.2.text}")
    ++ String.join (Section.all.map unit.sectionText)

end UnitLinker.ObjectUnit
