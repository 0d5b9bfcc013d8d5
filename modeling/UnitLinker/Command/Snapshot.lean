import UnitLinker.Command.Run

/-!
# What a run looks at

A run reads a snapshot of the file system. The paths that it can look at follow
from its arguments and from the units that are in the snapshot already, so a
snapshot is complete once none of these paths adds anything to it.
-/

namespace UnitLinker.Command

open Files (Tree)

/-- The source files that a unit refers to. -/
def sourceFiles (unit : ObjectUnit) : List String :=
  (unit.span.toList ++ unit.uses.values.filterMap id ++ unit.routines.values.filterMap Routine.span).map
    Span.file

/-- The units in the files of a tree. -/
def unitsIn (tree : Tree) : List ObjectUnit :=
  tree.listing.filterMap fun item => item.2.bind fun content => (ObjectUnit.decode content).toOption

/-- Files of units with given names in several directories. -/
def candidates (directories files : List String) : List String :=
  directories.flatMap fun directory => files.map (Path.join directory)

/-- The paths that a run can look at, given what is in its snapshot. -/
def wantedPaths (environment : Environment) (arguments : Arguments) : List String :=
  let directories := arguments.searchDirs ++ [environment.tree.workingPath] ++ environment.unitsDir.toList
  let units := unitsIn environment.tree
  let used := (units.flatMap ObjectUnit.usedNames).map (· ++ unitSuffix)
  [arguments.program] ++ arguments.units ++ directories
    ++ arguments.output.toList ++ candidates directories (arguments.units ++ used)
    ++ units.flatMap sourceFiles

/-- Records what stands at a place, unless something is recorded there. -/
def record (tree : Tree) (place : Files.Place) (node : Files.Node) : Tree :=
  if (tree.node? place).isSome then tree else tree.set place node

/-- Whether something stands at a place of a tree as it is listed. -/
def isListed (tree : Tree) (item : Files.Place × Option Binary.Bytes) : Bool :=
  match tree.node? item.1, item.2 with
  | some (.file content), some listed => content = listed
  | some (.directory _), none => true
  | _, _ => false

/-- What a tree lists that another one does not. -/
def changes (before after : Tree) : List (Files.Place × Option Binary.Bytes) :=
  after.listing.filter fun item => !isListed before item

end UnitLinker.Command
