import UnitLinker.Binary.ImageFormat
import UnitLinker.Command.Arguments
import UnitLinker.Command.Loading
import UnitLinker.Diagnostic.Report
import UnitLinker.Image.LinkMap
import UnitLinker.Image.Listing
import UnitLinker.Journal.Filter
import UnitLinker.Link.Journal

/-!
# A run of the command

The command loads a program and its units, links them, and writes the image or
prints it. A run is a function from a file tree to a file tree with the texts and
notes that were made on the way.
-/

namespace UnitLinker.Command

open Files (Tree)
open Journal (Record)

/-- What the command finds around it. -/
structure Environment where
  tree : Tree
  /-- A directory of units that is searched last. -/
  unitsDir : Option String
  /-- Which notes to show. -/
  logSpec : Option String

/-- What a run leaves behind. -/
structure Outcome where
  exitCode : Nat
  output : String
  /-- Warnings about what was asked for, which come before everything else. -/
  warnings : List String
  /-- The notes that are shown. -/
  log : List Record
  /-- The report of a failure. -/
  report : String
  tree : Tree

/-- What stands on the error output of a run besides the first lines of its notes. -/
def Outcome.errors (outcome : Outcome) : String :=
  Text.lines (outcome.warnings ++ outcome.log.flatMap Record.logTail) ++ outcome.report

/-- The directories that are searched for units: those given, the working
directory and the directory of the environment, as far as they exist. -/
def searchDirectories (environment : Environment) (given : List String) : List String :=
  (given ++ [environment.tree.workingPath] ++ environment.unitsDir.toList).filter
    environment.tree.exists?

/-- A stage of a run: its notes and how it ended. -/
structure Stage (α : Type) where
  notes : List Record
  result : Except Failure α

namespace Stage

/-- A stage that is finished without notes. -/
def done {α : Type} (value : α) : Stage α := ⟨[], .ok value⟩

/-- A stage that consists of notes. -/
def noting (notes : List Record) : Stage Unit := ⟨notes, .ok ()⟩

/-- One stage after the other; the notes of both are kept. -/
def andThen {α β : Type} (stage : Stage α) (next : α → Stage β) : Stage β :=
  match stage.result with
  | .error failure => ⟨stage.notes, .error failure⟩
  | .ok value => ⟨stage.notes ++ (next value).notes, (next value).result⟩

instance : Monad Stage where
  pure := done
  bind := andThen

end Stage

/-- The program and the units to link it with. -/
structure Inputs where
  program : ObjectUnit
  collection : Collection

/-- Reads the program of a run. -/
def loadProgram (tree : Tree) (path : String) : Except Failure ObjectUnit :=
  if tree.exists? path then loadUnit tree path else .error (.fileNotFound path)

/-- Loads everything that is to be linked. -/
def gather (environment : Environment) (arguments : Arguments) : Stage Inputs := do
  let tree := environment.tree
  let directories := searchDirectories environment arguments.searchDirs
  let program ← ⟨[], loadProgram tree arguments.program⟩
  Stage.noting (⟨.debug, .command, "unit search dirs:"⟩
    :: directories.map fun directory => ⟨.debug, .command, "\t" ++ directory⟩)
  let given ← ⟨[], arguments.units.foldlM
    (fun collection file => collection.addFile tree directories file) .empty⟩
  let loading := addUsedUnits tree directories given program
  let collection ← ⟨loading.notes, match loading.failure with
    | some failure => .error failure
    | none => .ok loading.collection⟩
  Stage.noting [⟨.info, .command,
    s!"linking {program.name} with {collection.units.size} units"⟩]
  return ⟨program, collection⟩

/-- Writes the image of a run to the output file, if there is one. -/
def writeImage (tree : Tree) (arguments : Arguments) (image : Image) : Stage Tree :=
  match arguments.output with
  | none => .done tree
  | some path =>
    let bytes := image.encode
    match tree.writeWithParents path bytes with
    | .error error => ⟨[], .error (.outputFailed path error.text)⟩
    | .ok written => ⟨[⟨.info, .command, s!"wrote {path} ({bytes.length} bytes)"⟩], .ok written⟩

/-- What is printed of an image. The listing is printed unless the image is only
to be written. -/
def printed (arguments : Arguments) (image : Image) : Except Fault String := do
  let listing ← if arguments.print || arguments.output.isNone then image.listing else pure ""
  return listing ++ if arguments.map then image.linkMap else ""

/-- How a failure is reported. If the report needs a source file that cannot be
shown, the failure and the reason are told in one line each. -/
def report (tree : Tree) (failure : Failure) : Except Fault String :=
  match failure.message.render tree with
  | .ok text => .ok text
  | .error (.fault fault) => .error fault
  | .error (.error reason) =>
    .ok (Text.lines [s!"error: {failure.text}", s!"error reporting output: {reason.text}"])

/-- The filter for the notes of a run, and warnings about its specification. -/
def logFilter (environment : Environment) (arguments : Arguments) :
    Journal.Filter × List String :=
  (Journal.Filter.ofThreshold (some (if arguments.verbose then .debug else .warn))).extend
    (environment.logSpec.getD "")

/-- A finished run from its notes, what it leaves and how it ended. -/
def conclude (environment : Environment) (arguments : Arguments) (notes : List Record)
    (tree : Tree) (result : Except Failure String) : Except Fault Outcome := do
  let (filter, warnings) := logFilter environment arguments
  match result with
  | .ok output => return ⟨0, output, warnings, filter.apply notes, "", tree⟩
  | .error failure => return ⟨1, "", warnings, filter.apply notes, ← report tree failure, tree⟩

/-- Runs the command. -/
def run (environment : Environment) (arguments : Arguments) : Except Fault Outcome :=
  let tree := environment.tree
  let gathered := gather environment arguments
  match gathered.result with
  | .error failure => conclude environment arguments gathered.notes tree (.error failure)
  | .ok inputs =>
    let units := inputs.collection.loaded
    let notes := gathered.notes ++ Link.journal units inputs.program arguments.link
    match link units inputs.program arguments.link with
    | .error (.fault fault) => .error fault
    | .error (.refused error) => conclude environment arguments notes tree (.error (.link error))
    | .ok image =>
      let writing := writeImage tree arguments image
      let notes := notes ++ writing.notes
      match writing.result with
      | .error failure => conclude environment arguments notes tree (.error failure)
      | .ok written => do
        let output ← printed arguments image
        conclude environment arguments notes written (.ok output)

end UnitLinker.Command
