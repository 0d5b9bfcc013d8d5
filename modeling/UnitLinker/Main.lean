import UnitLinker.Command.Snapshot

/-!
# The command

Takes a snapshot of the files that a run looks at, runs, and carries out what the
run did.
-/

namespace UnitLinker.Command

open Files (Tree)

/-- What the file system has at a rooted path. -/
def inspect (path : String) : IO (Option Files.Node) := do
  try
    let actual ← IO.FS.realPath path
    if ← actual.isDir then return some (.directory [])
    return some (.file (← IO.FS.readBinFile actual).toList)
  catch _ => return none

/-- Records everything that a path passes through. -/
def recordPath (tree : Tree) (path : String) : IO Tree := do
  let mut tree := tree
  let mut place := []
  for segment in tree.route path do
    if segment = ".." then
      place := place.dropLast
    else if segment ≠ "" && segment ≠ "." then
      place := place ++ [segment]
      match ← inspect (Tree.pathOf place) with
      | none => return tree
      | some node => tree := record tree place node
  return tree

/-- Completes the snapshot of a run. -/
partial def complete (environment : Environment) (arguments : Arguments) : IO Environment := do
  let tree ← (wantedPaths environment arguments).foldlM recordPath environment.tree
  let extended : Environment := ⟨tree, environment.unitsDir, environment.logSpec⟩
  if tree.listing.length = environment.tree.listing.length then return extended
  else complete extended arguments

/-- Carries out the changes of a run. -/
def carryOut (changed : List (Files.Place × Option Binary.Bytes)) : IO Unit :=
  changed.forM fun item =>
    match item.2 with
    | none => IO.FS.createDirAll (Tree.pathOf item.1)
    | some content => IO.FS.writeBinFile (Tree.pathOf item.1) (ByteArray.mk content.toArray)

/-- What is told about a command line that is not run, and whether it is an error. -/
def UsageError.text : UsageError → String
  | .missingProgram => "error: the required argument PROGRAM was not provided"
  | .unknownArgument => "error: found an argument that wasn't expected"
  | .repeatedArgument => "error: an argument was provided more than once"
  | .emptyValue => "error: an argument requires a value but none was supplied"
  | .invalidValue => "error: a value is not a valid number"
  | .helpRequested => "usage: pascal_link [-pv] [--map] [--strip-unused] [-u UNIT...] [-s DIR...] "
      ++ "[-o OUTPUT] [--max-globals N] [--max-instructions N] PROGRAM"
  | .versionRequested => "pascal_link 0.1.0"

/-- Runs the command in the file system. -/
def execute (arguments : Arguments) : IO UInt32 := do
  let working ← IO.currentDir
  let place := (Text.split '/' working.toString).filter (· ≠ "")
  let environment ← complete ⟨Tree.bare place, ← IO.getEnv "PASCAL_UNITS", ← IO.getEnv "RUST_LOG"⟩
    arguments
  match run environment arguments with
  | .error _ =>
    IO.eprintln "error: attempt to add with overflow"
    return 101
  | .ok outcome =>
    outcome.warnings.forM IO.eprintln
    outcome.log.forM fun entry => IO.eprint (Text.lines (entry.logHead :: entry.logTail))
    carryOut (changes environment.tree outcome.tree)
    IO.print outcome.output
    IO.eprint outcome.report
    return UInt32.ofNat outcome.exitCode

end UnitLinker.Command

open UnitLinker.Command in
/-- The entry point of the command. -/
def main (words : List String) : IO UInt32 := do
  match Arguments.parse words with
  | .ok arguments => execute arguments
  | .error .helpRequested =>
    IO.println (UsageError.text .helpRequested)
    return 0
  | .error .versionRequested =>
    IO.println (UsageError.text .versionRequested)
    return 0
  | .error error =>
    IO.eprintln error.text
    return 1
