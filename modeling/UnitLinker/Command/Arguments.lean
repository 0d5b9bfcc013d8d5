import UnitLinker.Link.Space
import UnitLinker.Text.Split
import UnitLinker.Word

/-!
# The command line

Words are options, flags or the program. An option that may be repeated takes
all words that follow it up to the next option; a value attached to an option by
an equals sign is its only value. After two dashes every word is a plain word.
-/

namespace UnitLinker.Command

/-- What the command is told. -/
structure Arguments where
  program : String
  units : List String
  searchDirs : List String
  output : Option String
  print : Bool
  map : Bool
  verbose : Bool
  link : Link.Options
  deriving DecidableEq, Repr

/-- Why the command line is refused, or answered without a run. -/
inductive UsageError where
  | missingProgram
  | unknownArgument
  | repeatedArgument
  | emptyValue
  | invalidValue
  | helpRequested
  | versionRequested
  deriving DecidableEq, Repr

/-- Arguments without a value. -/
inductive Flag where
  | print | map | stripUnused | verbose | help | version
  deriving DecidableEq, Repr

/-- The flag with a long name. -/
def Flag.ofLong? : String → Option Flag
  | "print" => some .print
  | "map" => some .map
  | "strip-unused" => some .stripUnused
  | "verbose" => some .verbose
  | "help" => some .help
  | "version" => some .version
  | _ => none

/-- The flag with a short name. -/
def Flag.ofShort? : Char → Option Flag
  | 'p' => some .print
  | 'v' => some .verbose
  | 'h' => some .help
  | 'V' => some .version
  | _ => none

/-- Arguments with a value. -/
inductive Opt where
  | unit | searchDir | output | maxGlobals | maxInstructions
  deriving DecidableEq, Repr

namespace Opt

/-- All options. -/
def all : List Opt := [.unit, .searchDir, .output, .maxGlobals, .maxInstructions]

/-- Whether an option may be given more than once and takes several words. -/
def repeats : Opt → Bool
  | .unit | .searchDir => true
  | .output | .maxGlobals | .maxInstructions => false

/-- Whether the value of an option is a number. There is a standard number for each
of these options, which also counts if the option is given without a value. -/
def isNumeric : Opt → Bool
  | .maxGlobals | .maxInstructions => true
  | .unit | .searchDir | .output => false

/-- The option with a long name. -/
def ofLong? : String → Option Opt
  | "unit" => some .unit
  | "search-dir" => some .searchDir
  | "max-globals" => some .maxGlobals
  | "max-instructions" => some .maxInstructions
  | _ => none

/-- The option with a short name. -/
def ofShort? : Char → Option Opt
  | 'u' => some .unit
  | 's' => some .searchDir
  | 'o' => some .output
  | _ => none

end Opt

/-- What has been read of a command line. -/
structure Scan where
  flags : List Flag
  /-- Options as often as they were given. -/
  options : List Opt
  values : List (Opt × String)
  program : Option String
  /-- The option that takes the next plain word. -/
  waiting : Option Opt
  /-- Whether only plain words follow. -/
  plainOnly : Bool
  deriving DecidableEq, Repr

namespace Scan

/-- Nothing read. -/
def start : Scan := ⟨[], [], [], none, none, false⟩

/-- Reads a flag. -/
def addFlag (scan : Scan) (flag : Flag) : Except UsageError Scan :=
  match flag with
  | .help => .error .helpRequested
  | .version => .error .versionRequested
  | _ => .ok { scan with flags := scan.flags ++ [flag], waiting := none }

/-- Adds a value to an option, which goes on waiting if it takes several. -/
def addValue (scan : Scan) (option : Opt) (value : String) : Scan :=
  { scan with
    values := scan.values ++ [(option, value)]
    waiting := if option.repeats then some option else none }

/-- Text without the equals signs at its front. -/
def withoutEquals (text : List Char) : String := String.ofList (text.dropWhile (· = '='))

/-- Reads an option with what is attached to it. -/
def addOption (scan : Scan) (option : Opt) (attached : Option (List Char)) (equals : Bool) : Scan :=
  let given := { scan with options := scan.options ++ [option], waiting := some option }
  match attached with
  | none => given
  | some text =>
    let added := given.addValue option (withoutEquals text)
    if equals || text.head? = some '=' then { added with waiting := none } else added

/-- Reads a plain word: a value of the waiting option, or the program. -/
def addWord (scan : Scan) (word : String) : Except UsageError Scan :=
  match scan.waiting, scan.plainOnly with
  | some option, false => .ok (scan.addValue option word)
  | _, _ =>
    match scan.program with
    | none => .ok { scan with program := some word }
    | some _ => .error .unknownArgument

/-- Reads a word that starts with two dashes. -/
def addLong (scan : Scan) (word : List Char) : Except UsageError Scan :=
  let (name, attached) := Text.cut '=' (String.ofList (word.dropWhile (· = '-')))
  match Opt.ofLong? name, Flag.ofLong? name with
  | some option, _ => .ok (scan.addOption option (attached.map String.toList) attached.isSome)
  | none, some flag => scan.addFlag flag
  | none, none => .error .unknownArgument

/-- Reads the letters after one dash: flags, and possibly an option with the rest
as its value. -/
def addShorts (scan : Scan) : List Char → Except UsageError Scan
  | [] => .ok scan
  | letter :: rest =>
    match Opt.ofShort? letter, Flag.ofShort? letter with
    | some option, _ =>
      .ok (scan.addOption option (if rest.isEmpty then none else some rest) false)
    | none, some flag => do
      let scan ← scan.addFlag flag
      scan.addShorts rest
    | none, none => .error .unknownArgument

/-- Reads one word. A single dash is a plain word. -/
def add (scan : Scan) (word : String) : Except UsageError Scan :=
  if scan.plainOnly then scan.addWord word
  else match word.toList with
    | ['-', '-'] => .ok { scan with plainOnly := true }
    | '-' :: '-' :: rest => scan.addLong rest
    | '-' :: letter :: rest => scan.addShorts (letter :: rest)
    | _ => scan.addWord word

/-- The values of an option in order. -/
def valuesOf (scan : Scan) (option : Opt) : List String :=
  (scan.values.filter (·.1 = option)).map Prod.snd

/-- Checks the values of an option: one that was given has a value unless a standard
number stands in for it, a number is a word, and only some options are given more
than once. -/
def checkOption (scan : Scan) (option : Opt) : Except UsageError Unit := do
  let values := scan.valuesOf option
  if scan.options.contains option && values.isEmpty && !option.isNumeric then throw .emptyValue
  if option.isNumeric && values.any (fun value => (Word.ofDecimal? value).isNone) then
    throw .invalidValue
  if !option.repeats && 1 < scan.options.count option then throw .repeatedArgument

/-- The number given by an option, or else a standard one. -/
def numberOf (scan : Scan) (option : Opt) (standard : UInt64) : UInt64 :=
  ((scan.valuesOf option).head?.bind Word.ofDecimal?).getD standard

/-- The arguments that were read. The program is asked for before anything else. -/
def finish (scan : Scan) : Except UsageError Arguments := do
  match scan.program with
  | none => throw .missingProgram
  | some program =>
    Opt.all.forM scan.checkOption
    if scan.flags.any (fun flag => 1 < scan.flags.count flag) then throw .repeatedArgument
    return {
      program
      units := scan.valuesOf .unit
      searchDirs := scan.valuesOf .searchDir
      output := (scan.valuesOf .output).head?
      print := scan.flags.contains .print
      map := scan.flags.contains .map
      verbose := scan.flags.contains .verbose
      link := {
        stripUnused := scan.flags.contains .stripUnused
        maxGlobals := scan.numberOf .maxGlobals Link.Options.standard.maxGlobals
        maxInstructions := scan.numberOf .maxInstructions Link.Options.standard.maxInstructions } }

end Scan

/-- The arguments that the words of a command line stand for. -/
def Arguments.parse (words : List String) : Except UsageError Arguments := do
  let scan ← words.foldlM Scan.add .start
  scan.finish

end UnitLinker.Command
