import UnitLinker.Text.Align
import UnitLinker.Text.Split

/-!
# Journal records

What the linker notes about its work. Records are values: each has a level, the
part of the linker that it comes from, and a text.
-/

namespace UnitLinker.Journal

/-- How important a record is. -/
inductive Level where
  | error
  | warn
  | info
  | debug
  | trace
  deriving DecidableEq, Repr

namespace Level

/-- Levels numbered from the most severe one. -/
def rank : Level → Nat
  | .error => 1
  | .warn => 2
  | .info => 3
  | .debug => 4
  | .trace => 5

/-- The name of a level. -/
def text : Level → String
  | .error => "ERROR"
  | .warn => "WARN"
  | .info => "INFO"
  | .debug => "DEBUG"
  | .trace => "TRACE"

end Level

/-- The part of the linker that a record comes from. -/
inductive Origin where
  | order
  | link
  | command
  | unitFiles
  deriving DecidableEq, Repr

/-- The name that stands for an origin in filters and in shown records. -/
def Origin.text : Origin → String
  | .order => "linker::dep_sort"
  | .link => "linker::link"
  | .command => "pascal_link"
  | .unitFiles => "pascal_link::unit_files"

/-- One note. -/
structure Record where
  level : Level
  origin : Origin
  text : String
  deriving DecidableEq, Repr

namespace Record

/-- A record as a line: level, origin and text. -/
def render (entry : Record) : String :=
  s!"{entry.level.text} {entry.origin.text}: {entry.text}"

/-- The first line of a record in the log of the command. -/
def logHead (entry : Record) : String :=
  let first := (Text.split '\n' entry.text).headD ""
  s!"[{Text.alignLeft 5 entry.level.text} {entry.origin.text}] {first}"

/-- The other lines of a record in the log of the command, which are indented. -/
def logTail (entry : Record) : List String :=
  (Text.split '\n' entry.text).tail.map (Text.blanks 4 ++ ·)

end Record

/-- The most detailed level that is shown; none shows nothing. -/
abbrev Threshold := Option Level

/-- Whether a threshold lets a level through. -/
def Threshold.admits (threshold : Threshold) (level : Level) : Bool :=
  match threshold with
  | none => false
  | some most => level.rank ≤ most.rank

/-- The records that a threshold lets through. -/
def atLevel (threshold : Threshold) (records : List Record) : List Record :=
  records.filter fun entry => threshold.admits entry.level

/-- The threshold with a given name in any case. -/
def Threshold.ofName? (name : String) : Option Threshold :=
  match String.ofList (name.toList.map Char.toLower) with
  | "off" => some none
  | "error" => some (some .error)
  | "warn" => some (some .warn)
  | "info" => some (some .info)
  | "debug" => some (some .debug)
  | "trace" => some (some .trace)
  | _ => none

end UnitLinker.Journal
