import UnitLinker.Text.Split
import UnitLinker.Text.Align

/-!
# Paths as text

A path is the text that a user wrote, with slashes between its segments. Empty
segments and single dots do not count, except for a dot that starts a relative
path. Operations keep the text of the segments that count and of all that
stands between them.
-/

namespace UnitLinker.Path

/-- Whether a path starts at the root. -/
def isRooted (path : String) : Bool := path.toList.head? = some '/'

/-- The segments of a path, each with whether it counts. -/
def marked (path : String) : List (Bool × String) :=
  match Text.split '/' path with
  | [] => []
  | first :: rest =>
    (first ≠ "", first) :: rest.map (fun segment => (segment ≠ "" && segment ≠ ".", segment))

/-- The text of segments in order; without segments it is the root or nothing. -/
def textOf (rooted : Bool) (segments : List (Bool × String)) : String :=
  if segments.isEmpty then (if rooted then "/" else "")
  else Text.joined "/" (segments.map Prod.snd)

/-- Drops the segments at the front that do not count. -/
def trimmed (segments : List (Bool × String)) : List (Bool × String) :=
  segments.dropWhile (fun segment => !segment.1)

/-- Ancestors of a path whose segments are given last first. -/
def ancestorsFrom (rooted : Bool) : List (Bool × String) → List String
  | [] => []
  | (false, _) :: rest => ancestorsFrom rooted rest
  | (true, _) :: rest => textOf rooted (trimmed rest).reverse :: ancestorsFrom rooted rest

/-- The paths above a path, nearest first. -/
def ancestors (path : String) : List String :=
  ancestorsFrom (isRooted path) (marked path).reverse

/-- The path above a path; the root and the empty path have none. -/
def parent? (path : String) : Option String := (ancestors path).head?

/-- The last segment of a path, if it is a name. -/
def fileName? (path : String) : Option String :=
  match trimmed (marked path).reverse with
  | (_, segment) :: _ => if segment = "." || segment = ".." then none else some segment
  | [] => none

/-- A path seen from a directory; a rooted path does not change. -/
def join (directory path : String) : String :=
  if isRooted path || directory = "" then path
  else if directory.toList.getLast? = some '/' then directory ++ path
  else directory ++ "/" ++ path

/-- A path with another name in place of its last one. -/
def withFileName (path name : String) : String :=
  match fileName? path, parent? path with
  | some _, some above => join above name
  | _, _ => join path name

/-- What remains of segments after those of a directory. -/
def stripFront : List String → List (Bool × String) → Option (List (Bool × String))
  | [], segments => some segments
  | _ :: _, [] => none
  | name :: names, (false, _) :: rest => stripFront (name :: names) rest
  | name :: names, (true, segment) :: rest =>
    if segment = name then stripFront names rest else none

/-- A path below a directory as seen from there; any other path does not change. -/
def relativeTo (directory path : String) : String :=
  let names := ((marked directory).filter Prod.fst).map Prod.snd
  if isRooted directory ≠ isRooted path then path
  else match stripFront names (marked path) with
    | some rest => textOf false (trimmed (trimmed rest).reverse).reverse
    | none => path

end UnitLinker.Path
