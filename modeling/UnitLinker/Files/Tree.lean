import UnitLinker.Binary.Utf8
import UnitLinker.Files.Path

/-!
# File trees

A snapshot of a file system without links: directories hold files and further
directories under names. Paths are followed segment by segment from the root or
from the working directory, and every operation fails in the way in which the
operating system words it. Names and paths have a greatest length in bytes.
-/

namespace UnitLinker.Files

open Binary (Bytes)

/-- Why a file operation fails. -/
inductive FileError where
  | notFound
  | exists
  | notDirectory
  | isDirectory
  /-- A name or a path has too many bytes. -/
  | nameTooLong
  /-- A path has a null character in it. -/
  | nullInPath
  /-- A file that is read as text does not hold text. -/
  | notText
  deriving DecidableEq, Repr

/-- The text of a file error. -/
def FileError.text : FileError → String
  | .notFound => "No such file or directory (os error 2)"
  | .exists => "File exists (os error 17)"
  | .notDirectory => "Not a directory (os error 20)"
  | .isDirectory => "Is a directory (os error 21)"
  | .nameTooLong => "File name too long (os error 36)"
  | .nullInPath => "file name contained an unexpected NUL byte"
  | .notText => "stream did not contain valid UTF-8"

/-- The most bytes that a name can have. -/
def nameLimit : Nat := 255

/-- The most bytes that a path can have. -/
def pathLimit : Nat := 4095

/-- A place in the tree: the names from the root. -/
abbrev Place := List String

/-- What stands under a name. -/
inductive Node where
  | file (content : Bytes)
  | directory (entries : List (String × Node))

namespace Node

/-- What a directory holds; a file holds nothing. -/
def entries : Node → List (String × Node)
  | .file _ => []
  | .directory entries => entries

/-- What stands under a name in a directory. -/
def child? (node : Node) (name : String) : Option Node := node.entries.lookup name

/-- What stands at a place below a node. -/
def find? (node : Node) : Place → Option Node
  | [] => some node
  | name :: rest => match node.child? name with
    | some child => child.find? rest
    | none => none

/-- Whether a node is a directory. -/
def isDirectory : Node → Bool
  | .file _ => false
  | .directory _ => true

/-- Entries with another node under a name; a new name comes last. -/
def replaceEntry (name : String) (node : Node) : List (String × Node) → List (String × Node)
  | [] => [(name, node)]
  | entry :: rest =>
    if entry.1 = name then (name, node) :: rest else entry :: replaceEntry name node rest

/-- A node with something at a place below it. Directories on the way are made. -/
def put (node : Node) (place : Place) (value : Node) : Node :=
  match place with
  | [] => value
  | name :: rest =>
    let below := ((node.child? name).getD (.directory [])).put rest value
    .directory (replaceEntry name below node.entries)

mutual

/-- Everything from a node downwards with its place: the content of each file, and
nothing for a directory. -/
def listing : Node → List (Place × Option Bytes)
  | .file content => [([], some content)]
  | .directory entries => ([], none) :: listingOf entries

/-- Everything in the entries of a directory. -/
def listingOf : List (String × Node) → List (Place × Option Bytes)
  | [] => []
  | (name, node) :: rest =>
    node.listing.map (fun item => (name :: item.1, item.2)) ++ listingOf rest

end

end Node

/-- A snapshot of a file system. -/
structure Tree where
  root : Node
  /-- The place that relative paths start from. -/
  working : Place

/-- Where following a path has led to. -/
structure Position where
  /-- The names from the root, the last one first. -/
  names : List String
  node : Node
  /-- The directories above, the nearest one first. -/
  above : List Node

namespace Position

/-- The place of a position. -/
def place (position : Position) : Place := position.names.reverse

/-- The position that one segment leads to. -/
def follow (position : Position) (segment : String) : Except FileError Position :=
  match position.node with
  | .file _ => .error .notDirectory
  | .directory _ =>
    if segment = "" || segment = "." then .ok position
    else if segment = ".." then
      match position.above, position.names with
      | parent :: above, _ :: names => .ok ⟨names, parent, above⟩
      | _, _ => .ok position
    else if nameLimit < segment.utf8ByteSize then .error .nameTooLong
    else match position.node.child? segment with
      | some child => .ok ⟨segment :: position.names, child, position.node :: position.above⟩
      | none => .error .notFound

/-- The position that several segments lead to. -/
def followAll (position : Position) (segments : List String) : Except FileError Position :=
  segments.foldlM follow position

end Position

namespace Tree

/-- The tree that holds nothing but the working directory. -/
def bare (working : Place) : Tree := ⟨(Node.directory []).put working (.directory []), working⟩

/-- What stands at a place. -/
def node? (tree : Tree) (place : Place) : Option Node := tree.root.find? place

/-- The tree with something at a place. -/
def set (tree : Tree) (place : Place) (node : Node) : Tree := ⟨tree.root.put place node, tree.working⟩

/-- Everything in the tree with its place. -/
def listing (tree : Tree) : List (Place × Option Bytes) := tree.root.listing

/-- The rooted path of a place. -/
def pathOf (place : Place) : String := "/" ++ Text.joined "/" place

/-- The working directory as a path. -/
def workingPath (tree : Tree) : String := pathOf tree.working

/-- The position of the root. -/
def top (tree : Tree) : Position := ⟨[], tree.root, []⟩

/-- The segments of a path from the root. -/
def route (tree : Tree) (path : String) : List String :=
  if Path.isRooted path then Text.split '/' path else tree.working ++ Text.split '/' path

/-- Checks that a path can be followed at all. -/
def checkPath (path : String) : Except FileError Unit := do
  if path.toList.contains (Char.ofNat 0) then throw .nullInPath
  if path = "" then throw .notFound
  if pathLimit < path.utf8ByteSize then throw .nameTooLong

/-- The position that a path leads to. -/
def resolve (tree : Tree) (path : String) : Except FileError Position := do
  checkPath path
  tree.top.followAll (tree.route path)

/-- Whether a path leads to a file or a directory. -/
def exists? (tree : Tree) (path : String) : Bool := (tree.resolve path).toBool

/-- Whether a path leads to a directory. -/
def isDirectory (tree : Tree) (path : String) : Bool :=
  match tree.resolve path with
  | .ok position => position.node.isDirectory
  | .error _ => false

/-- The content of the file that a path leads to. -/
def read (tree : Tree) (path : String) : Except FileError Bytes := do
  let position ← tree.resolve path
  match position.node with
  | .file content => return content
  | .directory _ => throw .isDirectory

/-- The content of a file as text. -/
def readText (tree : Tree) (path : String) : Except FileError String := do
  let content ← tree.read path
  match Binary.Utf8.decode content with
  | .ok text => return text
  | .error _ => throw .notText

/-- Where a new name goes: the directory above it, the name, and whether slashes
follow the name. -/
structure Slot where
  above : Position
  name : String
  slashed : Bool

/-- The place of a slot. -/
def Slot.place (slot : Slot) : Place := slot.above.place ++ [slot.name]

/-- What is in a slot. -/
def Slot.node? (slot : Slot) : Except FileError (Option Node) :=
  if nameLimit < slot.name.utf8ByteSize then .error .nameTooLong
  else .ok (slot.above.node.child? slot.name)

/-- The slot of the last name of a path; none if the path does not end in a name. -/
def slot? (tree : Tree) (path : String) : Except FileError (Option Slot) := do
  checkPath path
  let segments := Text.split '/' path
  match segments.reverse.dropWhile (· = "") with
  | [] => return none
  | last :: earlier =>
    let start := if Path.isRooted path then [] else tree.working
    let above ← tree.top.followAll (start ++ earlier.reverse)
    match above.node with
    | .file _ => throw .notDirectory
    | .directory _ =>
      if last = "." || last = ".." then return none
      else return some ⟨above, last, segments.getLast? = some ""⟩

/-- Makes a directory. -/
def makeDirectory (tree : Tree) (path : String) : Except FileError Tree := do
  match ← tree.slot? path with
  | none => throw .exists
  | some slot =>
    match ← slot.node? with
    | some _ => throw .exists
    | none => return tree.set slot.place (.directory [])

/-- Makes the first of several directories, each of which is above the one before it,
and as many of the others as are missing. -/
def makeDirectories (tree : Tree) : List String → Except FileError Tree
  | [] => .ok tree
  | path :: above =>
    if path = "" then .ok tree
    else match tree.makeDirectory path with
      | .ok made => .ok made
      | .error .notFound => do
        let tree ← tree.makeDirectories above
        match tree.makeDirectory path with
        | .ok made => return made
        | .error error => if tree.isDirectory path then return tree else throw error
      | .error error => if tree.isDirectory path then .ok tree else .error error

/-- Writes a file, which replaces one that is there. -/
def write (tree : Tree) (path : String) (content : Bytes) : Except FileError Tree := do
  match ← tree.slot? path with
  | none => throw .isDirectory
  | some slot =>
    if slot.slashed then throw .isDirectory
    match ← slot.node? with
    | some (.directory _) => throw .isDirectory
    | _ => return tree.set slot.place (.file content)

/-- Writes a file and makes the directories above it. -/
def writeWithParents (tree : Tree) (path : String) (content : Bytes) : Except FileError Tree := do
  let tree ← tree.makeDirectories (Path.ancestors path)
  tree.write path content

/-- Whether two paths lead to the same place. -/
def samePlace (tree : Tree) (left right : String) : Bool :=
  match tree.resolve left, tree.resolve right with
  | .ok first, .ok second => first.names = second.names
  | _, _ => false

end Tree

end UnitLinker.Files
