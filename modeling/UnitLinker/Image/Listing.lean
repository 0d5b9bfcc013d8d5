import UnitLinker.Image.Basic
import UnitLinker.Instruction.Listing

/-!
# The listing of an image

The global table, then the code of every section of every unit under a heading.
References carry the names of the variables and routines that they lead to.
-/

namespace UnitLinker.Image

/-- Every routine with its address and qualified name, in unit order and then in
declaration order. -/
def routineNames (image : Image) : List (UInt64 × String) :=
  image.units.entries.flatMap fun unit =>
    unit.2.routines.entries.map fun routine => (routine.2.address, s!"{unit.1}.{routine.1}")

/-- The name of the routine at an address; of several routines, the last one. -/
def routineAt? (image : Image) (address : UInt64) : Option String :=
  image.routineNames.reverse.lookup address

/-- References with the names of what they lead to. -/
def style (image : Image) : OperandStyle where
  var
    | .global slot => match image.globals[slot.toNat]? with
      | some owner => s!"G{slot} ({owner.text})"
      | none => s!"G{slot}"
    | other => other.render
  target := JumpTarget.render
  callee
    | .address address => match image.routineAt? address with
      | some name => s!"@{address} ({name})"
      | none => s!"@{address}"
    | other => other.render

/-- The code of one section of one unit. -/
structure ListingBlock where
  kind : UnitKind
  unit : String
  stream : Section
  /-- Address of the first instruction. -/
  base : Nat
  code : List Instruction
  deriving DecidableEq, Repr

namespace ListingBlock

/-- The heading of a block. -/
def heading (block : ListingBlock) : String :=
  s!"* {block.kind.text} {block.unit} {block.stream.text}:"

/-- A block as text. -/
def text (style : OperandStyle) (block : ListingBlock) : String :=
  block.heading ++ "\n" ++ Instruction.listText style block.base block.code ++ "\n"

end ListingBlock

/-- The block of a section. An empty or reversed range has none, and a range past
the end of the instructions is a fault. -/
def listingBlock? (image : Image) (unit : String) (map : UnitMap) (stream : Section) :
    Except Fault (Option ListingBlock) :=
  let range := map.block stream
  if range.stop ≤ range.start then .ok none
  else if image.instructions.length < range.stop.toNat then .error .outOfRange
  else .ok (some ⟨map.kind, unit, stream, range.start.toNat,
    (image.instructions.drop range.start.toNat).take (range.stop.toNat - range.start.toNat)⟩)

/-- The blocks of a listing in the order of units and sections. -/
def listingBlocks (image : Image) : Except Fault (List ListingBlock) := do
  let blocks ← (image.units.entries.flatMap fun unit => Section.all.map fun stream =>
    (unit.1, unit.2, stream)).mapM fun part => image.listingBlock? part.1 part.2.1 part.2.2
  return blocks.filterMap id

/-- The lines of the global table. -/
def globalLines (image : Image) : List String :=
  image.globals.zipIdx.map fun entry => s!"{entry.2}: {entry.1.text}"

/-- An image as text. -/
def listing (image : Image) : Except Fault String := do
  let blocks ← image.listingBlocks
  let style := image.style
  return Text.lines ("* Globals" :: image.globalLines ++ [""])
    ++ String.join (blocks.map (ListingBlock.text style))
    ++ s!"main: @{image.main}\n"

end UnitLinker.Image
