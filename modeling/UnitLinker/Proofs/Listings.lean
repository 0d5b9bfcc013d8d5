import Mathlib
import UnitLinker.Proofs.GlobalTable
import UnitLinker.Proofs.InstructionLists
import UnitLinker.Proofs.InstructionText

/-!
# Complete listings

A listing goes through the maps of the units and not through the code, and leaves out
sections without code. The sections of an image tile its code, so every address has one
line, in order and under the heading of the section that it belongs to.
-/

namespace UnitLinker

/-- The sections of a unit that have a heading: its initialization and finalization
blocks, and its body if there is code in it. -/
def UnitMap.headed (map : UnitMap) : List Section :=
  Section.all.filter fun stream => stream ≠ .body || map.body.start < map.body.stop

/-- A line of a listing shows an instruction: the address at the right of a column, a bar,
four blanks for each level of nesting, the mnemonic at the right of eight columns, and the
operands. -/
def Instruction.IsRecord (instruction : Instruction) (style : OperandStyle)
    (width depth address : Nat) (line : String) : Prop :=
  ∃ padding, padding + (toString address).length = width
    ∧ line = Text.blanks padding ++ toString address ++ "|" ++ Text.blanks (4 * depth)
      ++ (Text.alignRight 8 instruction.opcode.mnemonic ++ instruction.operandsIn style)

namespace Text

/-- A text that consists of lines, each with a line feed after it. -/
def IsWritten (text : String) (lines : List String) : Prop :=
  text = String.join (lines.map fun line => line ++ "\n")

theorem isWritten_lines (parts : List String) : IsWritten (lines parts) parts := rfl

/-- Lines that follow lines are written after them. -/
theorem IsWritten.append {text more : String} {lines moreLines : List String}
    (first : IsWritten text lines) (second : IsWritten more moreLines) :
    IsWritten (text ++ more) (lines ++ moreLines) := by
  rw [IsWritten, List.map_append, String.join_append, ← first, ← second]

/-- Texts that are made of lines are so one after another. -/
theorem IsWritten.flatMap {α : Type} {text : α → String} {lines : α → List String}
    (written : ∀ item, IsWritten (text item) (lines item)) (items : List α) :
    IsWritten (String.join (items.map text)) (items.flatMap lines) := by
  induction items with
  | nil => rfl
  | cons item rest ih =>
    rw [List.map_cons, String.join_cons, List.flatMap_cons]
    exact (written item).append ih

end Text

/-- The listing of an image has a line with an address and a text. -/
def Image.ListsAt (image : Image) (address : Nat) (text : String) : Prop :=
  ∃ listing front padding depth back, image.listing = .ok listing
    ∧ Text.IsWritten listing (front ++ (Text.blanks padding ++ toString address ++ "|"
      ++ Text.blanks (4 * depth) ++ text) :: back)

namespace Link

open Image (ListingBlock)

/-- The items of a list from one position up to another. -/
def slice {α : Type} (items : List α) (block : Block) : List α :=
  (items.drop block.start.toNat).take (block.stop.toNat - block.start.toNat)

/-- A section of a unit as a listing shows it. -/
structure PrintedSection where
  unit : String
  map : UnitMap
  stream : Section
  /-- What is below the heading: lines, each with the address that it is for. -/
  records : List (Nat × String)

namespace PrintedSection

/-- The addresses of a section. -/
def block (part : PrintedSection) : Block := part.map.block part.stream

/-- A heading, the records and an empty line. -/
def lines (part : PrintedSection) : List String :=
  s!"* {part.map.kind.text} {part.unit} {part.stream.text}:" :: part.records.map Prod.snd ++ [""]

end PrintedSection

/-- Sections of a listing that show all code of an image in its place. -/
structure IsCompleteListing (image : Image) (parts : List PrintedSection) : Prop where
  headings : parts.map (fun part => (part.unit, part.map, part.stream))
    = image.units.entries.flatMap fun entry =>
      entry.2.headed.map fun stream => (entry.1, entry.2, stream)
  /-- The records are those of the addresses from zero on. -/
  addresses : (parts.flatMap PrintedSection.records).map Prod.fst
    = List.range image.instructions.length
  /-- A record shows the instruction at its address. The column of addresses has room for
  the one after the section, and the nesting is that of the code of the section. -/
  records : ∀ part ∈ parts, ∀ place address line, part.records[place]? = some (address, line) →
    ∃ instruction : Instruction, image.instructions[address]? = some instruction
      ∧ instruction.IsRecord image.style (Nat.digits 10 part.block.stop.toNat).length
        (Instruction.nesting (slice image.instructions part.block) place) address line
  /-- A record is under the heading of the section that has its address, and no other
  section has it. -/
  inPlace : ∀ part ∈ parts, ∀ record ∈ part.records, ∀ name map stream,
    image.units.get? name = some map →
    (record.1 ∈ Set.Ico (map.block stream).start.toNat (map.block stream).stop.toNat
      ↔ name = part.unit ∧ stream = part.stream)
  /-- The number after a record is a word. -/
  numbersFit : ∀ part ∈ parts, ∀ record ∈ part.records, record.1 + 1 < Word.count

/-- The lines of a listing: the table of globals, sections and the main address. -/
def listingLines (image : Image) (parts : List PrintedSection) : List String :=
  "* Globals" :: (image.globals.zipIdx.map fun entry =>
      s!"{entry.2}: {entry.1.unit}.{entry.1.name}") ++ [""]
    ++ parts.flatMap PrintedSection.lines ++ [s!"main: @{image.main}"]

/-- A record of a section is a line of the listing. -/
theorem mem_listingLines {image : Image} {parts : List PrintedSection} {part : PrintedSection}
    {record : Nat × String} (isPart : part ∈ parts) (isRecord : record ∈ part.records) :
    record.2 ∈ listingLines image parts := by
  have below : record.2 ∈ part.lines := by
    rw [PrintedSection.lines, List.mem_append, List.mem_cons]
    exact .inl (.inr (List.mem_map.2 ⟨record, isRecord, rfl⟩))
  rw [listingLines, List.mem_append, List.mem_append]
  exact .inl (.inr (List.mem_flatMap.2 ⟨part, isPart, below⟩))

section Tilings

variable {first last : Nat} {blocks : List Block}

/-- The blocks of a tiling are between its ends. -/
theorem Tiles.bounds (tiles : Tiles first blocks last) :
    first ≤ last ∧ ∀ block ∈ blocks, first ≤ block.start.toNat ∧ block.stop.toNat ≤ last := by
  induction blocks generalizing first with
  | nil =>
    cases tiles
    simp
  | cons block rest ih =>
    obtain ⟨startEq, ordered, restTiles⟩ := tiles
    obtain ⟨restOrdered, restBounds⟩ := ih restTiles
    refine ⟨ordered.trans restOrdered, List.forall_mem_cons.2 ⟨⟨startEq.ge, restOrdered⟩, ?_⟩⟩
    intro other member
    exact ⟨ordered.trans (restBounds other member).1, (restBounds other member).2⟩

/-- No word stands in two blocks of a tiling. -/
theorem Tiles.eq_of_mem {α : Type} {items : List α} {block : α → Block} {word : Nat}
    {item other : α} (tiles : Tiles first (items.map block) last) (member : item ∈ items)
    (otherMember : other ∈ items)
    (inside : word ∈ Set.Ico (block item).start.toNat (block item).stop.toNat)
    (otherInside : word ∈ Set.Ico (block other).start.toNat (block other).stop.toNat) :
    item = other := by
  induction items generalizing first with
  | nil => cases member
  | cons head rest ih =>
    obtain ⟨_, _, restTiles⟩ := tiles
    -- the blocks after the first one start where it stops
    have after : ∀ later ∈ rest, (block head).stop.toNat ≤ (block later).start.toNat := by
      intro later isLater
      exact (restTiles.bounds.2 _ (List.mem_map.2 ⟨later, isLater, rfl⟩)).1
    rcases List.mem_cons.1 member with rfl | later
    · rcases List.mem_cons.1 otherMember with rfl | otherLater
      · rfl
      · exact absurd inside.2 (Nat.not_lt.2 ((after other otherLater).trans otherInside.1))
    · rcases List.mem_cons.1 otherMember with rfl | otherLater
      · exact absurd otherInside.2 (Nat.not_lt.2 ((after item later).trans inside.1))
      · exact ih restTiles later otherLater

/-- A slice that ends inside the list has its full length. -/
theorem length_slice {α : Type} {items : List α} {block : Block}
    (inside : block.stop.toNat ≤ items.length) :
    (slice items block).length = block.stop.toNat - block.start.toNat := by
  rw [slice, List.length_take, List.length_drop]
  omega

/-- A slice has what stands at its positions. -/
theorem getElem?_slice {α : Type} {items : List α} {block : Block} {place : Nat} {item : α}
    (found : (slice items block)[place]? = some item) :
    items[block.start.toNat + place]? = some item := by
  rw [slice, List.getElem?_take] at found
  split at found
  · rwa [List.getElem?_drop] at found
  · cases found

/-- A tiling cuts a list into parts, and numbering the parts numbers the list. -/
theorem Tiles.flatMap_slice {α : Type} {items : List α} (tiles : Tiles first blocks last)
    (inside : last ≤ items.length) :
    blocks.flatMap (fun block => (slice items block).zipIdx block.start.toNat)
      = ((items.drop first).take (last - first)).zipIdx first := by
  induction blocks generalizing first with
  | nil =>
    cases tiles
    simp
  | cons block rest ih =>
    obtain ⟨startEq, ordered, restTiles⟩ := tiles
    have restOrdered := restTiles.bounds.1
    have lengths : last - first = (block.stop.toNat - first) + (last - block.stop.toNat) := by omega
    have restStart : first + (block.stop.toNat - first) = block.stop.toNat := by omega
    have partLength : ((items.drop first).take (block.stop.toNat - first)).length
        = block.stop.toNat - first := by
      rw [List.length_take, List.length_drop]
      omega
    rw [List.flatMap_cons, ih restTiles, slice, startEq, lengths, List.take_add, List.zipIdx_append,
      partLength, List.drop_drop, restStart]

end Tilings

section Blocks

variable {image : Image} {name : String} {map : UnitMap} {stream : Section}

/-- All sections of an image with the units they belong to. -/
def sections (image : Image) : List (String × UnitMap × Section) :=
  image.units.entries.flatMap fun unit => Section.all.map fun stream => (unit.1, unit.2, stream)

/-- The addresses of a section. -/
abbrev sectionBlock (part : String × UnitMap × Section) : Block := part.2.1.block part.2.2

/-- A section as it is listed. -/
def shown (image : Image) (part : String × UnitMap × Section) : ListingBlock :=
  ⟨part.2.1.kind, part.1, part.2.2, (sectionBlock part).start.toNat,
    slice image.instructions (sectionBlock part)⟩

/-- Whether a section has code. -/
def hasCode (part : String × UnitMap × Section) : Bool :=
  (sectionBlock part).start < (sectionBlock part).stop

/-- The sections of an image are those of its units. -/
theorem mem_sections :
    (name, map, stream) ∈ sections image ↔ image.units.get? name = some map := by
  have all : stream ∈ Section.all := by cases stream <;> decide
  simp [sections, Table.get?_eq_some_iff, all]

/-- A section that ends inside the code has a block exactly if there is code in it. -/
theorem listingBlock?_eq {part : String × UnitMap × Section}
    (inside : (sectionBlock part).stop.toNat ≤ image.instructions.length) :
    image.listingBlock? part.1 part.2.1 part.2.2
      = .ok (if hasCode part then some (shown image part) else none) := by
  simp only [Image.listingBlock?, hasCode, shown, slice, decide_eq_true_eq]
  by_cases empty : (part.2.1.block part.2.2).stop ≤ (part.2.1.block part.2.2).start
  · rw [if_pos empty, if_neg (UInt64.not_lt.2 empty)]
  · rw [if_neg empty, if_neg (Nat.not_lt.2 inside), if_pos (UInt64.not_le.1 empty)]

/-- A listing has a block for every section that has code. -/
theorem listingBlocks_eq
    (inside : ∀ part ∈ sections image, (sectionBlock part).stop.toNat ≤ image.instructions.length) :
    image.listingBlocks = .ok (((sections image).filter hasCode).map (shown image)) := by
  have each : (sections image).mapM (fun part => image.listingBlock? part.1 part.2.1 part.2.2)
      = .ok ((sections image).map fun part =>
        if hasCode part then some (shown image part) else none) := by
    apply mapM_eq_ok.2
    rw [List.forall₂_map_right_iff, List.forall₂_same]
    intro part member
    exact listingBlock?_eq (inside part member)
  refine bind_eq_ok.2 ⟨_, each, congrArg Except.ok ?_⟩
  rw [List.filterMap_map, ← List.filterMap_eq_map, ← List.filterMap_eq_filter,
    List.filterMap_filterMap]
  apply List.filterMap_congr
  intro part _
  cases code : hasCode part <;> simp [code, Option.guard]

/-- Sections without code have no instructions. -/
theorem flatMap_filter_hasCode (image : Image) (parts : List (String × UnitMap × Section)) :
    (parts.filter hasCode).flatMap (fun part =>
        (slice image.instructions (sectionBlock part)).zipIdx (sectionBlock part).start.toNat)
      = (parts.map sectionBlock).flatMap fun block =>
        (slice image.instructions block).zipIdx block.start.toNat := by
  induction parts with
  | nil => rfl
  | cons part rest ih =>
    cases code : hasCode part with
    | true => simp [code, ih]
    | false =>
      have empty : slice image.instructions (sectionBlock part) = [] := by
        have none : (sectionBlock part).stop.toNat - (sectionBlock part).start.toNat = 0 := by
          simpa [hasCode, UInt64.le_iff_toNat_le, Nat.sub_eq_zero_iff_le] using code
        rw [slice, none, List.take_zero]
      simp [code, ih, empty]

/-- A section with its records. -/
def printed (image : Image) (part : String × UnitMap × Section) : PrintedSection :=
  let base := (sectionBlock part).start.toNat
  let code := slice image.instructions (sectionBlock part)
  ⟨part.1, part.2.1, part.2.2, (Instruction.listLines base code).map fun line =>
    (line.number, line.render image.style (Instruction.numberWidth base code.length))⟩

/-- The records of a section have consecutive numbers. -/
theorem map_fst_records (image : Image) (part : String × UnitMap × Section) :
    (printed image part).records.map Prod.fst
      = ((slice image.instructions (sectionBlock part)).zipIdx
        (sectionBlock part).start.toNat).map Prod.snd := by
  rw [printed, List.map_map, Instruction.listLines, List.map_map, List.zipIdx_map_snd,
    ← Instruction.length_withDepths 0, ← List.zipIdx_map_snd]
  rfl

/-- The lines of a section are written below each other. -/
theorem isWritten_printed (image : Image) (part : String × UnitMap × Section) :
    Text.IsWritten ((shown image part).text image.style) (printed image part).lines := by
  simp [Text.IsWritten, ListingBlock.text, ListingBlock.heading, PrintedSection.lines, printed,
    Instruction.listText, Text.lines, shown, String.join_append, String.join_cons,
    Function.comp_def, String.append_assoc]

/-- A record of a section is the line of an instruction of the image. -/
theorem printed_record {part : String × UnitMap × Section} {place address : Nat} {line : String}
    (inside : (sectionBlock part).stop.toNat ≤ image.instructions.length)
    (recorded : (printed image part).records[place]? = some (address, line)) :
    address = (sectionBlock part).start.toNat + place ∧ address < (sectionBlock part).stop.toNat
      ∧ ∃ instruction : Instruction, image.instructions[address]? = some instruction
        ∧ instruction.IsRecord image.style (Nat.digits 10 (sectionBlock part).stop.toNat).length
          (Instruction.nesting (slice image.instructions (sectionBlock part)) place)
          address line := by
  rw [printed, List.getElem?_map, Option.map_eq_some_iff] at recorded
  obtain ⟨shownLine, isLine, sameLine⟩ := recorded
  have short : place < (slice image.instructions (sectionBlock part)).length := by
    have below := (List.getElem?_eq_some_iff.1 isLine).1
    rwa [Instruction.length_listLines] at below
  have code := List.getElem?_eq_getElem short
  have length := length_slice inside
  rw [Instruction.getElem?_listLines _ code, Option.some.injEq] at isLine
  rw [← isLine, Prod.mk.injEq] at sameLine
  obtain ⟨rfl, rfl⟩ := sameLine
  have last : (sectionBlock part).start.toNat + (slice image.instructions (sectionBlock part)).length
      = (sectionBlock part).stop.toNat := by omega
  refine ⟨rfl, ?_, _, getElem?_slice code, ?_⟩
  · change (sectionBlock part).start.toNat + place < _
    omega
  · have width := Instruction.length_number (sectionBlock part).start.toNat code
    rw [last, Text.alignRight, String.length_append, Text.length_blanks] at width
    refine ⟨_, width, ?_⟩
    rw [Instruction.ListLine.render, Instruction.renderIn_eq]
    rfl

/-- The records of a section are those of its addresses. -/
theorem number_mem {part : String × UnitMap × Section} {record : Nat × String}
    (inside : (sectionBlock part).stop.toNat ≤ image.instructions.length)
    (member : record ∈ (printed image part).records) :
    record.1 ∈ Set.Ico (sectionBlock part).start.toNat (sectionBlock part).stop.toNat := by
  obtain ⟨place, recorded⟩ := List.mem_iff_getElem?.1 member
  obtain ⟨numberEq, below, _⟩ := printed_record inside recorded
  constructor
  · omega
  · exact below

end Blocks

variable {units : List ObjectUnit} {program : ObjectUnit} {options : Options} {image : Image}

/-- The sections of a unit fill its block. -/
theorem Turn.tiles_sections (turn : Turn units program options) :
    Tiles (extent Layout.codeLength turn.earlier) (Section.all.map turn.map.block)
      (extent Layout.codeLength (turn.earlier ++ [turn.unit])) := by
  have body := turn.toNat_base .body
  have init := turn.toNat_base .init
  have final := turn.toNat_base .final
  have stop := turn.toNat_stop
  simp only [UnitMap.base, sectionStart] at body init final
  simp only [Layout.codeLength] at stop
  simp only [Section.all, List.map_cons, List.map_nil, Tiles, UnitMap.block, turn.body_stop,
    extent_append, extent_cons, extent_nil, Layout.codeLength, true_and]
  omega

/-- The sections of an image tile its code. -/
theorem tiles_sections (linked : link units program options = .ok image) :
    Tiles 0 ((sections image).map sectionBlock) image.instructions.length := by
  obtain ⟨ordered, _, sequenced, _, _⟩ := link_eq_ok.1 linked
  have tiles : Tiles 0 (image.units.values.flatMap fun map => Section.all.map map.block) _ :=
    tiles_of_turns Turn.tiles_sections linked sequenced
  rw [← (holds_of_link linked sequenced).2.1, Table.values, List.flatMap_map] at tiles
  rw [sections, List.map_flatMap]
  simpa [sectionBlock, Function.comp_def] using tiles

/-- A section of a unit has code unless it is an empty body: the other two end in a
return at least. -/
theorem Turn.filter_hasCode (turn : Turn units program options) :
    (Section.all.map fun stream => (turn.unit.name, turn.map, stream)).filter hasCode
      = turn.map.headed.map fun stream => (turn.unit.name, turn.map, stream) := by
  have nonempty : ∀ stream, stream ≠ .body →
      (turn.map.block stream).start < (turn.map.block stream).stop := by
    intro stream isBlock
    have stop := turn.toNat_block_stop stream
    rw [UInt64.lt_iff_toNat_lt]
    cases stream with
    | body => exact absurd rfl isBlock
    | init =>
      simp only [Scope.trailer, UnitMap.base, List.length_singleton, UnitMap.block] at stop ⊢
      omega
    | final =>
      simp only [Scope.trailer, UnitMap.base, List.length_singleton, UnitMap.block] at stop ⊢
      omega
  rw [List.filter_map, UnitMap.headed]
  congr 1
  apply List.filter_congr
  intro stream _
  cases stream with
  | body => rfl
  | init => simpa [hasCode, sectionBlock] using nonempty .init (by decide)
  | final => simpa [hasCode, sectionBlock] using nonempty .final (by decide)

/-- Every section ends inside the code. -/
theorem section_stop_le (linked : link units program options = .ok image)
    {part : String × UnitMap × Section} (member : part ∈ sections image) :
    (sectionBlock part).stop.toNat ≤ image.instructions.length :=
  ((tiles_sections linked).bounds.2 _ (List.mem_map.2 ⟨part, member, rfl⟩)).2

/-- The sections with code in the order of a listing, with their records. -/
def printedSections (image : Image) : List PrintedSection :=
  ((sections image).filter hasCode).map (printed image)

/-- What a listing prints are sections of the image. -/
theorem exists_source_of_printed {part : PrintedSection} (member : part ∈ printedSections image) :
    ∃ source ∈ sections image, printed image source = part := by
  obtain ⟨source, isShown, printedAs⟩ := List.mem_map.1 member
  exact ⟨source, (List.mem_filter.1 isShown).1, printedAs⟩

/-- The sections of a linked image show all its code in its place. -/
theorem isCompleteListing_of_link (linked : link units program options = .ok image) :
    IsCompleteListing image (printedSections image) where
  headings := by
    rw [printedSections, List.map_map, sections, List.filter_flatMap, List.map_flatMap]
    apply List.flatMap_congr
    intro entry member
    obtain ⟨turn, nameEq, mapEq⟩ := Turn.exists_of_name linked (Table.get?_eq_some_iff.2 member)
    have headed := turn.filter_hasCode
    rw [nameEq, mapEq] at headed
    rw [headed, List.map_map]
    rfl
  addresses := by
    have tiles := tiles_sections linked
    rw [printedSections, List.flatMap_map, List.map_flatMap]
    simp only [map_fst_records]
    rw [← List.map_flatMap, flatMap_filter_hasCode, tiles.flatMap_slice le_rfl]
    simp [List.zipIdx_map_snd, List.range_eq_range']
  records := by
    intro part member place address line recorded
    obtain ⟨source, isSection, rfl⟩ := exists_source_of_printed member
    exact (printed_record (section_stop_le linked isSection) recorded).2.2
  inPlace := by
    intro part member record isRecord name map stream found
    obtain ⟨source, isSection, rfl⟩ := exists_source_of_printed member
    have inside := number_mem (section_stop_le linked isSection) isRecord
    constructor
    · intro otherInside
      have otherSection : (name, map, stream) ∈ sections image := mem_sections.2 found
      have same := (tiles_sections linked).eq_of_mem otherSection isSection otherInside inside
      rw [← same]
      exact ⟨rfl, rfl⟩
    · rintro ⟨rfl, rfl⟩
      have mapEq : image.units.get? source.1 = some source.2.1 := mem_sections.1 isSection
      cases found.symm.trans mapEq
      exact inside
  numbersFit := by
    intro part member record isRecord
    obtain ⟨source, isSection, rfl⟩ := exists_source_of_printed member
    have below := (number_mem (section_stop_le linked isSection) isRecord).2
    have bound := (sectionBlock source).stop.toNat_lt
    change record.1 + 1 < 2 ^ 64
    omega

/-- A listing consists of the lines of the sections with code, between the table of globals
and the main address. -/
theorem isWritten_listing (linked : link units program options = .ok image) :
    ∃ text, image.listing = .ok text
      ∧ Text.IsWritten text (listingLines image (printedSections image)) := by
  have blocks := listingBlocks_eq fun _ member => section_stop_le linked member
  refine ⟨_, bind_eq_ok.2 ⟨_, blocks, rfl⟩, ?_⟩
  have globals : image.globalLines = image.globals.zipIdx.map fun entry =>
      s!"{entry.2}: {entry.1.unit}.{entry.1.name}" := by
    simp [Image.globalLines, GlobalVar.text, toString, String.append_assoc]
  have main : Text.IsWritten s!"main: @{image.main}\n" [s!"main: @{image.main}"] := by
    simp [Text.IsWritten, String.join_cons, toString, String.append_assoc]
  rw [globals, List.map_map, listingLines, printedSections, List.flatMap_map]
  apply Text.IsWritten.append _ main
  exact (Text.isWritten_lines _).append (Text.IsWritten.flatMap (isWritten_printed image) _)

/-- Every instruction of an image has a line in its listing. -/
theorem listsAt_of_link (linked : link units program options = .ok image) {address : Nat}
    {instruction : Instruction} (found : image.instructions[address]? = some instruction) :
    image.ListsAt address (instruction.renderIn image.style) := by
  have complete := isCompleteListing_of_link linked
  have listed : address ∈ ((printedSections image).flatMap PrintedSection.records).map Prod.fst := by
    rw [complete.addresses]
    exact List.mem_range.2 (List.getElem?_eq_some_iff.1 found).1
  obtain ⟨⟨_, line⟩, member, rfl⟩ := List.mem_map.1 listed
  obtain ⟨part, isPart, isRecord⟩ := List.mem_flatMap.1 member
  obtain ⟨place, recorded⟩ := List.mem_iff_getElem?.1 isRecord
  obtain ⟨same, sameFound, padding, _, rfl⟩ := complete.records part isPart place _ line recorded
  cases found.symm.trans sameFound
  obtain ⟨text, written, lines⟩ := isWritten_listing linked
  have isLine : _ ∈ listingLines image (printedSections image) :=
    mem_listingLines isPart isRecord
  obtain ⟨front, back, split⟩ := List.append_of_mem isLine
  rw [split] at lines
  rw [Instruction.renderIn_eq]
  exact ⟨text, front, padding, _, back, written, lines⟩

/-- Printing an image does not fail. The listing consists of the table of globals, the records
of all addresses under their headings, and the main address. -/
theorem listing_complete (linked : link units program options = .ok image) :
    ∃ text parts, image.listing = .ok text ∧ Text.IsWritten text (listingLines image parts)
      ∧ IsCompleteListing image parts := by
  obtain ⟨text, listed, written⟩ := isWritten_listing linked
  exact ⟨text, _, listed, written, isCompleteListing_of_link linked⟩

section Clock

/-- A unit with a routine that has a frame. -/
def clock : ObjectUnit :=
  (ObjectUnit.empty "Clock" .unit none).attemptAll
    [.var "ticks" .interface, .begin "tick" (.ofSignature ⟨[], none⟩ .interface),
      .emit (.enter 1 0), .emit (.load (.slot 0)), .emit .leave, .emit .ret]

def clockProgram : ObjectUnit :=
  (ObjectUnit.empty "Main" .program none).attemptAll
    [.use "Clock" none, .select .init, .emit (.call (.routine "tick") 0),
      .emit (.load (.named "ticks")), .emit .pop]

/-- The listing of the program. -/
def clockLines : List String :=
  ["* Globals", "0: Clock.ticks", "",
    "* unit Clock body:", "0|   enter level 1, 0 locals", "1|        load G0 (Clock.ticks)",
    "2|   leave", "3|     ret", "",
    "* unit Clock initialization:", "4|     ret", "",
    "* unit Clock finalization:", "5|     ret", "",
    "* program Main initialization:", " 6|    call @0 (Clock.tick)/0",
    " 7|    load G0 (Clock.ticks)", " 8|     pop", " 9|     ret", "",
    "* program Main finalization:", "10|     ret", "",
    "main: @6"]

-- The text is built line by line and compared as a whole.
set_option maxRecDepth 4000

/-- The whole listing as it is printed. -/
theorem listing_clock : ∃ image, link [clock] clockProgram .standard = .ok image
    ∧ image.listing = .ok (String.join (clockLines.map fun line => line ++ "\n")) := by
  have isOk : (link [clock] clockProgram .standard).isOk = true := by cbv
  have printed : (link [clock] clockProgram .standard).toOption.map Image.listing
      = some (.ok (String.join (clockLines.map fun line => line ++ "\n"))) := by cbv
  obtain ⟨image, linked⟩ := exists_ok_of_isOk isOk
  rw [linked] at printed
  exact ⟨image, linked, Option.some.inj printed⟩

end Clock

/-- The body of the program is empty and has no heading. -/
theorem listing_complete_clock :
    ∃ image, link [clock] clockProgram .standard = .ok image
      ∧ ∃ text parts, image.listing = .ok text ∧ Text.IsWritten text clockLines
        ∧ Text.IsWritten text (listingLines image parts) ∧ IsCompleteListing image parts := by
  obtain ⟨image, linked, printed⟩ := listing_clock
  obtain ⟨text, parts, listed, written, complete⟩ := listing_complete linked
  rw [listed, Except.ok.injEq] at printed
  exact ⟨image, linked, text, parts, listed, printed, written, complete⟩

end Link

end UnitLinker
