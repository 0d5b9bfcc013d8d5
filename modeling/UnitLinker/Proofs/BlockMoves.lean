import Mathlib
import UnitLinker.Proofs.BuiltUnits
import UnitLinker.Proofs.ControlFlow
import UnitLinker.Proofs.References

/-!
# Moved blocks

Two images may have the blocks of a unit at different places. A word of the one
corresponds to the word of the other at the same offset in the block of the same
unit, and an instruction to the same instruction with a corresponding operand. Runs
that place the same units put corresponding instructions at corresponding addresses.
-/

namespace UnitLinker

/-- A word that stands in a block, so many words after its start. -/
def Block.IsAt (block : Block) (offset word : Nat) : Prop :=
  word = block.start.toNat + offset ∧ word < block.stop.toNat

/-- The block that a unit takes in a space. -/
def UnitMap.taken (map : UnitMap) : SpaceKind → Block
  | .globals => map.globals
  | .code => map.code

/-- The map of a unit as it is when its blocks start at zero. -/
def UnitMap.relative (map : UnitMap) : UnitMap :=
  let slot (word : UInt64) := word - map.globals.start
  let address (word : UInt64) := word - map.body.start
  ⟨map.kind, ⟨slot map.globals.start, slot map.globals.stop⟩,
    ⟨address map.body.start, address map.body.stop⟩, address map.init, address map.final,
    address map.stop,
    map.routines.map fun _ symbol => ⟨address symbol.address, symbol.visibility, symbol.signature,
      symbol.depth, symbol.locals⟩,
    map.vars.map fun _ symbol => ⟨slot symbol.global, symbol.visibility⟩, map.types⟩

/-- Whether an operand is a place of a linked program already. -/
def Operand.isPlaced : Operand → Bool
  | .var (.global _) | .target (.address _) | .callee (.address _) => true
  | _ => false

/-- The number of words that an image takes in a space. -/
def Image.size (image : Image) : SpaceKind → Nat
  | .globals => image.globals.length
  | .code => image.instructions.length

/-- The space in which symbols have their places. -/
def SymbolKind.space : SymbolKind → SpaceKind
  | .var => .globals
  | .routine => .code

/-- The place of a symbol that a unit declares, in the unit itself. -/
def ObjectUnit.offset? (unit : ObjectUnit) (name : String) : SymbolKind → Option UInt64
  | .var => (unit.vars.get? name).map Variable.slot
  | .routine => (unit.routines.get? name).map Routine.entry

namespace Link

/-- The number of words that a unit takes in a space. -/
def wordCount : SpaceKind → ObjectUnit → Nat
  | .globals => slotCount
  | .code => Layout.codeLength

/-- The map of a unit whose blocks start at zero. -/
def mapAtZero (unit : ObjectUnit) : UnitMap :=
  mapIn unit ⟨⟨0, UInt64.ofNat unit.vars.size⟩, ⟨0, UInt64.ofNat (Layout.codeLength unit)⟩,
    .fresh .globals 0, .fresh .code 0⟩

section Words

/-- Words of two images at the same offset in the block of the same unit. -/
def SameWord (space : SpaceKind) (first second : Image) (word other : Nat) : Prop :=
  ∃ name map otherMap offset, first.units.get? name = some map
    ∧ second.units.get? name = some otherMap ∧ (map.taken space).IsAt offset word
    ∧ (otherMap.taken space).IsAt offset other

/-- A relation that pairs each number below one bound with one number below another. -/
structure IsPairing (related : Nat → Nat → Prop) (size otherSize : Nat) : Prop where
  inside : ∀ word other, related word other → word < size ∧ other < otherSize
  exists_other : ∀ word < size, ∃! other, related word other
  exists_word : ∀ other < otherSize, ∃! word, related word other

variable {space : SpaceKind} {first second : Image} {word other : Nat}

/-- Words that correspond do so in both directions. -/
theorem SameWord.symm (same : SameWord space first second word other) :
    SameWord space second first other word := by
  obtain ⟨name, map, otherMap, offset, found, otherFound, isAt, otherAt⟩ := same
  exact ⟨name, otherMap, map, offset, otherFound, found, otherAt, isAt⟩

end Words

section Turns

variable {units : List ObjectUnit} {program : ObjectUnit} {options : Options} {image : Image}
  {ordered : List ObjectUnit} {turn : Turn units program options} {space : SpaceKind}

namespace Turn

/-- The words of a unit start after those of the units before it. -/
theorem toNat_taken_start (turn : Turn units program options) (space : SpaceKind) :
    (turn.map.taken space).start.toNat = extent (wordCount space) turn.earlier := by
  cases space with
  | globals => exact turn.toNat_globals_start
  | code => exact turn.toNat_base .body

/-- The words of a unit end as many words later as it has. -/
theorem toNat_taken_stop (turn : Turn units program options) (space : SpaceKind) :
    (turn.map.taken space).stop.toNat
      = extent (wordCount space) turn.earlier + wordCount space turn.unit := by
  cases space with
  | globals => exact turn.toNat_globals_stop
  | code => exact turn.toNat_stop

/-- The words of a unit's block. -/
theorem isAt_iff {offset word : Nat} :
    (turn.map.taken space).IsAt offset word
      ↔ offset < wordCount space turn.unit
        ∧ word = extent (wordCount space) turn.earlier + offset := by
  rw [Block.IsAt, turn.toNat_taken_start, turn.toNat_taken_stop]
  omega

/-- Counting on from the start of a block is exact inside of it. -/
theorem toNat_taken_add (turn : Turn units program options) {offset : UInt64}
    (inside : offset.toNat < wordCount space turn.unit) :
    ((turn.map.taken space).start + offset).toNat
      = extent (wordCount space) turn.earlier + offset.toNat := by
  have start := turn.toNat_taken_start space
  have stop := turn.toNat_taken_stop space
  have bound := (turn.map.taken space).stop.toNat_lt
  rw [toNat_add_word (by omega), start]

/-- Where a unit is placed shows in its map by the starts of its blocks alone. -/
theorem relative_map (turn : Turn units program options) :
    turn.map.relative = mapAtZero turn.unit := by
  obtain ⟨_, _, reservationEq⟩ := Layout.reserve_eq_ok.1 turn.reserved
  rw [turn.map_eq, reservationEq]
  simp only [mapAtZero, mapIn, UnitMap.relative, Table.map_map, sub_self, add_sub_cancel_left,
    zero_add, add_assoc]

/-- The symbols of a placed unit are where its declarations say, counted from the start
of its block. -/
theorem own_eq (turn : Turn units program options) (kind : SymbolKind) (name : String) :
    kind.lookup.own turn.map name
      = (turn.unit.offset? name kind).map ((turn.map.taken kind.space).start + ·) := by
  rw [turn.map_eq]
  cases kind with
  | var =>
    simp only [SymbolKind.lookup, SymbolLookup.vars, mapIn, Table.get?_map, ObjectUnit.offset?,
      Option.map_map]
    rfl
  | routine =>
    simp only [SymbolKind.lookup, SymbolLookup.routines, mapIn, Table.get?_map, ObjectUnit.offset?,
      Option.map_map]
    rfl

/-- Every place of an image is that of a declaration, counted from the start of a block. -/
theorem exists_offset_of_place (linked : link units program options = .ok image)
    {kind : SymbolKind} {owner name : String} {place : UInt64}
    (recorded : image.place? kind owner name = some place) :
    ∃ (turn : Turn units program options) (offset : UInt64), turn.unit.name = owner
      ∧ turn.unit.offset? name kind = some offset
      ∧ place = (turn.map.taken kind.space).start + offset := by
  rw [place?_image] at recorded
  obtain ⟨map, found, own⟩ := Option.bind_eq_some_iff.1 recorded
  obtain ⟨turn, rfl, rfl⟩ := exists_of_name linked found
  rw [turn.own_eq] at own
  obtain ⟨offset, declared, placeEq⟩ := Option.map_eq_some_iff.1 own
  exact ⟨turn, offset, rfl, declared, placeEq.symm⟩

/-- The entry of a routine of a placed unit is inside its body. -/
theorem routine_entry_lt (turn : Turn units program options) {name : String} {entry : UInt64}
    (declared : turn.unit.offset? name .routine = some entry) :
    entry.toNat < turn.unit.code.body.length := by
  obtain ⟨routine, found, rfl⟩ := Option.map_eq_some_iff.1 declared
  exact (Layout.unitMap_eq_ok.1 turn.mapped).1 _ (Table.get?_eq_some_iff.1 found)

/-- What a unit with its slots in order declares is among its words. -/
theorem offset_lt (turn : Turn units program options) (inOrder : turn.unit.SlotsInOrder)
    {kind : SymbolKind} {name : String} {offset : UInt64}
    (declared : turn.unit.offset? name kind = some offset) :
    offset.toNat < wordCount kind.space turn.unit := by
  cases kind with
  | var =>
    obtain ⟨entry, found, rfl⟩ := Option.map_eq_some_iff.1 declared
    exact inOrder.slot_lt_size (Table.get?_eq_some_iff.1 found)
  | routine =>
    have inside := turn.routine_entry_lt declared
    rw [SymbolKind.space, wordCount, Layout.codeLength]
    omega

end Turn

/-- An image has the words of all its units. -/
theorem size_of_link (linked : link units program options = .ok image)
    (sequenced : sequence units program options = .ok ordered) (space : SpaceKind) :
    image.size space = extent (wordCount space) ordered := by
  obtain ⟨_, code, globals⟩ := holds_of_link linked sequenced
  cases space with
  | globals =>
    rw [Image.size, globals]
    exact length_flatMap_ownedVars ordered
  | code => exact code

/-- Every word of an image stands in the block of a unit. -/
theorem exists_isAt (linked : link units program options = .ok image) {word : Nat}
    (inside : word < image.size space) :
    ∃ (turn : Turn units program options) (offset : Nat),
      (turn.map.taken space).IsAt offset word := by
  obtain ⟨ordered, _, sequenced, _, _⟩ := link_eq_ok.1 linked
  rw [size_of_link linked sequenced] at inside
  obtain ⟨earlier, unit, later, offset, rfl, owned, wordEq⟩ := exists_owner inside
  obtain ⟨turn, rfl, rfl⟩ := Turn.exists_of_linked linked sequenced
  exact ⟨turn, offset, Turn.isAt_iff.2 ⟨owned, wordEq⟩⟩

/-- A word of a unit is a word of the image. -/
theorem lt_size_of_isAt (linked : link units program options = .ok image) {offset word : Nat}
    (isAt : (turn.map.taken space).IsAt offset word) : word < image.size space := by
  obtain ⟨owned, rfl⟩ := Turn.isAt_iff.1 isAt
  rw [size_of_link linked turn.sequenced, extent_append, extent_cons]
  omega

/-- No word stands in the blocks of two units. -/
theorem isAt_unique (linked : link units program options = .ok image) {name otherName : String}
    {map otherMap : UnitMap} {offset otherOffset word : Nat}
    (found : image.units.get? name = some map)
    (otherFound : image.units.get? otherName = some otherMap)
    (isAt : (map.taken space).IsAt offset word)
    (otherAt : (otherMap.taken space).IsAt otherOffset word) :
    name = otherName ∧ offset = otherOffset := by
  obtain ⟨turn, rfl, rfl⟩ := Turn.exists_of_name linked found
  obtain ⟨other, rfl, rfl⟩ := Turn.exists_of_name linked otherFound
  obtain ⟨owned, wordEq⟩ := Turn.isAt_iff.1 isAt
  obtain ⟨otherOwned, otherWordEq⟩ := Turn.isAt_iff.1 otherAt
  have same := Except.ok.inj (turn.sequenced.symm.trans other.sequenced)
  obtain ⟨_, unitEq, offsetEq⟩ := owner_unique same owned otherOwned (wordEq.symm.trans otherWordEq)
  exact ⟨by rw [unitEq], offsetEq⟩

end Turns

section Operands

/-- Operands of two images that mean the same: a frame slot, or corresponding words. -/
inductive SameOperand (first second : Image) : Operand → Operand → Prop where
  | frame (depth slot : UInt64) :
      SameOperand first second (.var (.frame depth slot)) (.var (.frame depth slot))
  | global {slot other : UInt64}
      (same : SameWord .globals first second slot.toNat other.toNat) :
      SameOperand first second (.var (.global slot)) (.var (.global other))
  | jump {address other : UInt64}
      (same : SameWord .code first second address.toNat other.toNat) :
      SameOperand first second (.target (.address address)) (.target (.address other))
  | call {address other : UInt64}
      (same : SameWord .code first second address.toNat other.toNat) :
      SameOperand first second (.callee (.address address)) (.callee (.address other))

/-- Instructions of two images that are the same but for what their operands mean. -/
def SameInstruction (first second : Image) (source target : Instruction) : Prop :=
  match source.operand? with
  | none => target = source
  | some operand => ∃ moved, SameOperand first second operand moved
      ∧ target = source.withOperand moved

/-- A unit without operands that are places of a linked program already. -/
def IsRelocatable (unit : ObjectUnit) : Prop :=
  ∀ stream, ∀ instruction ∈ unit.code.stream stream,
    instruction.operand?.any Operand.isPlaced = false

variable {first second : Image} {scope : Scope} {stream : Section} {operand moved other : Operand}

/-- Operands that lead to corresponding words correspond. -/
theorem sameOperand_of_sameWord {kind : SymbolKind} {place otherPlace : UInt64}
    (same : SameWord kind.space first second place.toNat otherPlace.toNat) :
    SameOperand first second (kind.linkedOperand place) (kind.linkedOperand otherPlace) := by
  cases kind with
  | var => exact .global same
  | routine => exact .call same

/-- Relocating one instruction with operands that mean the same gives instructions that
are the same. -/
theorem sameInstruction_of_sameOperand {source : Instruction}
    (has : source.operand? = some operand)
    (relocated : scope.relocateOperand stream operand = .ok moved)
    (same : SameOperand first second moved other) :
    SameInstruction first second (source.withOperand moved) (source.withOperand other) := by
  have movedHas : (source.withOperand moved).operand? = some moved
      ∧ (source.withOperand moved).withOperand other = source.withOperand other := by
    cases source <;> simp only [Instruction.operand?, Option.some.injEq, reduceCtorEq] at has <;>
      subst has <;> obtain ⟨target, _, rfl⟩ := map_eq_ok.1 relocated <;> cases same <;>
      exact ⟨rfl, rfl⟩
  rw [SameInstruction, movedHas.1]
  exact ⟨other, same, movedHas.2.symm⟩

end Operands

section Agreement

variable {units others : List ObjectUnit} {program otherProgram : ObjectUnit}
  {options otherOptions : Options} {first second : Image} {space : SpaceKind}

/-- Two runs in which a name stands for the same unit and the same symbols are exported. -/
structure RunsAgree (units others : List ObjectUnit) (program otherProgram : ObjectUnit)
    (options otherOptions : Options) : Prop where
  sameUnit : ∀ (turn : Turn units program options) (other : Turn others otherProgram otherOptions),
    turn.unit.name = other.unit.name → turn.unit = other.unit
  sameExports : exports units = exports others
  inOrder : ∀ turn : Turn units program options, turn.unit.SlotsInOrder

variable {turn : Turn units program options} {other : Turn others otherProgram otherOptions}

section Words

variable (linked : link units program options = .ok first)
  (otherLinked : link others otherProgram otherOptions = .ok second)
include linked otherLinked

/-- The same offset in a unit that both runs place. -/
theorem sameWord_of_turns (sameUnit : turn.unit = other.unit) {offset : Nat}
    (inside : offset < wordCount space turn.unit) :
    SameWord space first second (extent (wordCount space) turn.earlier + offset)
      (extent (wordCount space) other.earlier + offset) := by
  have found := (turn.completed linked).1
  have otherFound := (other.completed otherLinked).1
  rw [← sameUnit] at otherFound
  refine ⟨turn.unit.name, turn.map, other.map, offset, found, otherFound, ?_, ?_⟩
  · exact Turn.isAt_iff.2 ⟨inside, rfl⟩
  · rw [sameUnit] at inside
    exact Turn.isAt_iff.2 ⟨inside, rfl⟩

/-- The words at one offset of a unit correspond. -/
theorem sameWord_of_add (sameUnit : turn.unit = other.unit) {offset : UInt64}
    (inside : offset.toNat < wordCount space turn.unit) :
    SameWord space first second ((turn.map.taken space).start + offset).toNat
      ((other.map.taken space).start + offset).toNat := by
  have otherInside := inside
  rw [sameUnit] at otherInside
  rw [turn.toNat_taken_add inside, other.toNat_taken_add otherInside]
  exact sameWord_of_turns linked otherLinked sameUnit inside

/-- The same position in a unit that both runs place. -/
theorem sameWord_of_addressOf (sameUnit : turn.unit = other.unit) {position : CodeOffset}
    {word otherWord : UInt64} (addressed : turn.scope.addressOf position = .ok word)
    (otherAddressed : other.scope.addressOf position = .ok otherWord) :
    SameWord .code first second word.toNat otherWord.toNat := by
  obtain ⟨inside, wordNat⟩ := turn.toNat_of_addressOf addressed
  obtain ⟨_, otherWordNat⟩ := other.toNat_of_addressOf otherAddressed
  rw [wordNat, otherWordNat, turn.toNat_base, other.toNat_base, ← sameUnit, Nat.add_assoc,
    Nat.add_assoc]
  exact sameWord_of_turns linked otherLinked sameUnit (sectionStart_add_lt inside)

variable (agree : RunsAgree units others program otherProgram options otherOptions)
include agree

/-- A symbol has corresponding places in both images. -/
theorem RunsAgree.sameWord_of_place {kind : SymbolKind} {owner name : String}
    {place otherPlace : UInt64}
    (recorded : first.place? kind owner name = some place)
    (otherRecorded : second.place? kind owner name = some otherPlace) :
    SameWord kind.space first second place.toNat otherPlace.toNat := by
  obtain ⟨turn, offset, rfl, declared, rfl⟩ := Turn.exists_offset_of_place linked recorded
  obtain ⟨other, otherOffset, sameName, otherDeclared, rfl⟩ :=
    Turn.exists_offset_of_place otherLinked otherRecorded
  have sameUnit := agree.sameUnit turn other sameName.symm
  rw [← sameUnit] at otherDeclared
  cases declared.symm.trans otherDeclared
  exact sameWord_of_add linked otherLinked sameUnit (turn.offset_lt (agree.inOrder turn) declared)

/-- References by name become operands that mean the same. -/
theorem RunsAgree.sameOperand_of_reference (sameUnit : turn.unit = other.unit) {stream : Section}
    {operand moved otherMoved : Operand} {reference : Reference}
    (refers : operand.reference? = some reference)
    (relocated : turn.scope.relocateOperand stream operand = .ok moved)
    (otherRelocated : other.scope.relocateOperand stream operand = .ok otherMoved) :
    SameOperand first second moved otherMoved := by
  rw [Scope.relocateOperand_of_reference refers] at relocated otherRelocated
  obtain ⟨place, resolved, rfl⟩ := map_eq_ok.1 relocated
  obtain ⟨otherPlace, otherResolved, rfl⟩ := map_eq_ok.1 otherRelocated
  obtain ⟨owner, bindsTo, recorded⟩ := Turn.exists_owner_of_resolve resolved
  obtain ⟨otherOwner, otherBindsTo, otherRecorded⟩ := Turn.exists_owner_of_resolve otherResolved
  rw [← sameUnit] at otherBindsTo
  cases (bindsTo.of_sameExports agree.sameExports).unique otherBindsTo
  exact sameOperand_of_sameWord (agree.sameWord_of_place linked otherLinked
    (Turn.place?_completed linked recorded) (Turn.place?_completed otherLinked otherRecorded))

/-- Both runs make operands that mean the same of an operand that is no place yet. -/
theorem RunsAgree.sameOperand (sameUnit : turn.unit = other.unit) {stream : Section}
    {operand moved otherMoved : Operand} (isOpen : operand.isPlaced = false)
    (relocated : turn.scope.relocateOperand stream operand = .ok moved)
    (otherRelocated : other.scope.relocateOperand stream operand = .ok otherMoved) :
    SameOperand first second moved otherMoved := by
  cases operand with
  | var var =>
    cases var with
    | named _ | qualified _ _ =>
      exact agree.sameOperand_of_reference linked otherLinked sameUnit rfl relocated otherRelocated
    | global _ => cases isOpen
    | frame depth slot =>
      cases relocated
      cases otherRelocated
      exact .frame depth slot
    | slot slot =>
      obtain ⟨_, varMoved, rfl⟩ := map_eq_ok.1 relocated
      obtain ⟨_, otherVarMoved, rfl⟩ := map_eq_ok.1 otherRelocated
      obtain ⟨inside, rfl⟩ := Scope.relocateVar_slot_eq_ok.1 varMoved
      obtain ⟨_, rfl⟩ := Scope.relocateVar_slot_eq_ok.1 otherVarMoved
      have insideBlock : slot.toNat < wordCount .globals turn.unit := inside
      exact .global (sameWord_of_add linked otherLinked sameUnit insideBlock)
  | target target =>
    obtain ⟨_, targetMoved, rfl⟩ := map_eq_ok.1 relocated
    obtain ⟨_, otherTargetMoved, rfl⟩ := map_eq_ok.1 otherRelocated
    cases target with
    | address _ => cases isOpen
    | offset offset =>
      obtain ⟨word, addressed, rfl⟩ := Scope.relocateTarget_offset_eq_ok.1 targetMoved
      obtain ⟨otherWord, otherAddressed, rfl⟩ :=
        Scope.relocateTarget_offset_eq_ok.1 otherTargetMoved
      exact .jump (sameWord_of_addressOf linked otherLinked sameUnit addressed otherAddressed)
    | label name =>
      obtain ⟨position, word, labelled, addressed, rfl⟩ :=
        Scope.relocateTarget_label_eq_ok.1 targetMoved
      obtain ⟨otherPosition, otherWord, otherLabelled, otherAddressed, rfl⟩ :=
        Scope.relocateTarget_label_eq_ok.1 otherTargetMoved
      have labelledThere : other.scope.unit.labels.get? name = some position := by
        rw [← labelled]
        exact congrArg (·.labels.get? name) sameUnit.symm
      cases labelledThere.symm.trans otherLabelled
      exact .jump (sameWord_of_addressOf linked otherLinked sameUnit addressed otherAddressed)
  | callee callee =>
    cases callee with
    | routine _ | qualified _ _ =>
      exact agree.sameOperand_of_reference linked otherLinked sameUnit rfl relocated otherRelocated
    | address _ => cases isOpen

/-- An instruction that is not linked yet becomes corresponding ones in both runs. -/
theorem RunsAgree.sameInstruction (sameUnit : turn.unit = other.unit) {stream : Section}
    {source target otherTarget : Instruction}
    (isOpen : source.operand?.any Operand.isPlaced = false)
    (relocated : turn.scope.relocate stream source = .ok target)
    (otherRelocated : other.scope.relocate stream source = .ok otherTarget) :
    SameInstruction first second target otherTarget := by
  cases has : source.operand? with
  | none =>
    rw [Scope.relocate_of_no_operand has] at relocated otherRelocated
    cases relocated
    cases otherRelocated
    rw [SameInstruction, has]
  | some operand =>
    rw [Scope.relocate_of_operand has] at relocated otherRelocated
    obtain ⟨moved, operandMoved, rfl⟩ := map_eq_ok.1 relocated
    obtain ⟨otherMoved, otherOperandMoved, rfl⟩ := map_eq_ok.1 otherRelocated
    rw [has] at isOpen
    exact sameInstruction_of_sameOperand has operandMoved
      (agree.sameOperand linked otherLinked sameUnit isOpen operandMoved otherOperandMoved)

/-- Both images have the same instruction at a position of a unit that both runs place. -/
theorem RunsAgree.exists_sameInstruction (sameUnit : turn.unit = other.unit)
    (relocatable : IsRelocatable turn.unit) {stream : Section} {offset : Nat}
    (inside : IsInside turn.unit stream offset) :
    ∃ source target, first.instructions[(turn.map.base stream).toNat + offset]? = some source
      ∧ second.instructions[(other.map.base stream).toNat + offset]? = some target
      ∧ SameInstruction first second source target := by
  cases found : (turn.unit.code.stream stream)[offset]? with
  | some original =>
    obtain ⟨source, relocated, standsAt⟩ := turn.image_source linked found
    have isOpen := relocatable stream original (List.mem_of_getElem? found)
    rw [sameUnit] at found
    obtain ⟨target, otherRelocated, otherStandsAt⟩ := other.image_source otherLinked found
    exact ⟨source, target, standsAt, otherStandsAt,
      agree.sameInstruction linked otherLinked sameUnit isOpen relocated otherRelocated⟩
  | none =>
    -- past the instructions of the section there is only the return of a block
    have atEnd := List.getElem?_eq_none_iff.1 found
    have last : offset = (turn.unit.code.stream stream).length := by
      cases stream <;> simp only [IsInside, Code.stream] at inside atEnd ⊢ <;> omega
    have otherInside := inside
    rw [last] at inside
    rw [last, sameUnit] at otherInside
    refine ⟨.ret, .ret, ?_, ?_, rfl⟩
    · rw [last]
      exact turn.image_return linked inside
    · rw [last, sameUnit]
      exact other.image_return otherLinked otherInside

/-- Both images have the same instruction at every offset in the block of a unit that both
runs place. -/
theorem RunsAgree.exists_sameInstruction_at (sameUnit : turn.unit = other.unit)
    (relocatable : IsRelocatable turn.unit) {offset : Nat}
    (inside : offset < wordCount .code turn.unit) :
    ∃ source target,
      first.instructions[extent (wordCount .code) turn.earlier + offset]? = some source
      ∧ second.instructions[extent (wordCount .code) other.earlier + offset]? = some target
      ∧ SameInstruction first second source target := by
  obtain ⟨stream, place, isInside, rfl⟩ := exists_section inside
  have same := agree.exists_sameInstruction linked otherLinked sameUnit relocatable isInside
  rw [turn.toNat_base, other.toNat_base, ← sameUnit, Nat.add_assoc, Nat.add_assoc] at same
  exact same

end Words

end Agreement

section Images

variable {units others : List ObjectUnit} {program otherProgram : ObjectUnit}
  {options otherOptions : Options} {first second : Image} {space : SpaceKind}

/-- Two images of the same units that differ in where the blocks of the units stand. -/
structure MovesBlocks (first second : Image) : Prop where
  /-- The same units, with the same lengths, symbols and types. -/
  maps : ∀ name, (first.units.get? name).map UnitMap.relative
    = (second.units.get? name).map UnitMap.relative
  /-- Blocks cover both images, so every word has its counterpart. -/
  words : ∀ space, IsPairing (SameWord space first second) (first.size space) (second.size space)
  instructions : ∀ address source, first.instructions[address]? = some source →
    ∃ other target, SameWord .code first second address other
      ∧ second.instructions[other]? = some target ∧ SameInstruction first second source target

/-- A word has one counterpart at most. -/
theorem SameWord.unique (linked : link units program options = .ok first) {word other third : Nat}
    (same : SameWord space first second word other)
    (sameThird : SameWord space first second word third) : other = third := by
  obtain ⟨name, map, otherMap, offset, found, otherFound, isAt, otherAt⟩ := same
  obtain ⟨thirdName, thirdMap, lastMap, lastOffset, thirdFound, lastFound, thirdAt, lastAt⟩ :=
    sameThird
  obtain ⟨rfl, rfl⟩ := isAt_unique linked found thirdFound isAt thirdAt
  cases otherFound.symm.trans lastFound
  exact otherAt.1.trans lastAt.1.symm

/-- Only words of the image correspond to any. -/
theorem SameWord.lt_size (linked : link units program options = .ok first) {word other : Nat}
    (same : SameWord space first second word other) : word < first.size space := by
  obtain ⟨name, map, otherMap, offset, found, _, isAt, _⟩ := same
  obtain ⟨turn, _, rfl⟩ := Turn.exists_of_name linked found
  exact lt_size_of_isAt linked isAt

/-- Every word of a unit that both runs place has a counterpart. -/
theorem exists_sameWord (linked : link units program options = .ok first)
    (otherLinked : link others otherProgram otherOptions = .ok second)
    (placed : ∀ turn : Turn units program options,
      ∃ other : Turn others otherProgram otherOptions, turn.unit = other.unit)
    {word : Nat} (inside : word < first.size space) :
    ∃! other, SameWord space first second word other := by
  obtain ⟨turn, offset, isAt⟩ := exists_isAt linked inside
  obtain ⟨other, sameUnit⟩ := placed turn
  obtain ⟨owned, rfl⟩ := Turn.isAt_iff.1 isAt
  have same := sameWord_of_turns linked otherLinked sameUnit owned
  exact ⟨_, same, fun third sameThird => sameThird.unique linked same⟩

/-- Runs that agree and place the same units give images that differ in where blocks
stand. -/
theorem RunsAgree.movesBlocks
    (agree : RunsAgree units others program otherProgram options otherOptions)
    (linked : link units program options = .ok first)
    (otherLinked : link others otherProgram otherOptions = .ok second)
    (relocatable : ∀ turn : Turn units program options, IsRelocatable turn.unit)
    (placed : ∀ turn : Turn units program options,
      ∃ other : Turn others otherProgram otherOptions, turn.unit = other.unit)
    (otherPlaced : ∀ other : Turn others otherProgram otherOptions,
      ∃ turn : Turn units program options, other.unit = turn.unit) :
    MovesBlocks first second := by
  refine ⟨fun name => ?_, fun space => ⟨?_, ?_, ?_⟩, ?_⟩
  · cases found : first.units.get? name with
    | some map =>
      obtain ⟨turn, rfl, rfl⟩ := Turn.exists_of_name linked found
      obtain ⟨other, sameUnit⟩ := placed turn
      rw [sameUnit, (other.completed otherLinked).1, Option.map_some, Option.map_some,
        turn.relative_map, other.relative_map, sameUnit]
    | none =>
      cases otherFound : second.units.get? name with
      | none => rfl
      | some otherMap =>
        obtain ⟨other, rfl, _⟩ := Turn.exists_of_name otherLinked otherFound
        obtain ⟨turn, sameUnit⟩ := otherPlaced other
        rw [sameUnit, (turn.completed linked).1] at found
        cases found
  · exact fun word other same => ⟨same.lt_size linked, same.symm.lt_size otherLinked⟩
  · exact fun word inside => exists_sameWord linked otherLinked placed inside
  · intro other inside
    obtain ⟨word, same, unique⟩ := exists_sameWord otherLinked linked otherPlaced inside
    exact ⟨word, same.symm, fun third sameThird => unique third sameThird.symm⟩
  · intro address source standsAt
    have inside : address < first.size .code := (List.getElem?_eq_some_iff.1 standsAt).1
    obtain ⟨turn, offset, isAt⟩ := exists_isAt linked inside
    obtain ⟨other, sameUnit⟩ := placed turn
    obtain ⟨owned, rfl⟩ := Turn.isAt_iff.1 isAt
    have same := sameWord_of_turns linked otherLinked sameUnit owned
    obtain ⟨found, target, foundAt, targetAt, sameInstruction⟩ :=
      agree.exists_sameInstruction_at linked otherLinked sameUnit (relocatable turn) owned
    cases standsAt.symm.trans foundAt
    exact ⟨_, target, same, targetAt, sameInstruction⟩

end Images

end Link

end UnitLinker
