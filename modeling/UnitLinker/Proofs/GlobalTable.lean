import UnitLinker.Proofs.BuiltUnits
import UnitLinker.Proofs.Turns

/-!
# The table of global variables

An image has two records of its variables: the symbols in the maps of its units,
which come from the slots that units store, and the owners of all slots, which come
from the order of declarations. For built units they agree.
-/

namespace UnitLinker.Link

variable {units : List ObjectUnit} {program : ObjectUnit} {options : Options} {image : Image}
  {ordered : List ObjectUnit} {unit name : String}

/-- Blocks that follow each other without gaps, from one word up to another. -/
def Tiles : Nat → List Block → Nat → Prop
  | first, [], last => first = last
  | first, block :: rest, last =>
    block.start.toNat = first ∧ first ≤ block.stop.toNat ∧ Tiles block.stop.toNat rest last

/-- The two records of the variables of an image agree, for the units that it consists
of, and slots of a unit are moved to the variables that they stood for. -/
structure IsExactGlobalTable (image : Image) (ordered : List ObjectUnit) : Prop where
  tiles : Tiles 0 (image.units.values.map UnitMap.globals) image.globals.length
  sizes : ∀ unit ∈ ordered, ∃ map, image.units.get? unit.name = some map
    ∧ map.globals.stop.toNat = map.globals.start.toNat + unit.vars.size
  slot_iff : ∀ unit name slot, image.globalSlot? unit name = some slot
    ↔ image.globals[slot.toNat]? = some ⟨unit, name⟩
  unshared : ∀ unit name other otherName slot, image.globalSlot? unit name = some slot →
    image.globalSlot? other otherName = some slot → unit = other ∧ name = otherName
  owned : ∀ slot < image.globals.length, ∃ unit name word,
    image.globalSlot? unit name = some word ∧ word.toNat = slot
  slotReferences : ∀ unit ∈ ordered, ∀ stream offset instruction index,
    (unit.code.stream stream)[offset]? = some instruction →
    instruction.operand? = some (.var (.slot index)) →
    ∃ map name slot, image.units.get? unit.name = some map
      ∧ unit.vars.names[index.toNat]? = some name
      ∧ image.globals[slot.toNat]? = some ⟨unit.name, name⟩
      ∧ image.instructions[(map.base stream).toNat + offset]?
        = some (instruction.withOperand (.var (.global slot)))

namespace Turn

variable {turn : Turn units program options} {place : Nat}

/-- A variable has the slot of its place, counted from the first slot of its unit. -/
theorem globalSlot?_of_place (linked : link units program options = .ok image)
    (inOrder : turn.unit.SlotsInOrder) (declared : turn.unit.vars.names[place]? = some name) :
    image.globalSlot? turn.unit.name name
        = some (turn.map.globals.start + UInt64.ofNat place)
      ∧ (turn.map.globals.start + UInt64.ofNat place).toNat
        = extent slotCount turn.earlier + place := by
  obtain ⟨entry, found⟩ := Table.getElem?_names_eq_some.1 declared
  constructor
  · have entryFound : turn.unit.vars.get? name = some entry :=
      Table.get?_eq_some_iff.2 (List.mem_of_getElem? found)
    have slotEq : entry.slot = UInt64.ofNat place := inOrder place _ found
    rw [Image.globalSlot?, (turn.completed linked).1, turn.map_eq]
    simp [mapIn, entryFound, slotEq]
  · have inside : place < slotCount turn.unit := (List.getElem?_eq_some_iff.1 found).1
    have start := turn.toNat_globals_start
    have stop := turn.toNat_globals_stop
    have bound := turn.map.globals.stop.toNat_lt
    rw [toNat_add_ofNat (by omega), start]

/-- The owner of a slot is the variable at its place. -/
theorem globals_of_place (linked : link units program options = .ok image)
    (declared : turn.unit.vars.names[place]? = some name) :
    image.globals[extent slotCount turn.earlier + place]? = some ⟨turn.unit.name, name⟩ := by
  have owned : (ownedVars turn.unit)[place]? = some ⟨turn.unit.name, name⟩ := by
    rw [ownedVars, List.getElem?_map, declared]
    rfl
  have inside : place < (ownedVars turn.unit).length := (List.getElem?_eq_some_iff.1 owned).1
  rw [(holds_of_link linked turn.sequenced).2.2, List.flatMap_append, List.flatMap_cons,
    ← length_flatMap_ownedVars, getElem?_middle inside, owned]

/-- The slot references of a unit stand in the image as slots of its block. -/
theorem image_of_slot (linked : link units program options = .ok image) {stream : Section}
    {offset : Nat} {instruction : Instruction} {index : UInt64}
    (found : (turn.unit.code.stream stream)[offset]? = some instruction)
    (has : instruction.operand? = some (.var (.slot index))) :
    index.toNat < turn.unit.vars.size
      ∧ image.instructions[(turn.map.base stream).toNat + offset]?
        = some (instruction.withOperand (.var (.global (turn.map.globals.start + index)))) := by
  obtain ⟨target, relocated, standsAt⟩ := turn.image_source linked found
  rw [Scope.relocate_of_operand has] at relocated
  obtain ⟨operand, operandMoved, rfl⟩ := map_eq_ok.1 relocated
  obtain ⟨var, varMoved, rfl⟩ := map_eq_ok.1 operandMoved
  obtain ⟨inside, rfl⟩ := Scope.relocateVar_slot_eq_ok.1 varMoved
  exact ⟨inside, standsAt⟩

end Turn

/-- The symbols of an image, by the places of their declarations. -/
theorem globalSlot?_eq_some_iff (linked : link units program options = .ok image)
    (inOrder : ∀ turn : Turn units program options, turn.unit.SlotsInOrder) {slot : UInt64} :
    image.globalSlot? unit name = some slot
      ↔ ∃ (turn : Turn units program options) (place : Nat), turn.unit.name = unit
        ∧ turn.unit.vars.names[place]? = some name
        ∧ slot.toNat = extent slotCount turn.earlier + place := by
  constructor
  · intro recorded
    obtain ⟨map, mapFound, inMap⟩ := Option.bind_eq_some_iff.1 recorded
    obtain ⟨symbol, symbolFound, _⟩ := Option.bind_eq_some_iff.1 inMap
    obtain ⟨turn, rfl, rfl⟩ := Turn.exists_of_name linked mapFound
    have member : name ∈ turn.unit.vars.names := by
      rw [turn.map_eq] at symbolFound
      simp only [mapIn, Table.get?_map, Option.map_eq_some_iff] at symbolFound
      obtain ⟨entry, found, _⟩ := symbolFound
      exact List.mem_map.2 ⟨_, Table.get?_eq_some_iff.1 found, rfl⟩
    obtain ⟨place, declared⟩ := List.getElem?_of_mem member
    obtain ⟨slotFound, slotNat⟩ := Turn.globalSlot?_of_place linked (inOrder turn) declared
    cases recorded.symm.trans slotFound
    exact ⟨turn, place, rfl, declared, slotNat⟩
  · rintro ⟨turn, place, rfl, declared, slotNat⟩
    obtain ⟨slotFound, wordNat⟩ := Turn.globalSlot?_of_place linked (inOrder turn) declared
    rw [slotFound, UInt64.toNat_inj.1 (wordNat.trans slotNat.symm)]

/-- The owners of slots, by the places of their declarations. -/
theorem globals_eq_some_iff (linked : link units program options = .ok image) {slot : Nat} :
    image.globals[slot]? = some ⟨unit, name⟩
      ↔ ∃ (turn : Turn units program options) (place : Nat), turn.unit.name = unit
        ∧ turn.unit.vars.names[place]? = some name
        ∧ slot = extent slotCount turn.earlier + place := by
  constructor
  · intro owner
    obtain ⟨ordered, _, sequenced, _, _⟩ := link_eq_ok.1 linked
    have inside := (List.getElem?_eq_some_iff.1 owner).1
    rw [(holds_of_link linked sequenced).2.2, length_flatMap_ownedVars] at inside
    obtain ⟨earlier, declarer, later, place, rfl, placeInside, rfl⟩ := exists_owner inside
    obtain ⟨turn, rfl, rfl⟩ := Turn.exists_of_linked linked sequenced
    have namesInside : place < turn.unit.vars.names.length := by
      rw [Table.length_names]
      exact placeInside
    have declared := List.getElem?_eq_getElem namesInside
    cases owner.symm.trans (Turn.globals_of_place linked declared)
    exact ⟨turn, place, rfl, declared, rfl⟩
  · rintro ⟨turn, place, rfl, declared, rfl⟩
    exact Turn.globals_of_place linked declared

/-- Tilings that meet make one tiling. -/
theorem Tiles.append {first middle last : Nat} {blocks others : List Block}
    (front : Tiles first blocks middle) (back : Tiles middle others last) :
    Tiles first (blocks ++ others) last := by
  induction blocks generalizing first with
  | nil =>
    cases front
    exact back
  | cons block rest ih => exact ⟨front.1, front.2.1, ih front.2.2⟩

section Tilings

variable {size : ObjectUnit → Nat} {blocks : UnitMap → List Block}
  (each : ∀ turn : Turn units program options, Tiles (extent size turn.earlier) (blocks turn.map)
    (extent size (turn.earlier ++ [turn.unit])))
include each

/-- The blocks of the last units of a sequence follow those of the units before. -/
theorem tiles_of_forall₂ (linked : link units program options = .ok image)
    {rest : List ObjectUnit} {maps : List UnitMap}
    (found : List.Forall₂ (fun (unit : ObjectUnit) map => image.units.get? unit.name = some map)
      rest maps) :
    ∀ earlier, sequence units program options = .ok (earlier ++ rest) →
      Tiles (extent size earlier) (maps.flatMap blocks) (extent size (earlier ++ rest)) := by
  induction found with
  | nil =>
    intro earlier _
    rw [List.append_nil]
    rfl
  | @cons unit map rest maps mapFound _ ih =>
    intro earlier sequenced
    obtain ⟨turn, rfl, rfl⟩ := Turn.exists_of_linked linked sequenced
    cases mapFound.symm.trans (turn.completed linked).1
    rw [List.append_cons] at sequenced ⊢
    exact (each turn).append (ih _ sequenced)

/-- The blocks of all units of an image, in order, cover a space without gaps. -/
theorem tiles_of_turns (linked : link units program options = .ok image)
    (sequenced : sequence units program options = .ok ordered) :
    Tiles 0 (image.units.values.flatMap blocks) (extent size ordered) := by
  have maps := image.units.forall₂_get?
  rw [(holds_of_link linked sequenced).1, List.forall₂_map_left_iff] at maps
  exact tiles_of_forall₂ each linked maps [] sequenced

end Tilings

/-- The slots of a unit tile its part of the table. -/
theorem Turn.tiles_globals (turn : Turn units program options) :
    Tiles (extent slotCount turn.earlier) [turn.map.globals]
      (extent slotCount (turn.earlier ++ [turn.unit])) := by
  have start := turn.toNat_globals_start
  have stop := turn.toNat_globals_stop
  simp only [Tiles, extent_append, extent_cons, extent_nil]
  omega

/-- The blocks of an image cover the global table. -/
theorem tiles_of_link (linked : link units program options = .ok image) :
    Tiles 0 (image.units.values.map UnitMap.globals) image.globals.length := by
  obtain ⟨ordered, _, sequenced, _, _⟩ := link_eq_ok.1 linked
  have tiles : Tiles 0 (image.units.values.flatMap fun map => [map.globals]) _ :=
    tiles_of_turns Turn.tiles_globals linked sequenced
  rwa [← List.map_eq_flatMap, ← length_flatMap_ownedVars,
    ← (holds_of_link linked sequenced).2.2] at tiles

/-- A slot reference of a unit becomes the slot of the variable it stood for. -/
theorem exists_variable_of_slot (linked : link units program options = .ok image)
    {turn : Turn units program options} (inOrder : turn.unit.SlotsInOrder) {stream : Section}
    {offset : Nat} {instruction : Instruction} {index : UInt64}
    (found : (turn.unit.code.stream stream)[offset]? = some instruction)
    (has : instruction.operand? = some (.var (.slot index))) :
    ∃ name slot, turn.unit.vars.names[index.toNat]? = some name
      ∧ image.globalSlot? turn.unit.name name = some slot
      ∧ image.instructions[(turn.map.base stream).toNat + offset]?
        = some (instruction.withOperand (.var (.global slot))) := by
  obtain ⟨inside, standsAt⟩ := Turn.image_of_slot linked found has
  rw [← Table.length_names] at inside
  have declared := List.getElem?_eq_getElem inside
  obtain ⟨slotFound, _⟩ := Turn.globalSlot?_of_place linked inOrder declared
  rw [UInt64.ofNat_toNat] at slotFound
  exact ⟨_, _, declared, slotFound, standsAt⟩

/-- The table is exact if all units have their slots in order. -/
theorem isExactGlobalTable_of_slotsInOrder (linked : link units program options = .ok image)
    (sequenced : sequence units program options = .ok ordered)
    (inOrder : ∀ turn : Turn units program options, turn.unit.SlotsInOrder) :
    IsExactGlobalTable image ordered := by
  have slotIff : ∀ unit name slot, image.globalSlot? unit name = some slot
      ↔ image.globals[slot.toNat]? = some ⟨unit, name⟩ := fun _ _ _ =>
    (globalSlot?_eq_some_iff linked inOrder).trans (globals_eq_some_iff linked).symm
  refine ⟨tiles_of_link linked, ?_, slotIff, ?_, ?_, ?_⟩
  · intro unit isLinked
    obtain ⟨turn, rfl, _⟩ := Turn.exists_of_mem linked sequenced isLinked
    refine ⟨turn.map, (turn.completed linked).1, ?_⟩
    rw [turn.toNat_globals_start, turn.toNat_globals_stop]
    rfl
  · intro unit name other otherName slot first second
    rw [slotIff] at first second
    cases first.symm.trans second
    exact ⟨rfl, rfl⟩
  · intro slot inside
    have owner := List.getElem?_eq_getElem inside
    obtain ⟨turn, place, _, declared, rfl⟩ := (globals_eq_some_iff linked).1 owner
    obtain ⟨slotFound, wordNat⟩ := Turn.globalSlot?_of_place linked (inOrder turn) declared
    exact ⟨_, _, _, slotFound, wordNat⟩
  · intro unit isLinked stream offset instruction index found has
    obtain ⟨turn, rfl, _⟩ := Turn.exists_of_mem linked sequenced isLinked
    obtain ⟨name, slot, declared, slotFound, standsAt⟩ :=
      exists_variable_of_slot linked (inOrder turn) found has
    exact ⟨turn.map, name, slot, (turn.completed linked).1, declared, (slotIff _ _ _).1 slotFound,
      standsAt⟩

/-- The global table of an image of built units is exact. -/
theorem globalTable_exact (unitsBuilt : ∀ unit ∈ units, unit.IsBuilt)
    (programBuilt : program.IsBuilt) (linked : link units program options = .ok image) :
    ∃ ordered, sequence units program options = .ok ordered
      ∧ image.units.names = ordered.map ObjectUnit.name ∧ IsExactGlobalTable image ordered := by
  obtain ⟨ordered, _, sequenced, _, _⟩ := link_eq_ok.1 linked
  have inOrder : ∀ turn : Turn units program options, turn.unit.SlotsInOrder := by
    intro turn
    rcases turn.unit_mem with supplied | isProgram
    · exact (unitsBuilt turn.unit supplied).slotsInOrder
    · rw [isProgram]
      exact programBuilt.slotsInOrder
  exact ⟨ordered, sequenced, (holds_of_link linked sequenced).1,
    isExactGlobalTable_of_slotsInOrder linked sequenced inOrder⟩

/-- A unit and a program with variables of their own. -/
theorem globalTable_exact_tally :
    tally.IsBuilt ∧ tallyProgram.IsBuilt
      ∧ ∃ image, link [tally] tallyProgram .standard = .ok image
        ∧ ∃ ordered, sequence [tally] tallyProgram .standard = .ok ordered
          ∧ image.units.names = ordered.map ObjectUnit.name ∧ IsExactGlobalTable image ordered := by
  have tallyBuilt : tally.IsBuilt := ⟨_, _, _, _, rfl⟩
  have programBuilt : tallyProgram.IsBuilt := ⟨_, _, _, _, rfl⟩
  have unitsBuilt : ∀ unit ∈ [tally], unit.IsBuilt := by
    intro unit member
    rw [List.mem_singleton.1 member]
    exact tallyBuilt
  obtain ⟨image, linked⟩ := link_tally
  exact ⟨tallyBuilt, programBuilt, image, linked,
    globalTable_exact unitsBuilt programBuilt linked⟩

end UnitLinker.Link
