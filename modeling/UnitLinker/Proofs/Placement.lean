import Mathlib
import UnitLinker.Proofs.DependencyOrder
import UnitLinker.Proofs.Relocation

/-!
# Placement

What placing units one after the other does. Every unit takes the words after
those of the units before it, in both spaces, so the place of everything is a
sum of lengths.
-/

namespace UnitLinker.Link

section Words

/-- Adding a length to a word that has room for it does not wrap. -/
theorem toNat_add_ofNat {word : UInt64} {length : Nat} (fits : word.toNat + length < 2 ^ 64) :
    (word + UInt64.ofNat length).toNat = word.toNat + length := by
  have lengthFits : length < 2 ^ 64 := by omega
  rw [UInt64.toNat_add, UInt64.toNat_ofNat', Nat.mod_eq_of_lt lengthFits]
  exact Nat.mod_eq_of_lt fits

/-- Adding two words whose sum is a word does not wrap. -/
theorem toNat_add_word {word offset : UInt64} (fits : word.toNat + offset.toNat < 2 ^ 64) :
    (word + offset).toNat = word.toNat + offset.toNat := by
  rw [UInt64.toNat_add]
  exact Nat.mod_eq_of_lt fits

end Words

section Extents

/-- How many words units take together, for the number that each of them takes. -/
def extent (size : ObjectUnit → Nat) (units : List ObjectUnit) : Nat := (units.map size).sum

variable {size : ObjectUnit → Nat}

@[simp] theorem extent_nil : extent size [] = 0 := rfl

@[simp] theorem extent_cons (unit : ObjectUnit) (units : List ObjectUnit) :
    extent size (unit :: units) = size unit + extent size units := List.sum_cons

@[simp] theorem extent_append (first second : List ObjectUnit) :
    extent size (first ++ second) = extent size first + extent size second := by
  rw [extent, List.map_append, List.sum_append]
  rfl

/-- Every word belongs to some unit. -/
theorem exists_owner {units : List ObjectUnit} {word : Nat} (inside : word < extent size units) :
    ∃ earlier unit later offset, units = earlier ++ unit :: later ∧ offset < size unit
      ∧ word = extent size earlier + offset := by
  induction units generalizing word with
  | nil => exact absurd inside (Nat.not_lt_zero _)
  | cons unit rest ih =>
    rw [extent_cons] at inside
    by_cases own : word < size unit
    · exact ⟨[], unit, rest, word, rfl, own, (Nat.zero_add _).symm⟩
    · have insideRest : word - size unit < extent size rest := by omega
      obtain ⟨earlier, owner, later, offset, rfl, owned, wordEq⟩ := ih insideRest
      refine ⟨unit :: earlier, owner, later, offset, rfl, owned, ?_⟩
      rw [extent_cons]
      omega

/-- No word belongs to two units. -/
theorem owner_unique {first second firstLater secondLater : List ObjectUnit}
    {firstUnit secondUnit : ObjectUnit} {firstOffset secondOffset : Nat}
    (same : first ++ firstUnit :: firstLater = second ++ secondUnit :: secondLater)
    (firstOwned : firstOffset < size firstUnit) (secondOwned : secondOffset < size secondUnit)
    (sameWord : extent size first + firstOffset = extent size second + secondOffset) :
    first = second ∧ firstUnit = secondUnit ∧ firstOffset = secondOffset := by
  induction first generalizing second with
  | nil =>
    cases second with
    | nil =>
      cases same
      exact ⟨rfl, rfl, by simpa using sameWord⟩
    | cons unit rest =>
      cases same
      simp only [extent_nil, extent_cons] at sameWord
      omega
  | cons unit rest ih =>
    cases second with
    | nil =>
      cases same
      simp only [extent_nil, extent_cons] at sameWord
      omega
    | cons other others =>
      simp only [List.cons_append, List.cons.injEq] at same
      obtain ⟨rfl, restSame⟩ := same
      simp only [extent_cons] at sameWord
      obtain ⟨rfl, unitEq, offsetEq⟩ := ih restSame (by omega)
      exact ⟨rfl, unitEq, offsetEq⟩

end Extents

section Steps

variable {layout next : Layout} {unit : ObjectUnit} {reservation : Reservation} {map : UnitMap}

/-- A block is reserved exactly if it fits, and starts where the blocks before it end. -/
theorem Space.reserve_eq_ok {space left : Space} {name : String} {length : Nat} {block : Block} :
    space.reserve name length = .ok (block, left)
      ↔ space.next.toNat + length ≤ space.limit.toNat
        ∧ block = ⟨space.next, space.next + UInt64.ofNat length⟩
        ∧ left = ⟨space.kind, space.next + UInt64.ofNat length, space.limit⟩ := by
  unfold Space.reserve
  by_cases fits : space.next.toNat + length ≤ space.limit.toNat
  · simp only [fits, if_true, Except.ok.injEq, Prod.mk.injEq, true_and]
    exact and_congr eq_comm eq_comm
  · simp [fits]

/-- The blocks of a unit, if both spaces have room for them. -/
theorem Layout.reserve_eq_ok :
    layout.reserve unit = .ok reservation
      ↔ layout.globals.next.toNat + unit.vars.size ≤ layout.globals.limit.toNat
        ∧ layout.code.next.toNat + codeLength unit ≤ layout.code.limit.toNat
        ∧ reservation = ⟨⟨layout.globals.next, layout.globals.next + UInt64.ofNat unit.vars.size⟩,
          ⟨layout.code.next, layout.code.next + UInt64.ofNat (codeLength unit)⟩,
          ⟨layout.globals.kind, layout.globals.next + UInt64.ofNat unit.vars.size,
            layout.globals.limit⟩,
          ⟨layout.code.kind, layout.code.next + UInt64.ofNat (codeLength unit),
            layout.code.limit⟩⟩ := by
  unfold Layout.reserve
  constructor
  · intro reserved
    obtain ⟨⟨globals, globalsLeft⟩, globalsReserved, chained⟩ := bind_eq_ok.1 reserved
    obtain ⟨⟨code, codeLeft⟩, codeReserved, given⟩ := bind_eq_ok.1 chained
    obtain ⟨globalsFit, rfl, rfl⟩ := Space.reserve_eq_ok.1 globalsReserved
    obtain ⟨codeFits, rfl, rfl⟩ := Space.reserve_eq_ok.1 codeReserved
    exact ⟨globalsFit, codeFits, (pure_eq_ok.1 given).symm⟩
  · rintro ⟨globalsFit, codeFits, rfl⟩
    refine bind_eq_ok.2 ⟨_, Space.reserve_eq_ok.2 ⟨globalsFit, rfl, rfl⟩, ?_⟩
    exact bind_eq_ok.2 ⟨_, Space.reserve_eq_ok.2 ⟨codeFits, rfl, rfl⟩, rfl⟩

/-- The map of a unit in its blocks, as it is when nothing is refused. -/
def mapIn (unit : ObjectUnit) (reservation : Reservation) : UnitMap :=
  let start := reservation.code.start
  let init := start + UInt64.ofNat unit.code.body.length
  let final := init + UInt64.ofNat (unit.code.init.length + 1)
  ⟨unit.kind, reservation.globals, ⟨start, init⟩, init, final, reservation.code.stop,
    unit.routines.map fun _ routine => ⟨start + routine.entry, routine.visibility,
      routine.signature, routine.depth, routine.locals⟩,
    unit.vars.map fun _ entry => ⟨reservation.globals.start + entry.slot, entry.visibility⟩,
    unit.types⟩

/-- Routines are placed exactly if every entry is inside the body. -/
theorem routineSymbols_eq_ok {start : UInt64} {symbols : Table RoutineSymbol} :
    Layout.routineSymbols unit start = .ok symbols
      ↔ (∀ entry ∈ unit.routines.entries, entry.2.entry.toNat < unit.code.body.length)
        ∧ symbols = unit.routines.map fun _ routine => ⟨start + routine.entry, routine.visibility,
          routine.signature, routine.depth, routine.locals⟩ := by
  simp only [Layout.routineSymbols]
  split
  · rename_i name routine found
    have outside := List.find?_some found
    have member := List.mem_of_find?_eq_some found
    constructor
    · intro refused
      cases refused
    · rintro ⟨inside, _⟩
      exact absurd (inside _ member) (Nat.not_lt.2 (by simpa using outside))
  · rename_i noneOutside
    have inside : ∀ entry ∈ unit.routines.entries, entry.2.entry.toNat < unit.code.body.length := by
      intro entry member
      simpa using List.find?_eq_none.1 noneOutside entry member
    rw [Except.ok.injEq]
    constructor
    · rintro rfl
      exact ⟨inside, rfl⟩
    · rintro ⟨_, rfl⟩
      rfl

/-- Variables are placed exactly if no slot goes past the last word. -/
theorem variableSymbols_eq_ok {start : UInt64} {symbols : Table VariableSymbol} :
    Layout.variableSymbols unit start = .ok symbols
      ↔ (∀ entry ∈ unit.vars.entries, start.toNat + entry.2.slot.toNat < 2 ^ 64)
        ∧ symbols = unit.vars.map fun _ entry => ⟨start + entry.slot, entry.visibility⟩ := by
  unfold Layout.variableSymbols
  split
  · rename_i fits
    simp only [List.all_eq_true, decide_eq_true_eq] at fits
    rw [Except.ok.injEq]
    constructor
    · rintro rfl
      exact ⟨fits, rfl⟩
    · rintro ⟨_, rfl⟩
      rfl
  · rename_i overflows
    simp only [List.all_eq_true, decide_eq_true_eq] at overflows
    constructor
    · intro faulted
      cases faulted
    · rintro ⟨fits, _⟩
      exact absurd fits overflows

/-- A unit is mapped exactly if its entries and slots can be placed. -/
theorem Layout.unitMap_eq_ok :
    Layout.unitMap unit reservation = .ok map
      ↔ (∀ entry ∈ unit.routines.entries, entry.2.entry.toNat < unit.code.body.length)
        ∧ (∀ entry ∈ unit.vars.entries,
          reservation.globals.start.toNat + entry.2.slot.toNat < 2 ^ 64)
        ∧ map = mapIn unit reservation := by
  unfold Layout.unitMap
  constructor
  · intro mapped
    obtain ⟨routines, routinesPlaced, chained⟩ := bind_eq_ok.1 mapped
    obtain ⟨vars, varsPlaced, given⟩ := bind_eq_ok.1 chained
    obtain ⟨inside, rfl⟩ := routineSymbols_eq_ok.1 (refusing_eq_ok.1 routinesPlaced)
    obtain ⟨fits, rfl⟩ := variableSymbols_eq_ok.1 (mapError_eq_ok.1 varsPlaced)
    exact ⟨inside, fits, (pure_eq_ok.1 given).symm⟩
  · rintro ⟨inside, fits, rfl⟩
    refine bind_eq_ok.2 ⟨_, refusing_eq_ok.2 (routineSymbols_eq_ok.2 ⟨inside, rfl⟩), ?_⟩
    exact bind_eq_ok.2 ⟨_, mapError_eq_ok.2 (variableSymbols_eq_ok.2 ⟨fits, rfl⟩), rfl⟩

/-- What placing a unit needs, and what it adds to a layout. -/
theorem Layout.place_eq_ok :
    layout.place unit = .ok next
      ↔ ∃ reservation map code, layout.reserve unit = .ok reservation
        ∧ Layout.unitMap unit reservation = .ok map
        ∧ Scope.relocateAll ⟨unit, map, layout.units⟩ = .ok code
        ∧ next = ⟨reservation.globalsLeft, reservation.codeLeft, layout.instructions ++ code,
          layout.globalVars ++ unit.vars.names.map (fun name => ⟨unit.name, name⟩),
          layout.initOrder ++ [⟨unit.name, map.init⟩], layout.finals ++ [⟨unit.name, map.final⟩],
          layout.units.insert unit.name map⟩ := by
  unfold Layout.place
  constructor
  · intro placed
    obtain ⟨reservation, reserved, chained⟩ := bind_eq_ok.1 placed
    obtain ⟨map, mapped, rest⟩ := bind_eq_ok.1 chained
    obtain ⟨code, relocated, given⟩ := bind_eq_ok.1 rest
    exact ⟨reservation, map, code, refusing_eq_ok.1 reserved, mapped, refusing_eq_ok.1 relocated,
      (pure_eq_ok.1 given).symm⟩
  · rintro ⟨reservation, map, code, reserved, mapped, relocated, rfl⟩
    refine bind_eq_ok.2 ⟨_, refusing_eq_ok.2 reserved, bind_eq_ok.2 ⟨_, mapped, ?_⟩⟩
    exact bind_eq_ok.2 ⟨_, refusing_eq_ok.2 relocated, rfl⟩

end Steps

section Runs

variable {layout next final : Layout} {unit : ObjectUnit} {placed rest : List ObjectUnit}

/-- The number of global slots that a unit takes. -/
def slotCount (unit : ObjectUnit) : Nat := unit.vars.size

/-- The owners of a unit's slots, in order. -/
def ownedVars (unit : ObjectUnit) : List GlobalVar :=
  unit.vars.names.map fun name => ⟨unit.name, name⟩

theorem length_ownedVars (unit : ObjectUnit) : (ownedVars unit).length = slotCount unit := by
  rw [ownedVars, List.length_map, Table.length_names, slotCount]

/-- The global table has a row for every slot. -/
theorem length_flatMap_ownedVars (placed : List ObjectUnit) :
    (placed.flatMap ownedVars).length = extent slotCount placed := by
  rw [List.length_flatMap, extent]
  simp only [length_ownedVars]

/-- Placing a unit takes the words that it needs in both spaces. -/
theorem Layout.toNat_next_of_place (placedUnit : layout.place unit = .ok next) :
    next.globals.next.toNat = layout.globals.next.toNat + slotCount unit
      ∧ next.code.next.toNat = layout.code.next.toNat + codeLength unit := by
  obtain ⟨reservation, map, code, reserved, _, _, rfl⟩ := Layout.place_eq_ok.1 placedUnit
  obtain ⟨globalsFit, codeFits, rfl⟩ := Layout.reserve_eq_ok.1 reserved
  have globalsBound := layout.globals.limit.toNat_lt
  have codeBound := layout.code.limit.toNat_lt
  constructor
  · exact toNat_add_ofNat (Nat.lt_of_le_of_lt globalsFit globalsBound)
  · exact toNat_add_ofNat (Nat.lt_of_le_of_lt codeFits codeBound)

/-- A layout that holds some units, one after the other, and nothing else. -/
structure Holds (layout : Layout) (placed : List ObjectUnit) : Prop where
  globalsNext : layout.globals.next.toNat = extent slotCount placed
  codeNext : layout.code.next.toNat = extent Layout.codeLength placed
  length : layout.instructions.length = extent Layout.codeLength placed
  globalVars : layout.globalVars = placed.flatMap ownedVars
  names : layout.units.names = placed.map ObjectUnit.name

/-- A fresh layout holds nothing. -/
theorem holds_fresh (options : Options) : Holds (.fresh options) [] := ⟨rfl, rfl, rfl, rfl, rfl⟩

/-- A layout holds the unit that was placed last after those it held. -/
theorem Holds.place (holds : Holds layout placed) (new : unit.name ∉ placed.map ObjectUnit.name)
    (placedUnit : layout.place unit = .ok next) : Holds next (placed ++ [unit]) := by
  obtain ⟨globalsNext, codeNext⟩ := Layout.toNat_next_of_place placedUnit
  obtain ⟨reservation, map, code, _, _, relocated, rfl⟩ := Layout.place_eq_ok.1 placedUnit
  refine ⟨?_, ?_, ?_, ?_, ?_⟩
  · rw [globalsNext, holds.globalsNext, extent_append, extent_cons, extent_nil, Nat.add_zero]
  · rw [codeNext, holds.codeNext, extent_append, extent_cons, extent_nil, Nat.add_zero]
  · simp only [extent_append, extent_cons, extent_nil, List.length_append, holds.length]
    rw [Scope.length_relocateAll relocated]
    rfl
  · simp only [holds.globalVars, List.flatMap_append, List.flatMap_singleton]
    rfl
  · rw [← holds.names] at new
    simp only [Table.names_insert_of_new new, holds.names, List.map_append, List.map_singleton]

/-- Units are placed one by one from the front. -/
theorem placeAll_cons_eq_ok :
    layout.placeAll (unit :: rest) = .ok final
      ↔ ∃ next, layout.place unit = .ok next ∧ next.placeAll rest = .ok final := foldlM_cons_eq_ok

/-- Units are placed in one go or in two. -/
theorem placeAll_append_eq_ok {first second : List ObjectUnit} :
    layout.placeAll (first ++ second) = .ok final
      ↔ ∃ middle, layout.placeAll first = .ok middle ∧ middle.placeAll second = .ok final :=
  foldlM_append_eq_ok

/-- A layout holds all units that were placed in it, in their order. -/
theorem Holds.placeAll (holds : Holds layout placed)
    (distinct : ((placed ++ rest).map ObjectUnit.name).Nodup)
    (placedAll : layout.placeAll rest = .ok final) : Holds final (placed ++ rest) := by
  induction rest generalizing layout placed with
  | nil =>
    cases pure_eq_ok.1 placedAll
    rwa [List.append_nil]
  | cons unit rest ih =>
    obtain ⟨next, placedUnit, placedRest⟩ := placeAll_cons_eq_ok.1 placedAll
    have new : unit.name ∉ placed.map ObjectUnit.name := by
      rw [List.map_append, List.map_cons, List.nodup_append] at distinct
      intro member
      exact distinct.2.2 _ member _ List.mem_cons_self rfl
    rw [List.append_cons] at distinct ⊢
    exact ih (holds.place new placedUnit) distinct placedRest

/-- Placing more units keeps the maps of the units before. -/
theorem get?_placeAll (placedAll : layout.placeAll rest = .ok final) {name : String}
    (other : name ∉ rest.map ObjectUnit.name) : final.units.get? name = layout.units.get? name := by
  induction rest generalizing layout with
  | nil =>
    cases pure_eq_ok.1 placedAll
    rfl
  | cons unit rest ih =>
    obtain ⟨next, placedUnit, placedRest⟩ := placeAll_cons_eq_ok.1 placedAll
    obtain ⟨reservation, map, code, _, _, _, rfl⟩ := Layout.place_eq_ok.1 placedUnit
    rw [List.map_cons, List.mem_cons, not_or] at other
    rw [ih placedRest other.2]
    exact Table.get?_insert_of_ne _ other.1 _

/-- Placing more units adds code at the end. -/
theorem instructions_placeAll (placedAll : layout.placeAll rest = .ok final) :
    ∃ added, final.instructions = layout.instructions ++ added := by
  induction rest generalizing layout with
  | nil =>
    cases pure_eq_ok.1 placedAll
    exact ⟨[], (List.append_nil _).symm⟩
  | cons unit rest ih =>
    obtain ⟨next, placedUnit, placedRest⟩ := placeAll_cons_eq_ok.1 placedAll
    obtain ⟨reservation, map, code, _, _, _, rfl⟩ := Layout.place_eq_ok.1 placedUnit
    obtain ⟨added, addedEq⟩ := ih placedRest
    exact ⟨code ++ added, by rw [addedEq, List.append_assoc]⟩

end Runs

section Sequences

variable {units : List ObjectUnit} {program : ObjectUnit} {options : Options}
  {ordered : List ObjectUnit}

/-- A run places the units in dependency order and then the program. -/
theorem sequence_eq_ok :
    sequence units program options = .ok ordered
      ↔ ∃ order, Dependency.resolveOrder units program options.stripUnused = .ok order
        ∧ ordered = order.map units.get ++ [program] := by
  unfold sequence
  constructor
  · intro found
    obtain ⟨order, resolved, given⟩ := bind_eq_ok.1 found
    exact ⟨order, resolved, (pure_eq_ok.1 given).symm⟩
  · rintro ⟨order, resolved, rfl⟩
    exact bind_eq_ok.2 ⟨order, resolved, rfl⟩

/-- A sequence has supplied units and the program, and no others. -/
theorem mem_of_sequence (sequenced : sequence units program options = .ok ordered)
    {unit : ObjectUnit} (member : unit ∈ ordered) : unit ∈ units ∨ unit = program := by
  obtain ⟨order, _, rfl⟩ := sequence_eq_ok.1 sequenced
  rcases List.mem_append.1 member with supplied | isProgram
  · obtain ⟨position, _, rfl⟩ := List.mem_map.1 supplied
    exact .inl (List.get_mem units position)
  · exact .inr (List.mem_singleton.1 isProgram)

/-- A run that succeeds puts the units in order, places them all and gives the image. -/
theorem link_eq_ok {image : Image} :
    link units program options = .ok image
      ↔ ∃ ordered layout, sequence units program options = .ok ordered
        ∧ (Layout.fresh options).placeAll ordered = .ok layout
        ∧ image = layout.toImage layout.mainAddress := by
  unfold link
  constructor
  · intro linked
    obtain ⟨ordered, sequenced, chained⟩ := bind_eq_ok.1 linked
    obtain ⟨layout, placed, given⟩ := bind_eq_ok.1 chained
    exact ⟨ordered, layout, refusing_eq_ok.1 sequenced, placed, (pure_eq_ok.1 given).symm⟩
  · rintro ⟨ordered, layout, sequenced, placed, rfl⟩
    exact bind_eq_ok.2 ⟨ordered, refusing_eq_ok.2 sequenced, bind_eq_ok.2 ⟨layout, placed, rfl⟩⟩

/-- Units of a sequence have different names. -/
theorem sequence_names_nodup (sequenced : sequence units program options = .ok ordered) :
    (ordered.map ObjectUnit.name).Nodup := by
  obtain ⟨order, resolved, rfl⟩ := sequence_eq_ok.1 sequenced
  have orderable := Dependency.orderable_of_resolveOrder resolved
  have isOrder := Dependency.isDependencyOrder_of_resolveOrder resolved
  have injective : ∀ first ∈ order, ∀ second ∈ order,
      (units.get first).name = (units.get second).name → first = second := by
    intro first _ second _ same
    have distinct := orderable.namesDistinct
    rw [← Dependency.map_name_finRange] at distinct
    exact List.inj_on_of_nodup_map distinct (List.mem_finRange first) (List.mem_finRange second)
      same
  rw [List.map_append, List.map_map, List.nodup_append]
  refine ⟨isOrder.nodup.map_on injective, List.nodup_singleton _, ?_⟩
  intro name member programName last
  obtain ⟨position, _, rfl⟩ := List.mem_map.1 member
  rw [List.mem_singleton.1 last]
  intro same
  exact orderable.programNameNew (Dependency.mem_names_iff.2 ⟨position, same⟩)

/-- An image consists of the units of its sequence and of nothing else. -/
theorem holds_of_link {image : Image} (linked : link units program options = .ok image)
    (sequenced : sequence units program options = .ok ordered) :
    image.units.names = ordered.map ObjectUnit.name
      ∧ image.instructions.length = extent Layout.codeLength ordered
      ∧ image.globals = ordered.flatMap ownedVars := by
  obtain ⟨others, layout, sequencedAll, placed, rfl⟩ := link_eq_ok.1 linked
  rw [sequenced] at sequencedAll
  cases sequencedAll
  have holds := (holds_fresh options).placeAll (sequence_names_nodup sequenced) placed
  exact ⟨holds.names, holds.length, holds.globalVars⟩

/-- The uses of a unit of a sequence are supplied units and come before it. -/
theorem exists_earlier_of_use {earlier later : List ObjectUnit} {unit : ObjectUnit}
    (sequenced : sequence units program options = .ok (earlier ++ unit :: later)) {name : String}
    (member : name ∈ unit.usedNames) : ∃ needed ∈ earlier, needed ∈ units ∧ needed.name = name := by
  obtain ⟨order, resolved, orderedEq⟩ := sequence_eq_ok.1 sequenced
  have orderable := Dependency.orderable_of_resolveOrder resolved
  have isOrder := Dependency.isDependencyOrder_of_resolveOrder resolved
  rcases List.eq_nil_or_concat later with rfl | ⟨inner, last, rfl⟩
  · -- the unit is the program, and all that it uses is included
    obtain ⟨rfl, same⟩ := List.append_inj' orderedEq rfl
    cases same
    obtain ⟨position, rfl⟩ := Dependency.mem_names_iff.1 (orderable.programUsesSupplied name member)
    have isIncluded : position ∈ order := (isOrder.mem_iff position).2 fun _ => .direct member
    exact ⟨_, List.mem_map.2 ⟨position, isIncluded, rfl⟩, List.get_mem units position, rfl⟩
  · have inside : (earlier ++ unit :: inner) ++ [last] = order.map units.get ++ [program] := by
      simpa using orderedEq
    obtain ⟨splitEq, _⟩ := List.append_inj' inside rfl
    obtain ⟨before, others, rfl, rfl, othersEq⟩ := List.map_eq_append_iff.1 splitEq.symm
    obtain ⟨position, after, rfl, rfl, rfl⟩ := List.map_eq_cons_iff.1 othersEq
    have placeInside : before.length < (before ++ position :: after).length := by simp
    obtain ⟨place, placeBefore, named⟩ :=
      isOrder.usesBefore before.length placeInside name (by simpa using member)
    rw [List.getElem_append_left placeBefore] at named
    exact ⟨_, List.mem_map.2 ⟨before[place], List.getElem_mem _, rfl⟩, List.get_mem units _, named⟩

end Sequences

end UnitLinker.Link
