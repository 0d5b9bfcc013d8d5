import Mathlib
import UnitLinker.Proofs.LinkedUnits

/-!
# Initialization and finalization

In which order the blocks of an image run. A layout lists the entry points of its
units as their maps have them, so the orders of an image are read off its units.
Every unit is initialized after all that it uses and finalized before, and every
block returns at the end of its own range.
-/

namespace UnitLinker.Link

variable {units : List ObjectUnit} {program : ObjectUnit} {options : Options} {image : Image}

/-- The initialization block of a placed unit. -/
def initEntry (placed : String × UnitMap) : EntryPoint := ⟨placed.1, placed.2.init⟩

/-- The finalization block of a placed unit. -/
def finalEntry (placed : String × UnitMap) : EntryPoint := ⟨placed.1, placed.2.final⟩

section Runs

variable {layout next final : Layout} {unit : ObjectUnit} {placed rest : List ObjectUnit}

/-- The entry points of a layout are those of its units, in the order of placement. -/
structure ListsEntries (layout : Layout) : Prop where
  inits : layout.initOrder = layout.units.entries.map initEntry
  finals : layout.finals = layout.units.entries.map finalEntry

theorem listsEntries_fresh (options : Options) : ListsEntries (.fresh options) := ⟨rfl, rfl⟩

/-- Placing a unit adds its blocks at the right ends of both orders. -/
theorem ListsEntries.place (lists : ListsEntries layout) (new : unit.name ∉ layout.units.names)
    (placedUnit : layout.place unit = .ok next) : ListsEntries next := by
  obtain ⟨reservation, map, code, _, _, _, rfl⟩ := Layout.place_eq_ok.1 placedUnit
  constructor
  · simp only [Table.entries_insert_of_new new, lists.inits, List.map_append, List.map_singleton]
    rfl
  · simp only [Table.entries_insert_of_new new, lists.finals, List.map_append, List.map_singleton]
    rfl

/-- The orders list the blocks of all placed units. -/
theorem ListsEntries.placeAll (lists : ListsEntries layout) (holds : Holds layout placed)
    (distinct : ((placed ++ rest).map ObjectUnit.name).Nodup)
    (placedAll : layout.placeAll rest = .ok final) : ListsEntries final := by
  induction rest generalizing layout placed with
  | nil =>
    cases pure_eq_ok.1 placedAll
    exact lists
  | cons unit rest ih =>
    obtain ⟨next, placedUnit, placedRest⟩ := placeAll_cons_eq_ok.1 placedAll
    have new : unit.name ∉ placed.map ObjectUnit.name := by
      rw [List.map_append, List.map_cons, List.nodup_append] at distinct
      intro member
      exact distinct.2.2 _ member _ List.mem_cons_self rfl
    rw [List.append_cons] at distinct
    have listsNext : ListsEntries next := lists.place (by rwa [holds.names]) placedUnit
    exact ih listsNext (holds.place new placedUnit) distinct placedRest

end Runs

/-- The orders of an image by its units. -/
theorem orders_of_link (linked : link units program options = .ok image) :
    image.initOrder = image.units.entries.map initEntry
      ∧ image.finalOrder = (image.units.entries.map finalEntry).reverse := by
  obtain ⟨ordered, layout, sequenced, placed, rfl⟩ := link_eq_ok.1 linked
  have lists := (listsEntries_fresh options).placeAll (holds_fresh options)
    (sequence_names_nodup sequenced) placed
  exact ⟨lists.inits, congrArg List.reverse lists.finals⟩

/-- Units are initialized in the order in which they are placed. -/
theorem map_unit_initOrder (linked : link units program options = .ok image) :
    image.initOrder.map EntryPoint.unit = image.units.names := by
  rw [(orders_of_link linked).1, List.map_map]
  rfl

/-- Units are finalized in the reverse order. -/
theorem map_unit_finalOrder (linked : link units program options = .ok image) :
    image.finalOrder.map EntryPoint.unit = image.units.names.reverse := by
  rw [(orders_of_link linked).2, List.map_reverse, List.map_map]
  rfl

/-- The main block is the last one that is initialized. -/
theorem exists_initOrder_eq (linked : link units program options = .ok image) :
    ∃ others map, image.units.get? program.name = some map ∧ image.main = map.init
      ∧ image.initOrder = others ++ [⟨program.name, image.main⟩] := by
  obtain ⟨ordered, layout, sequenced, _, imageEq⟩ := link_eq_ok.1 linked
  obtain ⟨order, _, rfl⟩ := sequence_eq_ok.1 sequenced
  have names := (holds_of_link linked sequenced).1
  rw [List.map_append, List.map_singleton] at names
  obtain ⟨front, back, entriesEq, _, backNames⟩ := List.map_eq_append_iff.1 names
  obtain ⟨⟨_, map⟩, rfl, rfl⟩ := List.map_eq_singleton_iff.1 backNames
  have found : image.units.get? program.name = some map := by
    rw [Table.get?_eq_some_iff, entriesEq]
    exact List.mem_append_right _ List.mem_cons_self
  have inits : image.initOrder = front.map initEntry ++ [⟨program.name, map.init⟩] := by
    rw [(orders_of_link linked).1, entriesEq, List.map_append]
    rfl
  have main : image.main = map.init := by
    have last : layout.initOrder = front.map initEntry ++ [⟨program.name, map.init⟩] := by
      rw [← inits, imageEq]
      rfl
    rw [imageEq, Layout.toImage, Layout.mainAddress, last, List.getLast?_concat]
  exact ⟨_, map, found, main, by rw [inits, main]⟩

/-- A block that is not empty and returns at its last address. -/
def EndsWithReturn (image : Image) (block : Block) : Prop :=
  block.start.toNat < block.stop.toNat
    ∧ image.instructions[block.stop.toNat - 1]? = some .ret

/-- A section that gets a return ends with it. -/
theorem Turn.endsWithReturn (turn : Turn units program options)
    (linked : link units program options = .ok image) {stream : Section}
    (getsReturn : Scope.trailer stream = [.ret]) :
    EndsWithReturn image (turn.map.block stream) := by
  have start : (turn.map.block stream).start = turn.map.base stream := by
    cases stream <;> rfl
  have stop := turn.toNat_block_stop stream
  rw [getsReturn, List.length_singleton] at stop
  have inside : IsInside turn.unit stream (turn.unit.code.stream stream).length := by
    cases stream with
    | body => cases getsReturn
    | init => exact Nat.le_refl _
    | final => exact Nat.le_refl _
  refine ⟨by rw [start]; omega, ?_⟩
  rw [stop, ← Nat.add_assoc, Nat.add_sub_cancel]
  exact turn.image_return linked inside

/-- The blocks of an image run in an order in which everything is initialized before
it is used. -/
structure InitializesSafely (units : List ObjectUnit) (program : ObjectUnit) (options : Options)
    (image : Image) : Prop where
  /-- Every linked unit is initialized once. -/
  initOnce : (image.initOrder.map EntryPoint.unit).Nodup
  initAll : ∀ name, name ∈ image.initOrder.map EntryPoint.unit
    ↔ ∃ unit ∈ linkedUnits units program options.stripUnused, unit.name = name
  /-- The program comes last, at the address of its main block. -/
  mainLast : ∃ others map, image.units.get? program.name = some map ∧ image.main = map.init
    ∧ image.initOrder = others ++ [⟨program.name, image.main⟩]
  /-- What a unit uses is initialized before it and finalized after it. -/
  usesBefore : ∀ user ∈ linkedUnits units program options.stripUnused, ∀ used,
    Relation.TransGen (UsesSupplied units) user used →
      [used.name, user.name].Sublist (image.initOrder.map EntryPoint.unit)
        ∧ [user.name, used.name].Sublist (image.finalOrder.map EntryPoint.unit)
  finalReversed : image.finalOrder.map EntryPoint.unit
    = (image.initOrder.map EntryPoint.unit).reverse
  initAddress : ∀ entry ∈ image.initOrder, ∃ map, image.units.get? entry.unit = some map
    ∧ entry.address = map.init
  finalAddress : ∀ entry ∈ image.finalOrder, ∃ map, image.units.get? entry.unit = some map
    ∧ entry.address = map.final
  mapOrder : image.units.names = image.initOrder.map EntryPoint.unit
  /-- The initialization and the finalization block of a unit return at their ends. -/
  blocksReturn : ∀ name map, image.units.get? name = some map →
    EndsWithReturn image (map.block .init) ∧ EndsWithReturn image (map.block .final)

/-- Along uses, names stand in the order of placement. -/
theorem sublist_of_chain {ordered : List ObjectUnit}
    (sequenced : sequence units program options = .ok ordered) {user used : ObjectUnit}
    (isLinked : user ∈ ordered) (chain : Relation.TransGen (UsesSupplied units) user used) :
    [used.name, user.name].Sublist (ordered.map ObjectUnit.name) := by
  obtain ⟨earlier, later, rfl⟩ := List.append_of_mem isLinked
  have isEarlier := mem_earlier_of_chain sequenced chain
  have pair : [used, user].Sublist (earlier ++ user :: later) :=
    (List.singleton_sublist.2 isEarlier).append (List.singleton_sublist.2 List.mem_cons_self)
  exact pair.map ObjectUnit.name

/-- Everything is initialized before it is used, and finalized after. -/
theorem initialization_safe (linked : link units program options = .ok image) :
    InitializesSafely units program options image := by
  obtain ⟨ordered, _, sequenced, _, _⟩ := link_eq_ok.1 linked
  obtain ⟨names, _, _⟩ := holds_of_link linked sequenced
  obtain ⟨inits, finals⟩ := orders_of_link linked
  have members := sequence_perm sequenced
  refine ⟨?_, ?_, exists_initOrder_eq linked, ?_, ?_, ?_, ?_, (map_unit_initOrder linked).symm, ?_⟩
  · rw [map_unit_initOrder linked]
    exact image.units.distinct
  · intro name
    rw [map_unit_initOrder linked, names, List.mem_map]
    exact exists_congr fun unit => and_congr_left fun _ => members.mem_iff
  · intro user isLinked used chain
    have before := sublist_of_chain sequenced (members.mem_iff.2 isLinked) chain
    rw [← names] at before
    rw [map_unit_initOrder linked, map_unit_finalOrder linked]
    exact ⟨before, List.reverse_sublist.2 before⟩
  · rw [map_unit_finalOrder linked, map_unit_initOrder linked]
  · intro entry member
    rw [inits] at member
    obtain ⟨⟨name, map⟩, isPlaced, rfl⟩ := List.mem_map.1 member
    exact ⟨map, Table.get?_eq_some_iff.2 isPlaced, rfl⟩
  · intro entry member
    rw [finals, List.mem_reverse] at member
    obtain ⟨⟨name, map⟩, isPlaced, rfl⟩ := List.mem_map.1 member
    exact ⟨map, Table.get?_eq_some_iff.2 isPlaced, rfl⟩
  · intro name map found
    obtain ⟨turn, _, rfl⟩ := Turn.exists_of_name linked found
    exact ⟨turn.endsWithReturn linked rfl, turn.endsWithReturn linked rfl⟩

section Report

/-- A unit that shows what `tally` counts. -/
def report : ObjectUnit :=
  (ObjectUnit.empty "Report" .unit none).attemptAll
    [.use "Tally" none, .begin "show" (.ofSignature ⟨[], none⟩ .interface),
      .emit (.load (.named "count")), .emit .ret, .select .final, .emit (.call (.routine "step") 0)]

/-- A program that needs `tally` through `report` alone. -/
def reportProgram : ObjectUnit :=
  (ObjectUnit.empty "Main" .program none).attemptAll
    [.use "Report" none, .select .init, .emit (.call (.routine "show") 0)]

theorem link_report : ∃ image, link [report, tally] reportProgram .standard = .ok image :=
  exists_ok_of_isOk (by cbv)

end Report

/-- A unit that the program uses only through another one. -/
theorem initialization_safe_report :
    ∃ image, link [report, tally] reportProgram .standard = .ok image
      ∧ InitializesSafely [report, tally] reportProgram .standard image
      ∧ [tally.name, reportProgram.name].Sublist (image.initOrder.map EntryPoint.unit) := by
  obtain ⟨image, linked⟩ := link_report
  have safe := initialization_safe linked
  have first : UsesSupplied [report, tally] reportProgram report := by
    have clause : reportProgram.usedNames = [report.name] := by cbv
    exact ⟨by simp, by simp [clause]⟩
  have second : UsesSupplied [report, tally] report tally := by
    have clause : report.usedNames = [tally.name] := by cbv
    exact ⟨by simp, by simp [clause]⟩
  have isLinked : reportProgram ∈ linkedUnits [report, tally] reportProgram false :=
    mem_linkedUnits.2 (.inr rfl)
  exact ⟨image, linked, safe, (safe.usesBefore _ isLinked _ (.tail (.single first) second)).1⟩

end UnitLinker.Link
