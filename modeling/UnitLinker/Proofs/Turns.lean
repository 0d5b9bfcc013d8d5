import Mathlib
import UnitLinker.ObjectUnit.Builder
import UnitLinker.Proofs.Placement

/-!
# Turns

A run takes units one at a time. A `Turn` is the moment at which one of them is
relocated: what has been placed before it, and where its own code and symbols go.
In a successful run every unit has its turn, and nothing that is fixed at that
moment changes later. A unit that is refused at its turn ends the run.
-/

namespace UnitLinker.Link

/-- The moment of a run at which a unit is relocated: all units before it are
placed, and its own blocks and symbols are fixed. -/
structure Turn (units : List ObjectUnit) (program : ObjectUnit) (options : Options) where
  earlier : List ObjectUnit
  unit : ObjectUnit
  later : List ObjectUnit
  before : Layout
  reservation : Reservation
  map : UnitMap
  sequenced : sequence units program options = .ok (earlier ++ unit :: later)
  placed : (Layout.fresh options).placeAll earlier = .ok before
  reserved : before.reserve unit = .ok reservation
  mapped : Layout.unitMap unit reservation = .ok map

namespace Turn

variable {units : List ObjectUnit} {program : ObjectUnit} {options : Options} {image : Image}

/-- What the references of the unit are resolved in. -/
def scope (turn : Turn units program options) : Scope :=
  ⟨turn.unit, turn.map, turn.before.units⟩

/-- At its turn, a unit finds the units before it placed. -/
theorem holds (turn : Turn units program options) : Holds turn.before turn.earlier := by
  have distinct := sequence_names_nodup turn.sequenced
  rw [List.map_append, List.nodup_append] at distinct
  exact (holds_fresh options).placeAll distinct.1 turn.placed

/-- The unit is a supplied one or the program. -/
theorem unit_mem (turn : Turn units program options) :
    turn.unit ∈ units ∨ turn.unit = program :=
  mem_of_sequence turn.sequenced (List.mem_append_right _ List.mem_cons_self)

/-- No later unit has the name of the unit. -/
theorem name_not_mem_later (turn : Turn units program options) :
    turn.unit.name ∉ turn.later.map ObjectUnit.name := by
  have distinct := sequence_names_nodup turn.sequenced
  rw [List.map_append, List.map_cons, List.nodup_append] at distinct
  exact (List.nodup_cons.1 distinct.2.1).1

/-- A name that was placed does not come again. -/
theorem not_mem_rest_of_mem_earlier (turn : Turn units program options) {name : String}
    (member : name ∈ turn.earlier.map ObjectUnit.name) :
    name ∉ (turn.unit :: turn.later).map ObjectUnit.name := by
  have distinct := sequence_names_nodup turn.sequenced
  rw [List.map_append, List.nodup_append] at distinct
  intro later
  exact distinct.2.2 name member name later rfl

theorem map_eq (turn : Turn units program options) : turn.map = mapIn turn.unit turn.reservation :=
  (Layout.unitMap_eq_ok.1 turn.mapped).2.2

/-- The code up to a unit has fewer words than there are. -/
theorem code_fits (turn : Turn units program options) :
    extent Layout.codeLength turn.earlier + Layout.codeLength turn.unit < 2 ^ 64 := by
  have fits := (Layout.reserve_eq_ok.1 turn.reserved).2.1
  rw [turn.holds.codeNext] at fits
  exact Nat.lt_of_le_of_lt fits turn.before.code.limit.toNat_lt

/-- The address of a section is the number of instructions before it. -/
theorem toNat_base (turn : Turn units program options) (stream : Section) :
    (turn.map.base stream).toNat
      = extent Layout.codeLength turn.earlier + sectionStart turn.unit stream := by
  obtain ⟨_, _, reservationEq⟩ := Layout.reserve_eq_ok.1 turn.reserved
  have start : turn.reservation.code.start.toNat = extent Layout.codeLength turn.earlier := by
    rw [reservationEq]
    exact turn.holds.codeNext
  have fits := turn.code_fits
  rw [Layout.codeLength, ← start] at fits
  have init : (turn.reservation.code.start + UInt64.ofNat turn.unit.code.body.length).toNat
      = turn.reservation.code.start.toNat + turn.unit.code.body.length :=
    toNat_add_ofNat (by omega)
  rw [turn.map_eq, ← start]
  cases stream with
  | body => rfl
  | init => exact init
  | final =>
    simp only [UnitMap.base, mapIn, sectionStart]
    rw [toNat_add_ofNat (by rw [init]; omega), init]
    omega

/-- The address of a position in the unit is that of its section and its offset there. -/
theorem toNat_of_addressOf (turn : Turn units program options) {position : CodeOffset}
    {word : UInt64} (addressed : turn.scope.addressOf position = .ok word) :
    IsInside turn.unit position.stream position.offset.toNat
      ∧ word.toNat = (turn.map.base position.stream).toNat + position.offset.toNat := by
  obtain ⟨inside, wordEq⟩ := Scope.addressOf_eq_ok.1 addressed
  refine ⟨inside, ?_⟩
  have bound : sectionStart turn.unit _ + _ < _ := sectionStart_add_lt inside
  have fits := turn.code_fits
  have base := turn.toNat_base position.stream
  rw [wordEq]
  refine toNat_add_word ?_
  change (turn.map.base position.stream).toNat + _ < _
  omega

/-- The code of a unit stops where the code up to it is counted to. -/
theorem toNat_stop (turn : Turn units program options) :
    turn.map.stop.toNat
      = extent Layout.codeLength turn.earlier + Layout.codeLength turn.unit := by
  obtain ⟨_, _, reservationEq⟩ := Layout.reserve_eq_ok.1 turn.reserved
  have fits := turn.code_fits
  rw [← turn.holds.codeNext] at fits ⊢
  rw [turn.map_eq, reservationEq]
  exact toNat_add_ofNat fits

/-- The initialization block follows the body. -/
theorem body_stop (turn : Turn units program options) : turn.map.body.stop = turn.map.init := by
  rw [turn.map_eq]
  rfl

/-- The block of a section ends after its instructions and the return that it may get. -/
theorem toNat_block_stop (turn : Turn units program options) (stream : Section) :
    (turn.map.block stream).stop.toNat = (turn.map.base stream).toNat
      + ((turn.unit.code.stream stream).length + (Scope.trailer stream).length) := by
  have body := turn.toNat_base .body
  have init := turn.toNat_base .init
  have final := turn.toNat_base .final
  have stop := turn.toNat_stop
  simp only [UnitMap.base, sectionStart, Layout.codeLength] at body init final stop
  cases stream <;> simp only [UnitMap.block, UnitMap.base, Code.stream, Scope.trailer,
    List.length_nil, List.length_singleton, turn.body_stop] <;> omega

/-- The slots of a unit start after those of the units before it. -/
theorem toNat_globals_start (turn : Turn units program options) :
    turn.map.globals.start.toNat = extent slotCount turn.earlier := by
  obtain ⟨_, _, reservationEq⟩ := Layout.reserve_eq_ok.1 turn.reserved
  rw [turn.map_eq, reservationEq]
  exact turn.holds.globalsNext

/-- The slots of a unit are as many as it declares. -/
theorem toNat_globals_stop (turn : Turn units program options) :
    turn.map.globals.stop.toNat = extent slotCount turn.earlier + slotCount turn.unit := by
  obtain ⟨fits, _, reservationEq⟩ := Layout.reserve_eq_ok.1 turn.reserved
  have bound := turn.before.globals.limit.toNat_lt
  rw [turn.map_eq, reservationEq, ← turn.holds.globalsNext]
  exact toNat_add_ofNat (by omega)

/-- Every unit that a run has placed had its turn, and is placed as it was then. -/
theorem exists_of_placeAll {earlier rest later : List ObjectUnit} {unit : ObjectUnit}
    {layout : Layout}
    (sequenced : sequence units program options = .ok ((earlier ++ unit :: rest) ++ later))
    (placed : (Layout.fresh options).placeAll (earlier ++ unit :: rest) = .ok layout) :
    ∃ turn : Turn units program options, turn.earlier = earlier ∧ turn.unit = unit
      ∧ layout.units.get? unit.name = some turn.map
      ∧ ∃ code, turn.scope.relocateAll = .ok code := by
  obtain ⟨before, placedBefore, others⟩ := placeAll_append_eq_ok.1 placed
  obtain ⟨next, placedUnit, placedRest⟩ := placeAll_cons_eq_ok.1 others
  obtain ⟨reservation, map, code, reserved, mapped, relocated, rfl⟩ :=
    Layout.place_eq_ok.1 placedUnit
  rw [List.append_assoc, List.cons_append] at sequenced
  let turn : Turn units program options := ⟨earlier, unit, rest ++ later, before, reservation, map,
    sequenced, placedBefore, reserved, mapped⟩
  refine ⟨turn, rfl, rfl, ?_, code, relocated⟩
  have new : unit.name ∉ rest.map ObjectUnit.name := by
    have notLater := turn.name_not_mem_later
    rw [List.map_append, List.mem_append, not_or] at notLater
    exact notLater.1
  rw [get?_placeAll placedRest new]
  exact Table.get?_insert_self _ _ _

/-- In a run that succeeds, every unit of the sequence has a turn. -/
theorem exists_of_linked {earlier later : List ObjectUnit} {unit : ObjectUnit}
    (linked : link units program options = .ok image)
    (sequenced : sequence units program options = .ok (earlier ++ unit :: later)) :
    ∃ turn : Turn units program options, turn.earlier = earlier ∧ turn.unit = unit := by
  obtain ⟨ordered, layout, sequencedAll, placed, rfl⟩ := link_eq_ok.1 linked
  rw [sequenced] at sequencedAll
  cases sequencedAll
  rw [← List.append_nil (earlier ++ unit :: later)] at sequenced
  obtain ⟨turn, earlierEq, unitEq, _⟩ := exists_of_placeAll sequenced placed
  exact ⟨turn, earlierEq, unitEq⟩

/-- Every unit that is placed has its turn, with the others before and after it. -/
theorem exists_of_mem {ordered : List ObjectUnit} {unit : ObjectUnit}
    (linked : link units program options = .ok image)
    (sequenced : sequence units program options = .ok ordered) (isLinked : unit ∈ ordered) :
    ∃ turn : Turn units program options, turn.unit = unit
      ∧ ordered = turn.earlier ++ turn.unit :: turn.later := by
  obtain ⟨earlier, later, orderedEq⟩ := List.append_of_mem isLinked
  rw [orderedEq] at sequenced
  obtain ⟨turn, _, unitEq⟩ := exists_of_linked linked sequenced
  exact ⟨turn, unitEq, orderedEq.trans (Except.ok.inj (sequenced.symm.trans turn.sequenced))⟩

/-- The units that a unit uses had their turns before. -/
theorem exists_of_use (turn : Turn units program options) {name : String}
    (member : name ∈ turn.unit.usedNames) :
    ∃ needed : Turn units program options, needed.unit ∈ units ∧ needed.unit.name = name
      ∧ turn.before.units.get? name = some needed.map := by
  obtain ⟨unit, isEarlier, supplied, rfl⟩ := exists_earlier_of_use turn.sequenced member
  obtain ⟨before, after, splitEq⟩ := List.append_of_mem isEarlier
  have sequenced := turn.sequenced
  have placed := turn.placed
  rw [splitEq] at sequenced placed
  obtain ⟨needed, _, rfl, found, _⟩ := exists_of_placeAll sequenced placed
  exact ⟨needed, supplied, rfl, found⟩

/-- In a successful run every turn is completed: the image has the map of the
unit, the maps that were there before it, and its relocated code. -/
theorem completed (turn : Turn units program options)
    (linked : link units program options = .ok image) :
    image.units.get? turn.unit.name = some turn.map
      ∧ (∀ name ∈ turn.earlier.map ObjectUnit.name,
        image.units.get? name = turn.before.units.get? name)
      ∧ ∃ code added, turn.scope.relocateAll = .ok code
        ∧ image.instructions = turn.before.instructions ++ (code ++ added) := by
  obtain ⟨ordered, layout, sequenced, placed, rfl⟩ := link_eq_ok.1 linked
  rw [turn.sequenced] at sequenced
  cases sequenced
  obtain ⟨before, placedBefore, others⟩ := placeAll_append_eq_ok.1 placed
  rw [turn.placed] at placedBefore
  cases placedBefore
  obtain ⟨next, placedUnit, placedRest⟩ := placeAll_cons_eq_ok.1 others
  obtain ⟨reservation, map, code, reserved, mapped, relocated, rfl⟩ :=
    Layout.place_eq_ok.1 placedUnit
  rw [turn.reserved] at reserved
  cases reserved
  rw [turn.mapped] at mapped
  cases mapped
  obtain ⟨added, addedEq⟩ := instructions_placeAll placedRest
  refine ⟨?_, ?_, code, added, relocated, ?_⟩
  · exact (get?_placeAll placedRest turn.name_not_mem_later).trans (Table.get?_insert_self _ _ _)
  · intro name member
    exact get?_placeAll others (turn.not_mem_rest_of_mem_earlier member)
  · rw [← List.append_assoc]
    exact addedEq

/-- A unit that cannot be relocated at its turn ends the run. -/
theorem link_eq_error (turn : Turn units program options) {error : LinkError}
    (refused : turn.scope.relocateAll = .error error) :
    link units program options = .error (.refused error) := by
  have unitRefused : turn.before.place turn.unit = .error (.refused error) := by
    rw [Layout.place, turn.reserved]
    simp only [refusing, Except.mapError, turn.mapped, bind, Except.bind]
    rw [scope] at refused
    rw [refused]
  have allRefused : (Layout.fresh options).placeAll (turn.earlier ++ turn.unit :: turn.later)
      = .error (.refused error) := by
    have placed := turn.placed
    rw [Layout.placeAll] at placed ⊢
    rw [List.foldlM_append, placed]
    simp only [List.foldlM_cons, unitRefused, bind, Except.bind]
  rw [link, turn.sequenced]
  simp only [refusing, Except.mapError, allRefused, bind, Except.bind]

/-- Every map of an image is that of a turn. -/
theorem exists_of_name {name : String} {map : UnitMap}
    (linked : link units program options = .ok image) (found : image.units.get? name = some map) :
    ∃ turn : Turn units program options, turn.unit.name = name ∧ turn.map = map := by
  obtain ⟨ordered, _, sequenced, _, _⟩ := link_eq_ok.1 linked
  have member : name ∈ image.units.names :=
    List.mem_map.2 ⟨_, Table.get?_eq_some_iff.1 found, rfl⟩
  rw [(holds_of_link linked sequenced).1] at member
  obtain ⟨owner, isLinked, rfl⟩ := List.mem_map.1 member
  obtain ⟨turn, rfl, _⟩ := exists_of_mem linked sequenced isLinked
  exact ⟨turn, rfl, Option.some.inj ((turn.completed linked).1.symm.trans found)⟩

/-- The code of a unit in the image of a successful run. -/
theorem exists_code (turn : Turn units program options)
    (linked : link units program options = .ok image) :
    ∃ code, turn.scope.relocateAll = .ok code
      ∧ ∀ stream offset, IsInside turn.unit stream offset →
        image.instructions[(turn.map.base stream).toNat + offset]?
          = code[sectionStart turn.unit stream + offset]? := by
  obtain ⟨_, _, code, added, relocated, instructionsEq⟩ := turn.completed linked
  refine ⟨code, relocated, fun stream offset inside => ?_⟩
  have codeInside : sectionStart turn.unit stream + offset < code.length := by
    rw [Scope.length_relocateAll relocated]
    exact sectionStart_add_lt inside
  rw [instructionsEq, turn.toNat_base, ← turn.holds.length, Nat.add_assoc,
    getElem?_middle codeInside]

/-- An instruction of a unit stands in the image at its own offset, relocated. -/
theorem image_source (turn : Turn units program options)
    (linked : link units program options = .ok image) {stream : Section} {offset : Nat}
    {source : Instruction} (found : (turn.unit.code.stream stream)[offset]? = some source) :
    ∃ target, turn.scope.relocate stream source = .ok target
      ∧ image.instructions[(turn.map.base stream).toNat + offset]? = some target := by
  obtain ⟨code, relocated, places⟩ := turn.exists_code linked
  obtain ⟨target, targetEq, targetFound⟩ := Scope.relocateAll_source relocated found
  have inside := isInside_of_lt (List.getElem?_eq_some_iff.1 found).1
  exact ⟨target, targetEq, by rw [places stream offset inside]; exact targetFound⟩

/-- A section whose end is inside has a return there. -/
theorem image_return (turn : Turn units program options)
    (linked : link units program options = .ok image) {stream : Section}
    (inside : IsInside turn.unit stream (turn.unit.code.stream stream).length) :
    image.instructions[(turn.map.base stream).toNat + (turn.unit.code.stream stream).length]?
      = some .ret := by
  obtain ⟨code, relocated, places⟩ := turn.exists_code linked
  rw [places stream _ inside]
  exact Scope.relocateAll_return relocated inside

end Turn

section Tally

/-- A unit that counts up to a limit of its own. -/
def tally : ObjectUnit :=
  (ObjectUnit.empty "Tally" .unit none).attemptAll
    [.var "limit" .implementation, .var "count" .interface,
      .begin "step" (.ofSignature ⟨[], none⟩ .interface), .emit (.load (.slot 0)),
      .emit (.store (.named "count")), .emit .ret]

/-- A program that counts with `tally`. Its last jump leads to the return of the
main block. -/
def tallyProgram : ObjectUnit :=
  (ObjectUnit.empty "Main" .program none).attemptAll
    [.use "Tally" none, .var "total" .implementation, .select .init, .label "again",
      .emit (.call (.qualified "Tally" "step") 0), .emit (.load (.named "count")),
      .emit (.jumpIf (.label "again")), .emit (.store (.slot 0)), .emit (.jump (.offset 5))]

theorem link_tally : ∃ image, link [tally] tallyProgram .standard = .ok image :=
  exists_ok_of_isOk (by cbv)

end Tally

end UnitLinker.Link
