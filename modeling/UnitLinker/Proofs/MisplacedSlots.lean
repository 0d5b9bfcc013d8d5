import Mathlib
import UnitLinker.Proofs.BlockMoves
import UnitLinker.Proofs.LinkedUnits
import UnitLinker.Proofs.Refusals
import UnitLinker.Proofs.StoredUnits

/-!
# Units that declare slots they do not have

Units come from files, so what they declare may be inconsistent. Entries of routines,
labels, jumps and slot operands are checked when a unit is placed. The slots that
variables are declared with are not: they alone can lead out of the block of a unit,
out of the table of globals, or past the last word.
-/

namespace UnitLinker

/-- A word that stands in a block. -/
def Block.Contains (block : Block) (word : UInt64) : Prop :=
  block.start.toNat ≤ word.toNat ∧ word.toNat < block.stop.toNat

/-- An operand that is a slot or an address of an image. -/
def Image.HasPlace (image : Image) : Operand → Prop
  | .var (.global slot) => slot.toNat < image.globals.length
  | .target (.address address) | .callee (.address address) =>
    address.toNat < image.instructions.length
  | _ => False

namespace Link

variable {units : List ObjectUnit} {program : ObjectUnit} {options : Options} {image : Image}
  {turn : Turn units program options} {name : String}

/-- An operand that is the slot of a variable that its unit misplaces. -/
def IsStray (units : List ObjectUnit) (program : ObjectUnit) (options : Options) (image : Image)
    (operand : Operand) : Prop :=
  ∃ unit ∈ linkedUnits units program options.stripUnused, ∃ name slot, unit.Misplaces name
    ∧ image.globalSlot? unit.name name = some slot ∧ operand = .var (.global slot)

/-- What holds of a unit in an image, whatever the unit declares: routines are in its
body, variables that it does not misplace are in its block of globals, and operands that
are rewritten are places of the image unless they refer to a variable that is misplaced. -/
structure Confined (units : List ObjectUnit) (program : ObjectUnit) (options : Options)
    (image : Image) (unit : ObjectUnit) (map : UnitMap) : Prop where
  routines : ∀ name symbol, map.routines.get? name = some symbol →
    map.body.Contains symbol.address
  vars : ∀ name symbol, map.vars.get? name = some symbol →
    (map.globals.Contains symbol.global ↔ ¬ unit.Misplaces name)
  operands : ∀ stream offset source, (unit.code.stream stream)[offset]? = some source →
    source.isLinked = false → ∃ operand,
      image.instructions[(map.base stream).toNat + offset]? = some (source.withOperand operand)
        ∧ (image.HasPlace operand ∨ IsStray units program options image operand)

theorem misplaces_iff {unit : ObjectUnit} {entry : Variable}
    (declared : unit.vars.get? name = some entry) :
    unit.Misplaces name ↔ unit.vars.size ≤ entry.slot.toNat := by
  constructor
  · rintro ⟨other, found, outside⟩
    rw [declared] at found
    cases found
    exact outside
  · exact fun outside => ⟨entry, declared, outside⟩

namespace Turn

/-- A routine of a placed unit is in its body. -/
theorem body_contains {symbol : RoutineSymbol}
    (found : turn.map.routines.get? name = some symbol) :
    turn.map.body.Contains symbol.address := by
  have own : SymbolKind.routine.lookup.own turn.map name = some symbol.address :=
    Option.map_eq_some_iff.2 ⟨symbol, found, rfl⟩
  rw [turn.own_eq] at own
  rcases Option.map_eq_some_iff.1 own with ⟨entry, declared, addressEq⟩
  have inside := turn.routine_entry_lt declared
  have inCode : entry.toNat < wordCount .code turn.unit := by
    rw [wordCount, Layout.codeLength]
    omega
  have address := turn.toNat_taken_add inCode
  have start : turn.map.body.start.toNat = _ := turn.toNat_base .body
  have stop : turn.map.body.stop.toNat = turn.map.body.start.toNat + _ :=
    turn.toNat_block_stop .body
  rw [Block.Contains, ← addressEq, SymbolKind.space, address, stop, start]
  simp only [wordCount, sectionStart, Code.stream, Scope.trailer, List.length_nil]
  omega

/-- The slot of a variable is what its unit declares, counted from its first slot. -/
theorem toNat_global {symbol : VariableSymbol} {entry : Variable}
    (found : turn.map.vars.get? name = some symbol)
    (declared : turn.unit.vars.get? name = some entry) :
    symbol.global.toNat = turn.map.globals.start.toNat + entry.slot.toNat := by
  have fits := (Layout.unitMap_eq_ok.1 turn.mapped).2.1 _ (Table.get?_eq_some_iff.1 declared)
  rw [turn.map_eq] at found ⊢
  simp only [mapIn, Table.get?_map, declared, Option.map_some, Option.some.injEq] at found
  rw [← found]
  exact toNat_add_word fits

/-- A variable of a placed unit is in its block of globals unless it is misplaced. -/
theorem globals_contains_iff {symbol : VariableSymbol}
    (found : turn.map.vars.get? name = some symbol) :
    turn.map.globals.Contains symbol.global ↔ ¬ turn.unit.Misplaces name := by
  have declared := found
  rw [turn.map_eq] at declared
  simp only [mapIn, Table.get?_map] at declared
  rcases Option.map_eq_some_iff.1 declared with ⟨entry, entryFound, _⟩
  have start := turn.toNat_globals_start
  have stop : turn.map.globals.stop.toNat = _ + turn.unit.vars.size := turn.toNat_globals_stop
  rw [Block.Contains, turn.toNat_global found entryFound, stop, start, misplaces_iff entryFound]
  omega

end Turn

section Operands

variable (linked : link units program options = .ok image)
include linked

/-- The place of a symbol is one of the image unless its unit misplaces it. -/
theorem place_cases {kind : SymbolKind} {owner : String} {place : UInt64}
    (recorded : image.place? kind owner name = some place) :
    image.HasPlace (kind.linkedOperand place)
      ∨ IsStray units program options image (kind.linkedOperand place) := by
  rcases Turn.exists_offset_of_place linked recorded with ⟨turn, offset, rfl, declared, rfl⟩
  by_cases inside : offset.toNat < wordCount kind.space turn.unit
  · left
    have isAt := Turn.isAt_iff.2 ⟨inside, turn.toNat_taken_add inside⟩
    have within := lt_size_of_isAt linked isAt
    cases kind <;> exact within
  · right
    cases kind with
    | routine =>
      -- Entries are checked against the body when the unit is placed.
      have entry := turn.routine_entry_lt declared
      simp only [SymbolKind.space, wordCount, Layout.codeLength] at inside
      omega
    | var =>
      rcases Option.map_eq_some_iff.1 declared with ⟨entry, entryFound, rfl⟩
      exact ⟨turn.unit, turn.mem_linkedUnits, name, _, ⟨entry, entryFound, Nat.not_lt.1 inside⟩,
        recorded, rfl⟩

/-- A position in a unit has an address of the image. -/
theorem hasPlace_of_addressOf {position : CodeOffset} {word : UInt64}
    (addressed : turn.scope.addressOf position = .ok word) :
    word.toNat < image.instructions.length := by
  rcases turn.toNat_of_addressOf addressed with ⟨inside, wordNat⟩
  have owned : sectionStart turn.unit position.stream + position.offset.toNat
      < wordCount .code turn.unit := sectionStart_add_lt inside
  rw [turn.toNat_base, Nat.add_assoc] at wordNat
  exact lt_size_of_isAt linked (Turn.isAt_iff.2 ⟨owned, wordNat⟩)

/-- What becomes of an operand that is not linked yet. -/
theorem operand_cases {stream : Section} {operand moved : Operand}
    (isOpen : operand.isLinked = false)
    (relocated : turn.scope.relocateOperand stream operand = .ok moved) :
    image.HasPlace moved ∨ IsStray units program options image moved := by
  have referring : ∀ reference, operand.reference? = some reference →
      image.HasPlace moved ∨ IsStray units program options image moved := by
    intro reference refers
    rw [Scope.relocateOperand_of_reference refers] at relocated
    rcases map_eq_ok.1 relocated with ⟨place, resolved, rfl⟩
    rcases Turn.exists_owner_of_resolve resolved with ⟨owner, _, recorded⟩
    exact place_cases linked (Turn.place?_completed linked recorded)
  cases operand with
  | var var =>
    cases var with
    | named _ | qualified _ _ => exact referring _ rfl
    | frame _ _ | global _ => cases isOpen
    | slot slot =>
      rcases map_eq_ok.1 relocated with ⟨_, varMoved, rfl⟩
      rcases Scope.relocateVar_slot_eq_ok.1 varMoved with ⟨inside, rfl⟩
      have owned : slot.toNat < wordCount .globals turn.unit := inside
      left
      exact lt_size_of_isAt linked (Turn.isAt_iff.2 ⟨owned, turn.toNat_taken_add owned⟩)
  | target target =>
    rcases map_eq_ok.1 relocated with ⟨_, targetMoved, rfl⟩
    left
    cases target with
    | address _ => cases isOpen
    | offset offset =>
      rcases Scope.relocateTarget_offset_eq_ok.1 targetMoved with ⟨word, addressed, rfl⟩
      exact hasPlace_of_addressOf linked addressed
    | label name =>
      rcases Scope.relocateTarget_label_eq_ok.1 targetMoved with
        ⟨position, word, _, addressed, rfl⟩
      exact hasPlace_of_addressOf linked addressed
  | callee callee =>
    cases callee with
    | routine _ | qualified _ _ => exact referring _ rfl
    | address _ => cases isOpen

/-- Every placed unit is confined to its blocks. -/
theorem Turn.confined (turn : Turn units program options) :
    Confined units program options image turn.unit turn.map where
  routines _ _ found := Turn.body_contains found
  vars _ _ found := Turn.globals_contains_iff found
  operands stream offset source found isOpen := by
    rcases turn.image_source linked found with ⟨target, relocated, standsAt⟩
    rw [source.isLinked_eq] at isOpen
    cases has : source.operand? with
    | none =>
      rw [has] at isOpen
      cases isOpen
    | some operand =>
      rw [has, Option.all_some] at isOpen
      rw [Scope.relocate_of_operand has] at relocated
      rcases map_eq_ok.1 relocated with ⟨moved, operandMoved, rfl⟩
      exact ⟨moved, standsAt, operand_cases linked isOpen operandMoved⟩

end Operands

/-- A run computes past the last word only for a variable that its unit misplaces. -/
theorem exists_misplaced_of_fault {fault : Fault}
    (failed : link units program options = .error (.fault fault)) :
    ∃ unit ∈ linkedUnits units program options.stripUnused, ∃ name, unit.Misplaces name := by
  rcases link_eq_error_cases failed with ⟨_, _, isRefusal⟩ | ⟨stop, refusal⟩
  · cases isRefusal
  · have member : stop.unit ∈ linkedUnits units program options.stripUnused :=
      (sequence_perm stop.sequenced).mem_iff.1 (List.mem_append_right _ List.mem_cons_self)
    exact ⟨stop.unit, member, refusal.exists_misplaced⟩

/-- Malformed units are refused or linked in bounds, but for variables that a unit declares
with a slot that it does not have. -/
theorem malformed_units_confined (units : List ObjectUnit) (program : ObjectUnit)
    (options : Options) :
    (∀ fault, link units program options = .error (.fault fault) →
      ∃ unit ∈ linkedUnits units program options.stripUnused, ∃ name, unit.Misplaces name)
    ∧ ∀ image, link units program options = .ok image →
      ∀ name map, image.units.get? name = some map →
        ∃ unit ∈ linkedUnits units program options.stripUnused, unit.name = name
          ∧ Confined units program options image unit map := by
  constructor
  · intro fault failed
    exact exists_misplaced_of_fault failed
  · intro image linked name map found
    rcases Turn.exists_of_name linked found with ⟨turn, nameEq, rfl⟩
    exact ⟨turn.unit, turn.mem_linkedUnits, nameEq, turn.confined linked⟩

section Stray

/-- A unit that declares its only variable with a given slot, and sets it. -/
def stray (slot : UInt64) : ObjectUnit :=
  { ObjectUnit.empty "Stray" .unit none with
    vars := .ofList [("mark", ⟨slot, .interface⟩)]
    code := ⟨[], [.push (.int 1), .store (.named "mark")], []⟩ }

/-- A program with a variable of its own. -/
def strayProgram : ObjectUnit :=
  (ObjectUnit.empty "Main" .program none).attemptAll
    [.use "Stray" none, .var "total" .implementation]

theorem misplaces_stray {slot : UInt64} (outside : 1 ≤ slot.toNat) :
    (stray slot).Misplaces "mark" := ⟨⟨slot, .interface⟩, rfl, outside⟩

/-- The unit can be read from a file. -/
theorem decode_stray {slot : UInt64} (fits : (stray slot).encode.length < Word.count) :
    ObjectUnit.decode (stray slot).encode = .ok (stray slot) := by
  have read := decode_unit fits []
  rwa [List.append_nil] at read

/-- The slot goes past the last word if another unit comes first. -/
theorem link_stray_last :
    link [tally, stray 0xFFFFFFFFFFFFFFFF] tallyProgram .standard = .error (.fault .overflow) := by
  cbv

/-- The variable of `stray` gets the slot of the program's own variable. -/
theorem link_stray_next : ∃ image, link [stray 1] strayProgram .standard = .ok image
    ∧ image.globalSlot? "Stray" "mark" = some 1 ∧ image.globalSlot? "Main" "total" = some 1 := by
  have slots : (link [stray 1] strayProgram .standard).toOption.map (fun image =>
      (image.globalSlot? "Stray" "mark", image.globalSlot? "Main" "total"))
        = some (some 1, some 1) := by cbv
  have isOk : (link [stray 1] strayProgram .standard).isOk = true := by cbv
  rcases exists_ok_of_isOk isOk with ⟨image, linked⟩
  rw [linked] at slots
  have both := Option.some.inj slots
  exact ⟨image, linked, congrArg Prod.fst both, congrArg Prod.snd both⟩

end Stray

/-- One slot goes past the last word, and one is that of another unit's variable. -/
theorem malformed_units_confined_stray :
    (∃ unit ∈ linkedUnits [tally, stray 0xFFFFFFFFFFFFFFFF] tallyProgram false, ∃ name,
      unit.Misplaces name)
    ∧ ∃ image map symbol, link [stray 1] strayProgram .standard = .ok image
      ∧ image.units.get? "Stray" = some map ∧ map.vars.get? "mark" = some symbol
      ∧ ¬ map.globals.Contains symbol.global := by
  constructor
  · exact (malformed_units_confined _ _ _).1 .overflow link_stray_last
  · rcases link_stray_next with ⟨image, linked, slot, _⟩
    rcases Option.bind_eq_some_iff.1 slot with ⟨map, found, inMap⟩
    rcases Option.bind_eq_some_iff.1 inMap with ⟨symbol, symbolFound, _⟩
    rcases (malformed_units_confined _ _ _).2 image linked "Stray" map found with
      ⟨unit, member, nameEq, confined⟩
    have unitEq : unit = stray 1 := by
      rcases List.mem_cons.1 (mem_cons_of_mem_linkedUnits member) with rfl | supplied
      · exact absurd nameEq (by decide)
      · exact List.mem_singleton.1 supplied
    subst unitEq
    refine ⟨image, map, symbol, linked, found, symbolFound, fun inside => ?_⟩
    exact (confined.vars "mark" symbol symbolFound).1 inside (misplaces_stray (by decide))

/-- Two units that can be read from files: one makes the linker count past the last word,
and the variable of the other one gets the slot of the program's. -/
theorem misplaced_slot_mislinked :
    (ObjectUnit.decode (stray 0xFFFFFFFFFFFFFFFF).encode = .ok (stray 0xFFFFFFFFFFFFFFFF)
      ∧ link [tally, stray 0xFFFFFFFFFFFFFFFF] tallyProgram .standard = .error (.fault .overflow))
    ∧ ObjectUnit.decode (stray 1).encode = .ok (stray 1)
    ∧ ∃ image, link [stray 1] strayProgram .standard = .ok image
      ∧ image.globalSlot? "Stray" "mark" = some 1 ∧ image.globalSlot? "Main" "total" = some 1 :=
  ⟨⟨decode_stray (by decide +kernel), link_stray_last⟩, decode_stray (by decide +kernel),
    link_stray_next⟩

end Link

end UnitLinker
