import Mathlib
import UnitLinker.Proofs.BlockMoves
import UnitLinker.Proofs.LinkedUnits
import UnitLinker.Proofs.Listings

/-!
# Annotations of a listing

Behind a slot and behind the address of a call, a listing gives the name of what is
there. Nothing of an image records these names with the instructions: the name of a
variable is looked up in the table of globals, that of a routine by its address among
the routines of all units. They are the names of the symbols that the source meant.
-/

namespace UnitLinker

/-- What a listing writes in front of the variable of an instruction. -/
def Instruction.beforeVar? : Instruction → Option String
  | .load _ => some "    load "
  | .store _ => some "   store "
  | .addrOf _ => some "  addrof @"
  | _ => none

/-- A routine that is as good as another one of its unit: it has the same entry. -/
structure ObjectUnit.SharesEntry (unit : ObjectUnit) (shown name : String) : Prop where
  declared : (unit.offset? name .routine).isSome
  sameEntry : unit.offset? shown .routine = unit.offset? name .routine
  alone : (∀ other, unit.offset? other .routine = unit.offset? name .routine → other = name) →
    shown = name

namespace Link

/-- The symbol of a unit that an operand in a unit means. -/
inductive Denotes (units : List ObjectUnit) (user : ObjectUnit) :
    Operand → SymbolKind → String → String → Prop where
  /-- A slot means the variable at its place in the order of declaration. -/
  | slot {index : UInt64} {name : String} (declared : user.vars.names[index.toNat]? = some name) :
      Denotes units user (.var (.slot index)) .var user.name name
  | reference {operand : Operand} {reference : Reference} {owner : String}
      (refers : operand.reference? = some reference)
      (bindsTo : BindsTo units user reference owner) :
      Denotes units user operand reference.kind owner reference.name

/-- An instruction stands in an image at the address of a position of a unit. Its text is a
given one, and the listing of the image has a line with the address and this text. -/
def ShowsAt (image : Image) (user : ObjectUnit) (stream : Section) (offset : Nat)
    (instruction : Instruction) (text : String) : Prop :=
  ∃ map, image.units.get? user.name = some map
    ∧ image.instructions[(map.base stream).toNat + offset]? = some instruction
    ∧ instruction.renderIn image.style = text
    ∧ image.ListsAt ((map.base stream).toNat + offset) text

/-- The listing of an image names what the operands of a unit mean. -/
structure NamesTargets (units : List ObjectUnit) (program : ObjectUnit) (image : Image)
    (user : ObjectUnit) : Prop where
  vars : ∀ stream offset source var owner name,
    (user.code.stream stream)[offset]? = some source → source.operand? = some (.var var) →
    Denotes units user (.var var) .var owner name →
    ∃ slot before, image.globalSlot? owner name = some slot ∧ source.beforeVar? = some before
      ∧ ShowsAt image user stream offset (source.withOperand (.var (.global slot)))
        (before ++ s!"G{slot} ({owner}.{name})")
  routines : ∀ stream offset callee argCount owner name,
    (user.code.stream stream)[offset]? = some (.call callee argCount) →
    Denotes units user (.callee callee) .routine owner name →
    ∃ declarer ∈ program :: units, ∃ address shown, declarer.name = owner
      ∧ declarer.SharesEntry shown name ∧ image.routineAddress? owner name = some address
      ∧ ShowsAt image user stream offset (.call (.address address) argCount)
        s!"    call @{address} ({owner}.{shown})/{argCount}"
  complete : IsRelocatable user → ∀ stream, ∀ source ∈ user.code.stream stream, ∀ operand,
    source.operand? = some operand →
      (∃ target, operand = .target target) ∨ (∃ depth slot, operand = .var (.frame depth slot))
        ∨ ∃ kind owner name, Denotes units user operand kind owner name

variable {units : List ObjectUnit} {program : ObjectUnit} {options : Options} {image : Image}
  {turn : Turn units program options} {owner name : String} {address : UInt64}

section Operands

variable {stream : Section} {offset : Nat} {source : Instruction} {operand moved : Operand}
  {kind : SymbolKind}

/-- An instruction is listed with its operand moved. -/
theorem Turn.showsAt (turn : Turn units program options)
    (linked : link units program options = .ok image)
    (found : (turn.unit.code.stream stream)[offset]? = some source)
    (has : source.operand? = some operand)
    (relocated : turn.scope.relocateOperand stream operand = .ok moved) :
    ShowsAt image turn.unit stream offset (source.withOperand moved)
      ((source.withOperand moved).renderIn image.style) := by
  obtain ⟨target, relocatedTo, standsAt⟩ := turn.image_source linked found
  rw [Scope.relocate_of_operand has, relocated] at relocatedTo
  cases relocatedTo
  exact ⟨turn.map, (turn.completed linked).1, standsAt, rfl, listsAt_of_link linked standsAt⟩

/-- An operand becomes the place of the symbol that it means. -/
theorem Denotes.exists_place (denotes : Denotes units turn.unit operand kind owner name)
    (linked : link units program options = .ok image) (inOrder : turn.unit.SlotsInOrder) :
    ∃ place, image.place? kind owner name = some place
      ∧ turn.scope.relocateOperand stream operand = .ok (kind.linkedOperand place) := by
  cases denotes with
  | @slot index name declared =>
    have inside : index.toNat < turn.unit.vars.size := by
      rw [← Table.length_names]
      exact (List.getElem?_eq_some_iff.1 declared).1
    obtain ⟨recorded, _⟩ := Turn.globalSlot?_of_place linked inOrder declared
    rw [UInt64.ofNat_toNat] at recorded
    have moved : turn.scope.relocateVar (.slot index) = .ok (.global _) :=
      Scope.relocateVar_slot_eq_ok.2 ⟨inside, rfl⟩
    exact ⟨_, recorded, map_eq_ok.2 ⟨_, moved, rfl⟩⟩
  | @reference _ reference _ refers bindsTo =>
    rcases turn.resolve_outcome reference with ⟨bound, place, bindsToBound, recorded, resolved⟩
      | ⟨unbound, _⟩
    · cases bindsTo.unique bindsToBound
      refine ⟨place, Turn.place?_completed linked recorded, ?_⟩
      rw [Scope.relocateOperand_of_reference refers, resolved]
      rfl
    · exact absurd bindsTo (unbound _)

/-- An operand that is neither linked nor a jump means a symbol if it has what it needs. -/
theorem denotes_of_resolves {user : ObjectUnit} (resolves : Resolves units user stream operand)
    (isOpen : operand.isPlaced = false) :
    (∃ target, operand = .target target) ∨ (∃ depth slot, operand = .var (.frame depth slot))
      ∨ ∃ kind owner name, Denotes units user operand kind owner name := by
  cases operand with
  | target target => exact .inl ⟨target, rfl⟩
  | var var =>
    cases var with
    | frame depth slot => exact .inr (.inl ⟨depth, slot, rfl⟩)
    | global _ => cases isOpen
    | slot index =>
      have inside : index.toNat < user.vars.names.length := by
        rw [Table.length_names]
        exact resolves
      exact .inr (.inr ⟨_, _, _, .slot (List.getElem?_eq_getElem inside)⟩)
    | named _ | qualified _ _ =>
      obtain ⟨owner, bindsTo⟩ := resolves
      exact .inr (.inr ⟨_, _, _, .reference rfl bindsTo⟩)
  | callee callee =>
    cases callee with
    | address _ => cases isOpen
    | routine _ | qualified _ _ =>
      obtain ⟨owner, bindsTo⟩ := resolves
      exact .inr (.inr ⟨_, _, _, .reference rfl bindsTo⟩)

end Operands

/-- An instruction on a slot is written with the name of the variable that has it. -/
theorem renderIn_global {slot : UInt64} {source : Instruction} {var : VarRef}
    (has : source.operand? = some (.var var))
    (owned : image.globals[slot.toNat]? = some ⟨owner, name⟩) :
    ∃ before, source.beforeVar? = some before
      ∧ (source.withOperand (.var (.global slot))).renderIn image.style
        = before ++ s!"G{slot} ({owner}.{name})" := by
  have text : image.style.var (.global slot) = s!"G{slot} ({owner}.{name})" := by
    simp [Image.style, owned, GlobalVar.text, toString, String.append_assoc]
  cases source <;> cases has <;> refine ⟨_, rfl, ?_⟩ <;> rw [← text] <;> rfl

section Routines

/-- The names at an address are those of the routines there. -/
theorem mem_routineNames {text : String} :
    (address, text) ∈ image.routineNames
      ↔ ∃ unit name, image.routineAddress? unit name = some address
        ∧ text = s!"{unit}.{name}" := by
  simp only [Image.routineNames, List.mem_flatMap, List.mem_map, Prod.mk.injEq,
    Image.routineAddress?]
  constructor
  · rintro ⟨⟨unit, map⟩, isUnit, ⟨name, symbol⟩, isRoutine, rfl, rfl⟩
    refine ⟨unit, name, ?_, rfl⟩
    rw [Table.get?_eq_some_iff.2 isUnit, Option.bind_eq_bind, Option.bind_some,
      Table.get?_eq_some_iff.2 isRoutine]
    rfl
  · rintro ⟨unit, name, recorded, rfl⟩
    obtain ⟨map, mapFound, inMap⟩ := Option.bind_eq_some_iff.1 recorded
    obtain ⟨symbol, symbolFound, given⟩ := Option.bind_eq_some_iff.1 inMap
    cases given
    exact ⟨_, Table.get?_eq_some_iff.1 mapFound, _, Table.get?_eq_some_iff.1 symbolFound, rfl, rfl⟩

/-- At the address of a routine, the look-up by addresses finds a routine. -/
theorem exists_routineAt (recorded : image.routineAddress? owner name = some address) :
    ∃ other shown, image.routineAddress? other shown = some address
      ∧ image.routineAt? address = some s!"{other}.{shown}" := by
  have member : (address, s!"{owner}.{name}") ∈ image.routineNames.reverse :=
    List.mem_reverse.2 (mem_routineNames.2 ⟨owner, name, recorded, rfl⟩)
  cases found : image.routineNames.reverse.lookup address with
  | none => simpa using List.lookup_eq_none_iff.1 found _ member
  | some text =>
    obtain ⟨before, after, split, _⟩ := List.lookup_eq_some_iff.1 found
    have isRoutine : (address, text) ∈ image.routineNames := by
      rw [← List.mem_reverse, split]
      exact List.mem_append_right _ List.mem_cons_self
    obtain ⟨other, shown, otherRecorded, rfl⟩ := mem_routineNames.1 isRoutine
    exact ⟨other, shown, otherRecorded, found⟩

/-- The routines of an image, by the entries that their units declare. -/
theorem exists_entry (linked : link units program options = .ok image)
    (recorded : image.routineAddress? owner name = some address) :
    ∃ (turn : Turn units program options) (entry : UInt64), turn.unit.name = owner
      ∧ turn.unit.offset? name .routine = some entry
      ∧ (turn.map.taken .code).IsAt entry.toNat address.toNat := by
  have place : image.place? .routine owner name = some address := recorded
  obtain ⟨turn, entry, rfl, declared, rfl⟩ := Turn.exists_offset_of_place linked place
  have inBody := turn.routine_entry_lt declared
  have inside : entry.toNat < wordCount .code turn.unit := by
    rw [wordCount, Layout.codeLength]
    omega
  exact ⟨turn, entry, rfl, declared, Turn.isAt_iff.2 ⟨inside, turn.toNat_taken_add inside⟩⟩

/-- Routines at one address are routines of one unit with one entry. -/
theorem exists_sharesEntry (linked : link units program options = .ok image) {other shown : String}
    (recorded : image.routineAddress? owner name = some address)
    (otherRecorded : image.routineAddress? other shown = some address) :
    other = owner ∧ ∃ declarer ∈ program :: units, declarer.name = owner
      ∧ declarer.SharesEntry shown name := by
  obtain ⟨turn, entry, rfl, declared, isAt⟩ := exists_entry linked recorded
  obtain ⟨otherTurn, otherEntry, rfl, otherDeclared, otherAt⟩ := exists_entry linked otherRecorded
  -- the blocks of two units have no word in common
  obtain ⟨sameName, sameEntry⟩ := isAt_unique linked (turn.completed linked).1
    (otherTurn.completed linked).1 isAt otherAt
  have isSupplied : turn.unit ∈ program :: units := List.mem_cons.2 turn.unit_mem.symm
  have sameUnit : turn.unit = otherTurn.unit := eq_of_name_eq_of_link linked isSupplied
    (List.mem_cons.2 otherTurn.unit_mem.symm) sameName
  rw [← sameUnit, ← UInt64.toNat_inj.1 sameEntry, ← declared] at otherDeclared
  refine ⟨sameName.symm, turn.unit, isSupplied, rfl, ?_, otherDeclared, ?_⟩
  · rw [declared]
    rfl
  · intro alone
    exact alone shown otherDeclared

/-- A call is written with the name that is found at its address. -/
theorem renderIn_call {argCount : UInt64}
    (found : image.routineAt? address = some s!"{owner}.{name}") :
    (Instruction.call (.address address) argCount).renderIn image.style
      = s!"    call @{address} ({owner}.{name})/{argCount}" := by
  have column : Instruction.inColumn "call" = "    call" := by decide
  rw [← String.toList_inj]
  simp [Instruction.renderIn, column, Image.style, found, toString]

end Routines

/-- Every linked unit is listed with the names of what its operands mean. -/
theorem Turn.namesTargets (linked : link units program options = .ok image)
    (inOrder : ∀ turn : Turn units program options, turn.unit.SlotsInOrder)
    (turn : Turn units program options) : NamesTargets units program image turn.unit where
  vars := by
    intro stream offset source var owner name found has denotes
    obtain ⟨slot, recorded, relocated⟩ := denotes.exists_place linked (inOrder turn)
    have table := isExactGlobalTable_of_slotsInOrder linked turn.sequenced inOrder
    obtain ⟨before, isBefore, text⟩ :=
      renderIn_global has ((table.slot_iff owner name slot).1 recorded)
    refine ⟨slot, before, recorded, isBefore, ?_⟩
    rw [← text]
    exact turn.showsAt linked found has relocated
  routines := by
    intro stream offset callee argCount owner name found denotes
    obtain ⟨address, recorded, relocated⟩ := denotes.exists_place linked (inOrder turn)
    obtain ⟨other, shown, otherRecorded, atAddress⟩ := exists_routineAt recorded
    obtain ⟨rfl, declarer, isSupplied, nameEq, shares⟩ :=
      exists_sharesEntry linked recorded otherRecorded
    refine ⟨declarer, isSupplied, address, shown, nameEq, shares, recorded, ?_⟩
    rw [← renderIn_call atAddress]
    exact turn.showsAt linked found rfl relocated
  complete := by
    intro relocatable stream source member operand has
    obtain ⟨code, relocated, _⟩ := turn.exists_code linked
    have resolves :=
      turn.exists_relocateAll_iff.1 ⟨code, relocated⟩ stream source member operand has
    have isOpen := relocatable stream source member
    rw [has] at isOpen
    exact denotes_of_resolves resolves isOpen

/-- The annotations of a listing are true. -/
theorem annotations_name_targets (built : ∀ unit ∈ program :: units, unit.IsBuilt)
    (linked : link units program options = .ok image) :
    ∀ user ∈ linkedUnits units program options.stripUnused,
      NamesTargets units program image user := by
  intro user isLinked
  have inOrder : ∀ turn : Turn units program options, turn.unit.SlotsInOrder := fun turn =>
    (built turn.unit (List.mem_cons.2 turn.unit_mem.symm)).slotsInOrder
  obtain ⟨turn, rfl⟩ := Turn.exists_of_mem_linkedUnits linked isLinked
  exact turn.namesTargets linked inOrder

section Lamps

/-- A unit with two names for one routine, and another routine. -/
def lamp : ObjectUnit :=
  (ObjectUnit.empty "Lamp" .unit none).attemptAll
    [.var "level" .interface, .begin "glow" (.ofSignature ⟨[], none⟩ .interface),
      .begin "dim" (.ofSignature ⟨[], none⟩ .interface), .emit (.store (.named "level")),
      .emit .ret, .begin "flash" (.ofSignature ⟨[], none⟩ .interface), .emit .ret]

def lampProgram : ObjectUnit :=
  (ObjectUnit.empty "Main" .program none).attemptAll
    [.use "Lamp" none, .var "mode" .implementation, .select .init, .emit (.load (.slot 0)),
      .emit (.addrOf (.qualified "Lamp" "level")), .emit (.call (.routine "flash") 0),
      .emit (.call (.routine "glow") 1)]

theorem places_lamp : ∃ image, link [lamp] lampProgram .standard = .ok image
    ∧ image.globalSlot? "Main" "mode" = some 1 ∧ image.globalSlot? "Lamp" "level" = some 0
    ∧ image.routineAddress? "Lamp" "flash" = some 2
    ∧ image.routineAddress? "Lamp" "glow" = some 0 := by
  have isOk : (link [lamp] lampProgram .standard).isOk = true := by cbv
  have places : (link [lamp] lampProgram .standard).toOption.map (fun image =>
      (image.globalSlot? "Main" "mode", image.globalSlot? "Lamp" "level",
        image.routineAddress? "Lamp" "flash", image.routineAddress? "Lamp" "glow"))
      = some (some 1, some 0, some 2, some 0) := by cbv
  obtain ⟨image, linked⟩ := exists_ok_of_isOk isOk
  rw [linked] at places
  simp only [Except.toOption, Option.map_some, Option.some.injEq, Prod.mk.injEq] at places
  exact ⟨image, linked, places⟩

theorem name_lampProgram : lampProgram.name = "Main" := by cbv

theorem code_lampProgram : lampProgram.code.stream .init = [.load (.slot 0),
    .addrOf (.qualified "Lamp" "level"), .call (.routine "flash") 0,
    .call (.routine "glow") 1] := by cbv

theorem bindsTo_lamp {name : String} (called : name ∈ ["flash", "glow"]) :
    BindsTo [lamp] lampProgram ⟨.routine, none, name⟩ "Lamp" := by
  simp only [List.mem_cons, List.not_mem_nil, or_false] at called
  rcases called with rfl | rfl <;> exact .imported (by cbv) (by cbv)

theorem eq_lamp {declarer : ObjectUnit} (supplied : declarer ∈ [lampProgram, lamp])
    (nameEq : declarer.name = "Lamp") : declarer = lamp := by
  simp only [List.mem_cons, List.not_mem_nil, or_false] at supplied
  rcases supplied with rfl | rfl
  · rw [name_lampProgram] at nameEq
    exact absurd nameEq (by decide)
  · rfl

/-- Only `flash` has its entry. -/
theorem flash_alone (other : String)
    (same : lamp.offset? other .routine = lamp.offset? "flash" .routine) : other = "flash" := by
  have entries : lamp.routines.entries.map (fun entry => (entry.1, entry.2.entry))
      = [("glow", 0), ("dim", 0), ("flash", 2)] := by cbv
  have flash : lamp.offset? "flash" .routine = some 2 := by cbv
  rw [flash] at same
  obtain ⟨routine, found, entryEq⟩ := Option.map_eq_some_iff.1 same
  have member : (other, (2 : UInt64)) ∈ lamp.routines.entries.map
      (fun entry => (entry.1, entry.2.entry)) :=
    List.mem_map.2 ⟨_, Table.get?_eq_some_iff.1 found, by rw [entryEq]⟩
  rw [entries] at member
  simpa using member

end Lamps

/-- The second call is shown with the name of one of the two routines at its address. -/
theorem annotations_name_targets_lamp :
    (∀ unit ∈ [lampProgram, lamp], unit.IsBuilt)
      ∧ ∃ image, link [lamp] lampProgram .standard = .ok image
        ∧ ShowsAt image lampProgram .init 0 (.load (.global 1)) "    load G1 (Main.mode)"
        ∧ ShowsAt image lampProgram .init 1 (.addrOf (.global 0)) "  addrof @G0 (Lamp.level)"
        ∧ ShowsAt image lampProgram .init 2 (.call (.address 2) 0) "    call @2 (Lamp.flash)/0"
        ∧ ∃ shown, lamp.SharesEntry shown "glow"
          ∧ ShowsAt image lampProgram .init 3 (.call (.address 0) 1)
            s!"    call @0 (Lamp.{shown})/1" := by
  have built : ∀ unit ∈ [lampProgram, lamp], unit.IsBuilt := by
    simp only [List.forall_mem_cons, List.not_mem_nil, false_imp_iff, implies_true, and_true]
    exact ⟨⟨_, _, _, _, rfl⟩, ⟨_, _, _, _, rfl⟩⟩
  obtain ⟨image, linked, modeSlot, levelSlot, flashAddress, glowAddress⟩ := places_lamp
  have names := annotations_name_targets built linked lampProgram (mem_linkedUnits.2 (.inr rfl))
  have used : "Lamp" ∈ lampProgram.usedNames := by
    have names : lampProgram.usedNames = ["Lamp"] := by cbv
    rw [names]
    decide
  refine ⟨built, image, linked, ?_, ?_, ?_, ?_⟩
  · obtain ⟨slot, before, recorded, isBefore, shows⟩ :=
      names.vars .init 0 (.load (.slot 0)) _ _ "mode" (by rw [code_lampProgram]; rfl) rfl
        (.slot (by cbv))
    rw [name_lampProgram, modeSlot] at recorded
    cases recorded
    cases isBefore
    rwa [name_lampProgram] at shows
  · obtain ⟨slot, before, recorded, isBefore, shows⟩ :=
      names.vars .init 1 (.addrOf (.qualified "Lamp" "level")) _ _ _
        (by rw [code_lampProgram]; rfl) rfl (.reference rfl (.qualifiedUsed (by cbv) used (by cbv)))
    rw [levelSlot] at recorded
    cases recorded
    cases isBefore
    exact shows
  · obtain ⟨declarer, supplied, address, shown, nameEq, shares, recorded, shows⟩ :=
      names.routines .init 2 (.routine "flash") 0 _ _ (by rw [code_lampProgram]; rfl)
        (.reference rfl (bindsTo_lamp (by decide)))
    cases eq_lamp supplied nameEq
    cases shares.alone flash_alone
    rw [flashAddress] at recorded
    cases recorded
    exact shows
  · obtain ⟨declarer, supplied, address, shown, nameEq, shares, recorded, shows⟩ :=
      names.routines .init 3 (.routine "glow") 1 _ _ (by rw [code_lampProgram]; rfl)
        (.reference rfl (bindsTo_lamp (by decide)))
    cases eq_lamp supplied nameEq
    rw [glowAddress] at recorded
    cases recorded
    have one : toString (1 : UInt64) = "1" := rfl
    refine ⟨shown, shares, ?_⟩
    convert shows using 1
    rw [one, ← String.toList_inj]
    simp [toString]

end Link

end UnitLinker
