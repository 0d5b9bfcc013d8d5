import UnitLinker.Proofs.Turns

/-!
# Placed code and source code

The code of an image is the code of its units, every instruction at one address
and every address with one instruction. Jumps lead to the address of the
instruction that they led to before.
-/

namespace UnitLinker.Link

variable {units : List ObjectUnit} {program : ObjectUnit} {options : Options} {image : Image}
  {ordered : List ObjectUnit} {count : Nat}

/-- A position in the code of units that are linked: an instruction of a section,
or the return at the end of an initialization or finalization block. -/
@[ext] structure Site (ordered : List ObjectUnit) where
  unit : ObjectUnit
  stream : Section
  offset : Nat
  isLinked : unit ∈ ordered
  isInside : IsInside unit stream offset

/-- The operand is the address of a position in the unit of a site. -/
def LeadsTo (address : Site ordered → Fin count) (site : Site ordered) (stream : Section)
    (offset : Nat) (moved : Operand) : Prop :=
  ∃ (isInside : IsInside site.unit stream offset) (word : UInt64),
    moved = .target (.address word)
      ∧ word.toNat = (address ⟨site.unit, stream, offset, site.isLinked, isInside⟩).val

/-- What linking makes of an operand at a site, for the addresses of all sites.
Frame slots and linked references stay, names become slots or addresses, and jumps
become the addresses of the positions that they name. -/
def OperandMoves (address : Site ordered → Fin count) (site : Site ordered) :
    Operand → Operand → Prop
  | .var (.frame depth slot), moved => moved = .var (.frame depth slot)
  | .var (.global slot), moved => moved = .var (.global slot)
  | .var _, moved => ∃ slot, moved = .var (.global slot)
  | .callee (.address word), moved => moved = .callee (.address word)
  | .callee _, moved => ∃ word, moved = .callee (.address word)
  | .target (.address word), moved => moved = .target (.address word)
  | .target (.offset offset), moved => LeadsTo address site site.stream offset.toNat moved
  | .target (.label name), moved => ∃ position, site.unit.labels.get? name = some position
      ∧ LeadsTo address site position.stream position.offset.toNat moved

/-- What linking makes of an instruction at a site: at most its operand changes. -/
def Moves (address : Site ordered → Fin count) (site : Site ordered)
    (source moved : Instruction) : Prop :=
  match source.operand? with
  | none => moved = source
  | some operand => ∃ movedOperand, moved = source.withOperand movedOperand
      ∧ OperandMoves address site operand movedOperand

/-- The address that a site must have under the maps of an image. -/
def IsAddress (image : Image) (site : Site ordered) (address : Nat) : Prop :=
  ∃ map, image.units.get? site.unit.name = some map
    ∧ address = (map.base site.stream).toNat + site.offset

/-- A site has at most one address. -/
theorem IsAddress.unique {site : Site ordered} {first second : Nat}
    (firstAt : IsAddress image site first) (secondAt : IsAddress image site second) :
    first = second := by
  obtain ⟨map, found, rfl⟩ := firstAt
  obtain ⟨other, otherFound, rfl⟩ := secondAt
  rw [found] at otherFound
  cases otherFound
  rfl

/-- The address of a site counts from the start of its section. -/
theorem Site.isAddress_iff (linked : link units program options = .ok image) (site : Site ordered)
    {turn : Turn units program options} (unitEq : turn.unit = site.unit) {address : Nat} :
    IsAddress image site address
      ↔ address = (turn.map.base site.stream).toNat + site.offset := by
  have found := (turn.completed linked).1
  rw [unitEq] at found
  constructor
  · rintro ⟨map, mapFound, rfl⟩
    rw [found] at mapFound
    cases mapFound
    rfl
  · rintro rfl
    exact ⟨turn.map, found, rfl⟩

/-- Every site has an address in the image. -/
theorem Site.exists_address (linked : link units program options = .ok image)
    (sequenced : sequence units program options = .ok ordered) (site : Site ordered) :
    ∃ address : Fin image.instructions.length, IsAddress image site address.val := by
  obtain ⟨turn, unitEq, orderedEq⟩ := Turn.exists_of_mem linked sequenced site.isLinked
  have inside : sectionStart turn.unit site.stream + site.offset < Layout.codeLength turn.unit := by
    rw [unitEq]
    exact sectionStart_add_lt site.isInside
  have total : image.instructions.length = extent Layout.codeLength turn.earlier
      + (Layout.codeLength turn.unit + extent Layout.codeLength turn.later) := by
    rw [(holds_of_link linked sequenced).2.1, orderedEq, extent_append, extent_cons]
  have bound : (turn.map.base site.stream).toNat + site.offset < image.instructions.length := by
    rw [turn.toNat_base]
    omega
  exact ⟨⟨_, bound⟩, (site.isAddress_iff linked unitEq).2 rfl⟩

/-- Different sites have different addresses. -/
theorem Site.eq_of_address_eq (linked : link units program options = .ok image)
    (sequenced : sequence units program options = .ok ordered) {first second : Site ordered}
    {address : Nat} (firstAt : IsAddress image first address)
    (secondAt : IsAddress image second address) : first = second := by
  obtain ⟨firstTurn, firstUnit, firstSplit⟩ := Turn.exists_of_mem linked sequenced first.isLinked
  obtain ⟨secondTurn, secondUnit, secondSplit⟩ :=
    Turn.exists_of_mem linked sequenced second.isLinked
  rw [first.isAddress_iff linked firstUnit, firstTurn.toNat_base, Nat.add_assoc] at firstAt
  rw [second.isAddress_iff linked secondUnit, secondTurn.toNat_base, Nat.add_assoc] at secondAt
  have firstInside : IsInside firstTurn.unit first.stream first.offset := by
    rw [firstUnit]
    exact first.isInside
  have secondInside : IsInside secondTurn.unit second.stream second.offset := by
    rw [secondUnit]
    exact second.isInside
  obtain ⟨_, unitEq, wordEq⟩ := owner_unique (firstSplit.symm.trans secondSplit)
    (sectionStart_add_lt firstInside) (sectionStart_add_lt secondInside)
    (firstAt.symm.trans secondAt)
  rw [unitEq] at firstInside wordEq
  obtain ⟨streamEq, offsetEq⟩ := section_unique firstInside secondInside wordEq
  refine Site.ext ?_ streamEq offsetEq
  rw [← firstUnit, unitEq, secondUnit]

/-- Every address of the image is that of a site. -/
theorem exists_site (linked : link units program options = .ok image)
    (sequenced : sequence units program options = .ok ordered) {address : Nat}
    (inside : address < image.instructions.length) :
    ∃ site : Site ordered, IsAddress image site address := by
  rw [(holds_of_link linked sequenced).2.1] at inside
  obtain ⟨earlier, unit, later, word, rfl, owned, addressEq⟩ := exists_owner inside
  obtain ⟨stream, offset, isInside, wordEq⟩ := exists_section owned
  obtain ⟨turn, earlierEq, unitEq⟩ := Turn.exists_of_linked linked sequenced
  let site : Site (earlier ++ unit :: later) :=
    ⟨unit, stream, offset, List.mem_append_right _ List.mem_cons_self, isInside⟩
  refine ⟨site, (site.isAddress_iff linked unitEq).2 ?_⟩
  rw [addressEq, wordEq, turn.toNat_base, earlierEq, unitEq, Nat.add_assoc]

section Moving

variable {address : Site ordered → Fin image.instructions.length} {site : Site ordered}
  {turn : Turn units program options}

/-- The address of a position is that of the site there. -/
theorem leadsTo_of_addressOf (linked : link units program options = .ok image)
    (addressed : ∀ site, IsAddress image site (address site).val) (unitEq : turn.unit = site.unit)
    {position : CodeOffset} {word : UInt64} (found : turn.scope.addressOf position = .ok word) :
    LeadsTo address site position.stream position.offset.toNat (.target (.address word)) := by
  obtain ⟨inside, wordNat⟩ := turn.toNat_of_addressOf found
  have siteInside : IsInside site.unit position.stream position.offset.toNat := by
    rw [← unitEq]
    exact inside
  refine ⟨siteInside, word, rfl, ?_⟩
  let goal : Site ordered := ⟨site.unit, position.stream, _, site.isLinked, siteInside⟩
  exact wordNat.trans ((goal.isAddress_iff linked unitEq).1 (addressed goal)).symm

/-- A relocated operand leads to the address of what it led to. -/
theorem operandMoves_of_relocate (linked : link units program options = .ok image)
    (addressed : ∀ site, IsAddress image site (address site).val) (unitEq : turn.unit = site.unit)
    {operand moved : Operand}
    (relocated : turn.scope.relocateOperand site.stream operand = .ok moved) :
    OperandMoves address site operand moved := by
  cases operand with
  | var var =>
    obtain ⟨target, varMoved, rfl⟩ := map_eq_ok.1 relocated
    cases var with
    | frame _ _ | global _ =>
      rw [Scope.relocateVar_of_linked rfl] at varMoved
      cases varMoved
      rfl
    | slot _ | named _ | qualified _ _ =>
      obtain ⟨slot, rfl⟩ := Scope.exists_slot_of_relocateVar rfl varMoved
      exact ⟨slot, rfl⟩
  | callee callee =>
    obtain ⟨target, calleeMoved, rfl⟩ := map_eq_ok.1 relocated
    cases callee with
    | address _ =>
      rw [Scope.relocateCallee_of_linked rfl] at calleeMoved
      cases calleeMoved
      rfl
    | routine _ | qualified _ _ =>
      obtain ⟨word, rfl⟩ := Scope.exists_word_of_relocateCallee rfl calleeMoved
      exact ⟨word, rfl⟩
  | target target =>
    obtain ⟨moved, targetMoved, rfl⟩ := map_eq_ok.1 relocated
    cases target with
    | address word =>
      cases targetMoved
      rfl
    | offset offset =>
      obtain ⟨word, found, rfl⟩ := Scope.relocateTarget_offset_eq_ok.1 targetMoved
      exact leadsTo_of_addressOf linked addressed unitEq found
    | label name =>
      obtain ⟨position, word, labelled, found, rfl⟩ :=
        Scope.relocateTarget_label_eq_ok.1 targetMoved
      refine ⟨position, ?_, leadsTo_of_addressOf linked addressed unitEq found⟩
      rw [← unitEq]
      exact labelled

/-- A relocated instruction is the same but for its operand, which moves with the code. -/
theorem moves_of_relocate (linked : link units program options = .ok image)
    (addressed : ∀ site, IsAddress image site (address site).val) (unitEq : turn.unit = site.unit)
    {source moved : Instruction}
    (relocated : turn.scope.relocate site.stream source = .ok moved) :
    Moves address site source moved := by
  unfold Moves
  cases has : source.operand? with
  | none =>
    rw [Scope.relocate_of_no_operand has] at relocated
    exact (Except.ok.inj relocated).symm
  | some operand =>
    rw [Scope.relocate_of_operand has] at relocated
    obtain ⟨movedOperand, operandMoved, rfl⟩ := map_eq_ok.1 relocated
    exact ⟨movedOperand, rfl, operandMoves_of_relocate linked addressed unitEq operandMoved⟩

end Moving

theorem get_of_getElem?_eq_some {α : Type} {items : List α} {place : Fin items.length} {item : α}
    (found : items[place.val]? = some item) : items.get place = item :=
  (List.getElem?_eq_some_iff.1 found).2

/-- The code of an image is a copy of the code of some units under these addresses
of their sites. -/
structure IsIsomorphism (image : Image) (address : Site ordered → Fin image.instructions.length) :
    Prop where
  bijective : Function.Bijective address
  addressed : ∀ site, IsAddress image site (address site).val
  returns : ∀ site, site.offset = (site.unit.code.stream site.stream).length →
    image.instructions.get (address site) = .ret
  moves : ∀ site source, (site.unit.code.stream site.stream)[site.offset]? = some source →
    Moves address site source (image.instructions.get (address site))

/-- Any map that gives sites their addresses keeps the control flow. -/
theorem isIsomorphism_of_addressed (linked : link units program options = .ok image)
    (sequenced : sequence units program options = .ok ordered)
    {address : Site ordered → Fin image.instructions.length}
    (addressed : ∀ site, IsAddress image site (address site).val) :
    IsIsomorphism image address := by
  refine ⟨⟨?_, ?_⟩, addressed, ?_, ?_⟩
  · intro first second same
    have secondAt := addressed second
    rw [← same] at secondAt
    exact Site.eq_of_address_eq linked sequenced (addressed first) secondAt
  · intro word
    obtain ⟨site, isAddress⟩ := exists_site linked sequenced word.isLt
    exact ⟨site, Fin.ext ((addressed site).unique isAddress)⟩
  · intro site atEnd
    obtain ⟨turn, unitEq, _⟩ := Turn.exists_of_mem linked sequenced site.isLinked
    have inside := site.isInside
    rw [atEnd, ← unitEq] at inside
    have returns := turn.image_return linked inside
    rw [unitEq, ← atEnd, ← (site.isAddress_iff linked unitEq).1 (addressed site)] at returns
    exact get_of_getElem?_eq_some returns
  · intro site source found
    obtain ⟨turn, unitEq, _⟩ := Turn.exists_of_mem linked sequenced site.isLinked
    rw [← unitEq] at found
    obtain ⟨target, relocated, targetFound⟩ := turn.image_source linked found
    rw [← (site.isAddress_iff linked unitEq).1 (addressed site)] at targetFound
    rw [get_of_getElem?_eq_some targetFound]
    exact moves_of_relocate linked addressed unitEq relocated

/-- The code of an image is an isomorphic copy of the code of the linked units. -/
theorem placement_isomorphism (linked : link units program options = .ok image) :
    ∃ ordered, sequence units program options = .ok ordered
      ∧ image.units.names = ordered.map ObjectUnit.name
      ∧ ∃ address : Site ordered → Fin image.instructions.length, IsIsomorphism image address := by
  obtain ⟨ordered, _, sequenced, _, _⟩ := link_eq_ok.1 linked
  choose address addressed using fun site : Site ordered => site.exists_address linked sequenced
  exact ⟨ordered, sequenced, (holds_of_link linked sequenced).1, address,
    isIsomorphism_of_addressed linked sequenced addressed⟩

/-- A program with a call, a load of another unit's variable and jumps. -/
theorem placement_isomorphism_tally :
    ∃ image, link [tally] tallyProgram .standard = .ok image
      ∧ ∃ ordered, sequence [tally] tallyProgram .standard = .ok ordered
        ∧ image.units.names = ordered.map ObjectUnit.name
        ∧ ∃ address : Site ordered → Fin image.instructions.length,
          IsIsomorphism image address := by
  obtain ⟨image, linked⟩ := link_tally
  exact ⟨image, linked, placement_isomorphism linked⟩

end UnitLinker.Link
