import Mathlib
import UnitLinker.Proofs.BlockMoves

/-!
# Ways of naming a symbol

A unit can name a symbol without its unit, with its unit and, if it is a variable of its
own, by its slot. Each way has a look-up of its own. They agree: whatever is found without
a unit is found with it, at the same place. A name that several units export is refused
without a unit and means a different symbol with each of them, so to give the unit is
always a remedy.
-/

namespace UnitLinker

namespace SymbolKind

/-- The operand that names a symbol without its unit. -/
def bare : SymbolKind → String → Operand
  | .var, name => .var (.named name)
  | .routine, name => .callee (.routine name)

/-- The operand that names a symbol with its unit. -/
def qualified : SymbolKind → String → String → Operand
  | .var, owner, name => .var (.qualified owner name)
  | .routine, owner, name => .callee (.qualified owner name)

@[simp] theorem reference?_bare (kind : SymbolKind) (name : String) :
    (kind.bare name).reference? = some ⟨kind, none, name⟩ := by
  cases kind <;> rfl

@[simp] theorem reference?_qualified (kind : SymbolKind) (owner name : String) :
    (kind.qualified owner name).reference? = some ⟨kind, some owner, name⟩ := by
  cases kind <;> rfl

theorem linkedOperand_inj {kind : SymbolKind} {first second : UInt64}
    (same : kind.linkedOperand first = kind.linkedOperand second) : first = second := by
  cases kind <;> cases same <;> rfl

end SymbolKind

namespace Link

variable {units : List ObjectUnit} {program : ObjectUnit} {options : Options}
  {kind : SymbolKind} {owner name : String} {place : UInt64} {stream : Section}

/-- The ways of naming a symbol agree at the turn of a unit. -/
structure Turn.NamesAgree (turn : Turn units program options) (stream : Section)
    (kind : SymbolKind) (name : String) : Prop where
  /-- What the unit declares itself is found alike without its unit, with it, and by its
  slot if it is a variable. -/
  own : (turn.unit.visibility? name kind).isSome → ∃ place,
    turn.scope.relocateOperand stream (kind.bare name) = .ok (kind.linkedOperand place)
    ∧ turn.scope.relocateOperand stream (kind.qualified turn.unit.name name)
      = .ok (kind.linkedOperand place)
    ∧ ∀ slot, kind = .var → turn.unit.variableSlot? name = some slot →
      turn.scope.relocateOperand stream (.var (.slot slot)) = .ok (kind.linkedOperand place)
  /-- Anything else that is found without a unit is found with the one unit of the uses
  clause that exports it. -/
  imported : turn.unit.visibility? name kind = none → ∀ place,
    turn.scope.relocateOperand stream (kind.bare name) = .ok (kind.linkedOperand place) →
    ∃ owner, exportersOf units turn.unit kind name = [owner]
      ∧ turn.scope.relocateOperand stream (kind.qualified owner name)
        = .ok (kind.linkedOperand place)
  /-- What is refused because several units export it is found with each of them, at
  different places, and the advice that comes with the error is one of them. -/
  ambiguous : ∀ unit symbol symbolKind exporters,
    turn.scope.relocateOperand stream (kind.bare name)
      = .error (.duplicateExport unit symbol symbolKind exporters) →
    (∀ owner ∈ exporters, ∃ place,
      turn.scope.relocateOperand stream (kind.qualified owner name)
        = .ok (kind.linkedOperand place))
    ∧ (∀ first ∈ exporters, ∀ second ∈ exporters, first ≠ second → ∀ place,
      turn.scope.relocateOperand stream (kind.qualified first name)
        = .ok (kind.linkedOperand place) →
      turn.scope.relocateOperand stream (kind.qualified second name)
        ≠ .ok (kind.linkedOperand place))
    ∧ ∃ owner ∈ exporters,
      (LinkError.duplicateExport unit symbol symbolKind exporters).message.notes
        = ["qualify the reference with the unit name" ++ s!", e.g. `{owner}.{name}`"]

/-- A bare name is bound by the rule for names without a unit. -/
theorem Scope.relocateOperand_bare (scope : Scope) (stream : Section) (kind : SymbolKind)
    (name : String) : scope.relocateOperand stream (kind.bare name)
      = (scope.bind kind.lookup name).map kind.linkedOperand :=
  relocateOperand_of_reference (kind.reference?_bare name)

/-- A qualified name is bound by the rule for names with a unit. -/
theorem Scope.relocateOperand_qualified (scope : Scope) (stream : Section) (kind : SymbolKind)
    (owner name : String) : scope.relocateOperand stream (kind.qualified owner name)
      = (scope.bindQualified kind.lookup owner name).map kind.linkedOperand :=
  relocateOperand_of_reference (kind.reference?_qualified owner name)

theorem Scope.relocateOperand_qualified_eq_ok {scope : Scope} :
    scope.relocateOperand stream (kind.qualified owner name) = .ok (kind.linkedOperand place)
      ↔ scope.bindQualified kind.lookup owner name = .ok place := by
  rw [relocateOperand_qualified, map_eq_ok]
  constructor
  · rintro ⟨found, bound, same⟩
    rw [bound, SymbolKind.linkedOperand_inj same]
  · intro bound
    exact ⟨place, bound, rfl⟩

namespace Turn

/-- A name with a unit that exports it is found at the place of that unit's symbol. -/
theorem bindQualified_of_exporter (turn : Turn units program options)
    (member : owner ∈ exportersOf units turn.unit kind name) :
    ∃ place, turn.place? kind owner name = some place
      ∧ turn.scope.bindQualified kind.lookup owner name = .ok place := by
  obtain ⟨used, exported⟩ := List.mem_filter.1 member
  rcases turn.bindQualified_outcome kind owner name with ⟨place, recorded, bound, _⟩
    | ⟨_, notUsed, _⟩ | ⟨absent, _⟩
  · exact ⟨place, recorded, bound⟩
  · exact absurd used notUsed
  · rcases absent with ⟨same, _⟩ | ⟨_, _, hidden⟩
    · rw [same] at used
      exact absurd used turn.name_not_mem_usedNames
    · rw [hidden] at exported
      cases exported

/-- The place of a used unit's symbol stands in the block of that unit. -/
theorem exists_word_of_use (turn : Turn units program options)
    (inOrder : ∀ turn : Turn units program options, turn.unit.SlotsInOrder)
    (used : owner ∈ turn.unit.usedNames) (recorded : turn.place? kind owner name = some place) :
    ∃ (needed : Turn units program options) (offset : Nat), needed.unit.name = owner
      ∧ offset < wordCount kind.space needed.unit
      ∧ place.toNat = extent (wordCount kind.space) needed.earlier + offset := by
  obtain ⟨needed, _, nameEq, found⟩ := turn.exists_of_use used
  have differs : owner ≠ turn.unit.name := by
    rintro rfl
    exact turn.name_not_mem_usedNames used
  rw [place?_of_earlier differs found, needed.own_eq, Option.map_eq_some_iff] at recorded
  obtain ⟨offset, declared, placeEq⟩ := recorded
  have inside := needed.offset_lt (inOrder needed) declared
  refine ⟨needed, offset.toNat, nameEq, inside, ?_⟩
  rw [← placeEq, needed.toNat_taken_add inside]

/-- Symbols of different used units have different places. -/
theorem owner_eq_of_place (turn : Turn units program options)
    (inOrder : ∀ turn : Turn units program options, turn.unit.SlotsInOrder) {other : String}
    (used : owner ∈ turn.unit.usedNames) (otherUsed : other ∈ turn.unit.usedNames)
    (recorded : turn.place? kind owner name = some place)
    (otherRecorded : turn.place? kind other name = some place) : owner = other := by
  obtain ⟨first, offset, nameEq, inside, placeEq⟩ :=
    turn.exists_word_of_use inOrder used recorded
  obtain ⟨second, otherOffset, otherNameEq, otherInside, otherPlaceEq⟩ :=
    turn.exists_word_of_use inOrder otherUsed otherRecorded
  have sameSequence := Except.ok.inj (first.sequenced.symm.trans second.sequenced)
  obtain ⟨_, unitEq, _⟩ :=
    owner_unique sameSequence inside otherInside (placeEq.symm.trans otherPlaceEq)
  rw [← nameEq, ← otherNameEq, unitEq]

/-- A variable of the unit itself is where its slot leads. -/
theorem relocateOperand_of_slot (turn : Turn units program options)
    (inOrder : turn.unit.SlotsInOrder) {slot : UInt64}
    (declared : turn.unit.variableSlot? name = some slot)
    (found : SymbolKind.var.lookup.own turn.map name = some place) :
    turn.scope.relocateOperand stream (.var (.slot slot)) = .ok (.var (.global place)) := by
  have offsetEq : turn.unit.offset? name .var = some slot := declared
  rw [turn.own_eq, offsetEq, Option.map_some, Option.some.injEq] at found
  have inside : slot.toNat < turn.unit.vars.size := turn.offset_lt inOrder offsetEq
  have moved : turn.scope.relocateVar (.slot slot) = .ok (.global place) :=
    Scope.relocateVar_slot_eq_ok.2 ⟨inside, congrArg VarRef.global found.symm⟩
  exact map_eq_ok.2 ⟨_, moved, rfl⟩

/-- A symbol of the unit itself is found alike without its unit and with it. -/
theorem relocateOperand_of_own (turn : Turn units program options)
    (found : kind.lookup.own turn.map name = some place) :
    turn.scope.relocateOperand stream (kind.bare name) = .ok (kind.linkedOperand place)
      ∧ turn.scope.relocateOperand stream (kind.qualified turn.unit.name name)
        = .ok (kind.linkedOperand place) := by
  constructor
  · rw [Scope.relocateOperand_bare]
    exact map_eq_ok.2 ⟨place, Scope.bind_of_own found, rfl⟩
  · apply Scope.relocateOperand_qualified_eq_ok.2
    have bound : turn.scope.bindQualified kind.lookup turn.unit.name name = _ :=
      Scope.bindQualified_self kind.lookup name
    have inScope : kind.lookup.own turn.scope.map name = some place := found
    rw [bound, inScope]
    rfl

/-- A symbol of another unit that is found without its unit is found with it. -/
theorem exists_exporter_of_bare (turn : Turn units program options)
    (absent : turn.unit.visibility? name kind = none)
    (relocated : turn.scope.relocateOperand stream (kind.bare name)
      = .ok (kind.linkedOperand place)) :
    ∃ owner, exportersOf units turn.unit kind name = [owner]
      ∧ turn.scope.relocateOperand stream (kind.qualified owner name)
        = .ok (kind.linkedOperand place) := by
  rw [Scope.relocateOperand_bare] at relocated
  obtain ⟨found, bound, same⟩ := map_eq_ok.1 relocated
  cases SymbolKind.linkedOperand_inj same
  rcases turn.bind_outcome kind name with ⟨declared, _⟩ | ⟨_, _, refused⟩
    | ⟨_, owner, place, only, recorded, boundTo⟩ | ⟨_, _, refused⟩
  · rw [absent] at declared
    cases declared
  · cases bound.symm.trans refused
  · have member : owner ∈ exportersOf units turn.unit kind name := by
      rw [only]
      exact List.mem_cons_self
    obtain ⟨other, otherRecorded, otherBound⟩ := turn.bindQualified_of_exporter member
    cases bound.symm.trans boundTo
    cases recorded.symm.trans otherRecorded
    exact ⟨owner, only, Scope.relocateOperand_qualified_eq_ok.2 otherBound⟩
  · cases bound.symm.trans refused

/-- A name is refused as ambiguous for the units of the uses clause that export it. -/
theorem eq_of_duplicateExport (turn : Turn units program options) {unit symbol : String}
    {symbolKind : SymbolKind} {exporters : List String}
    (refused : turn.scope.relocateOperand stream (kind.bare name)
      = .error (.duplicateExport unit symbol symbolKind exporters)) :
    symbol = name ∧ exporters = exportersOf units turn.unit kind name
      ∧ 2 ≤ exporters.length := by
  rw [Scope.relocateOperand_bare, map_eq_error] at refused
  rcases turn.bind_outcome kind name with ⟨_, _, _, bound⟩ | ⟨_, _, bound⟩
    | ⟨_, _, _, _, _, bound⟩ | ⟨_, several, bound⟩
  · cases refused.symm.trans bound
  · cases refused.symm.trans bound
  · cases refused.symm.trans bound
  · cases refused.symm.trans bound
    exact ⟨rfl, rfl, several⟩

/-- A name with different units that export it is never found at the same place. -/
theorem ne_of_exporters (turn : Turn units program options)
    (inOrder : ∀ turn : Turn units program options, turn.unit.SlotsInOrder) {first second : String}
    (firstMember : first ∈ exportersOf units turn.unit kind name)
    (secondMember : second ∈ exportersOf units turn.unit kind name) (differs : first ≠ second)
    (found : turn.scope.relocateOperand stream (kind.qualified first name)
      = .ok (kind.linkedOperand place)) :
    turn.scope.relocateOperand stream (kind.qualified second name)
      ≠ .ok (kind.linkedOperand place) := by
  intro foundToo
  obtain ⟨_, firstRecorded, firstBound⟩ := turn.bindQualified_of_exporter firstMember
  obtain ⟨_, secondRecorded, secondBound⟩ := turn.bindQualified_of_exporter secondMember
  cases firstBound.symm.trans (Scope.relocateOperand_qualified_eq_ok.1 found)
  cases secondBound.symm.trans (Scope.relocateOperand_qualified_eq_ok.1 foundToo)
  exact differs (turn.owner_eq_of_place inOrder (List.mem_filter.1 firstMember).1
    (List.mem_filter.1 secondMember).1 firstRecorded secondRecorded)

end Turn

/-- The advice on an ambiguous name is its first exporter. -/
theorem exists_advice {unit symbol : String} {symbolKind : SymbolKind} {exporters : List String}
    (several : 2 ≤ exporters.length) : ∃ owner ∈ exporters,
      (LinkError.duplicateExport unit symbol symbolKind exporters).message.notes
        = ["qualify the reference with the unit name" ++ s!", e.g. `{owner}.{symbol}`"] := by
  cases exporters with
  | nil => cases several
  | cons owner rest => exact ⟨owner, List.mem_cons_self, rfl⟩

/-- At the turn of every unit, in a run that succeeds or fails, the ways of naming a symbol
agree. -/
theorem names_of_symbol_agree (built : ∀ unit ∈ program :: units, unit.IsBuilt)
    (turn : Turn units program options) (stream : Section) (kind : SymbolKind) (name : String) :
    turn.NamesAgree stream kind name := by
  have inOrder : ∀ turn : Turn units program options, turn.unit.SlotsInOrder := fun turn =>
    (built turn.unit (List.mem_cons.2 turn.unit_mem.symm)).slotsInOrder
  refine ⟨?own, ?imported, ?ambiguous⟩
  case own =>
    intro declared
    have found := (turn.own_isSome_iff kind name).2 declared
    obtain ⟨place, ownPlace⟩ := Option.isSome_iff_exists.1 found
    obtain ⟨bare, qualified⟩ := turn.relocateOperand_of_own ownPlace
    refine ⟨place, bare, qualified, ?_⟩
    rintro slot rfl slotEq
    exact turn.relocateOperand_of_slot (inOrder turn) slotEq ownPlace
  case imported =>
    intro absent place relocated
    exact turn.exists_exporter_of_bare absent relocated
  case ambiguous =>
    intro unit symbol symbolKind exporters refused
    obtain ⟨rfl, rfl, several⟩ := turn.eq_of_duplicateExport refused
    refine ⟨?_, ?_, exists_advice several⟩
    · intro owner member
      obtain ⟨place, _, bound⟩ := turn.bindQualified_of_exporter member
      exact ⟨place, Scope.relocateOperand_qualified_eq_ok.2 bound⟩
    · intro first firstMember second secondMember differs place found
      exact turn.ne_of_exporters inOrder firstMember secondMember differs found

section Valves

/-- A unit with a variable and a routine for other units. -/
def valve (name : String) : ObjectUnit :=
  (ObjectUnit.empty name .unit none).attemptAll
    [.var "scale" .implementation, .var "reading" .interface,
      .begin "reset" (.ofSignature ⟨[], none⟩ .interface), .emit (.store (.slot 1)), .emit .ret]

/-- A program that uses two such units and has to say which reading it means. -/
def valveProgram : ObjectUnit :=
  (ObjectUnit.empty "Main" .program none).attemptAll
    [.use "Inlet" none, .use "Outlet" none, .select .init,
      .emit (.load (.qualified "Outlet" "reading"))]

theorem link_valve :
    ∃ image, link [valve "Inlet", valve "Outlet"] valveProgram .standard = .ok image :=
  exists_ok_of_isOk (by cbv)

end Valves

/-- Neither the variable nor the routine is found without its unit, and both are found with
either of the units. -/
theorem names_of_symbol_agree_valve :
    (∀ unit ∈ [valveProgram, valve "Inlet", valve "Outlet"], unit.IsBuilt)
      ∧ ∃ turn : Turn [valve "Inlet", valve "Outlet"] valveProgram .standard,
        turn.unit = valveProgram
        ∧ ∀ kind name, (kind, name) ∈ [(.var, "reading"), (.routine, "reset")] →
          turn.scope.relocateOperand .init (kind.bare name)
            = .error (.duplicateExport "Main" name kind ["Inlet", "Outlet"])
          ∧ ∀ owner ∈ ["Inlet", "Outlet"], ∃ place,
            turn.scope.relocateOperand .init (kind.qualified owner name)
              = .ok (kind.linkedOperand place) := by
  have built : ∀ unit ∈ [valveProgram, valve "Inlet", valve "Outlet"], unit.IsBuilt := by
    simp only [List.forall_mem_cons, List.not_mem_nil, false_imp_iff, implies_true, and_true]
    exact ⟨⟨_, _, _, _, rfl⟩, ⟨_, _, _, _, rfl⟩, ⟨_, _, _, _, rfl⟩⟩
  obtain ⟨image, linked⟩ := link_valve
  have sequenced : sequence [valve "Inlet", valve "Outlet"] valveProgram .standard
      = .ok ([valve "Inlet", valve "Outlet"] ++ valveProgram :: []) := by cbv
  obtain ⟨turn, _, unitEq⟩ := Turn.exists_of_linked linked sequenced
  refine ⟨built, turn, unitEq, ?_⟩
  intro kind name member
  have several : exportersOf [valve "Inlet", valve "Outlet"] turn.unit kind name
        = ["Inlet", "Outlet"]
      ∧ turn.unit.visibility? name kind = none := by
    rw [unitEq]
    simp only [List.mem_cons, Prod.mk.injEq, List.not_mem_nil, or_false] at member
    rcases member with ⟨rfl, rfl⟩ | ⟨rfl, rfl⟩ <;> exact ⟨by cbv, by cbv⟩
  have refused : turn.scope.relocateOperand .init (kind.bare name)
      = .error (.duplicateExport "Main" name kind ["Inlet", "Outlet"]) := by
    rw [Scope.relocateOperand_bare, map_eq_error]
    have outcome := turn.bind_outcome kind name
    rw [several.1, several.2] at outcome
    rcases outcome with ⟨declared, _⟩ | ⟨_, none, _⟩ | ⟨_, _, _, one, _⟩ | ⟨_, _, bound⟩
    · cases declared
    · cases none
    · cases one
    · rw [bound, unitEq]
      rfl
  obtain ⟨found, _⟩ :=
    (names_of_symbol_agree built turn .init kind name).ambiguous _ _ _ _ refused
  exact ⟨refused, found⟩

end Link

end UnitLinker
