import UnitLinker.Proofs.Turns

/-!
# Binding of names

Which declaration a name in a unit means, by the uses clause of the unit and the
declarations of the units alone. Relocation binds every name to that declaration,
and refuses it exactly when there is none or more than one.
-/

namespace UnitLinker

/-- A reference by name to a symbol, which may give the unit of the symbol. -/
structure Reference where
  kind : SymbolKind
  owner? : Option String
  name : String
  deriving DecidableEq, Repr

/-- The reference that an operand makes, if it is one by name. -/
def Operand.reference? : Operand → Option Reference
  | .var (.named name) => some ⟨.var, none, name⟩
  | .var (.qualified unit name) => some ⟨.var, some unit, name⟩
  | .callee (.routine name) => some ⟨.routine, none, name⟩
  | .callee (.qualified unit name) => some ⟨.routine, some unit, name⟩
  | _ => none

namespace SymbolKind

/-- How symbols of a kind are looked up in placed units. -/
def lookup : SymbolKind → Link.SymbolLookup
  | .var => .vars
  | .routine => .routines

/-- The operand that a reference to a symbol becomes. -/
def linkedOperand : SymbolKind → UInt64 → Operand
  | .var, slot => .var (.global slot)
  | .routine, address => .callee (.address address)

@[simp] theorem kind_lookup (kind : SymbolKind) : kind.lookup.kind = kind := by
  cases kind <;> rfl

end SymbolKind

/-- The place that an image records for a symbol of a unit. -/
def Image.place? (image : Image) : SymbolKind → String → String → Option UInt64
  | .var => image.globalSlot?
  | .routine => image.routineAddress?

/-- The visibility with which a unit declares a symbol. -/
def ObjectUnit.visibility? (unit : ObjectUnit) (name : String) : SymbolKind → Option Visibility
  | .var => (unit.vars.get? name).map Variable.visibility
  | .routine => (unit.routines.get? name).map Routine.visibility

namespace Link

/-- Whether a unit of this name declares a symbol for other units. -/
def exports (units : List ObjectUnit) (kind : SymbolKind) (name owner : String) : Bool :=
  units.any fun unit => unit.name = owner && unit.visibility? name kind = some .interface

/-- The units of a uses clause that declare a symbol for other units. -/
def exportersOf (units : List ObjectUnit) (user : ObjectUnit) (kind : SymbolKind) (name : String) :
    List String :=
  user.usedNames.filter (exports units kind name)

variable {units : List ObjectUnit} {program : ObjectUnit} {options : Options} {image : Image}
  {turn : Turn units program options} {kind : SymbolKind} {name owner : String} {place : UInt64}

namespace Scope

variable {scope : Scope}

/-- What a reference is bound to. -/
def resolve (scope : Scope) (reference : Reference) : Except LinkError UInt64 :=
  match reference.owner? with
  | none => scope.bind reference.kind.lookup reference.name
  | some owner => scope.bindQualified reference.kind.lookup owner reference.name

/-- Relocation puts what a reference is bound to in its place. -/
theorem relocateOperand_of_reference {stream : Section} {operand : Operand} {reference : Reference}
    (refers : operand.reference? = some reference) :
    scope.relocateOperand stream operand
      = (scope.resolve reference).map reference.kind.linkedOperand := by
  cases operand with
  | target _ => cases refers
  | var var =>
    cases var with
    | slot _ | frame _ _ | global _ => cases refers
    | named name =>
      cases refers
      simp only [relocateOperand, relocateVar, globalOf?, resolve, SymbolKind.lookup]
      cases scope.bind .vars name <;> rfl
    | qualified unit name =>
      cases refers
      simp only [relocateOperand, relocateVar, globalOf?, resolve, SymbolKind.lookup]
      cases scope.bindQualified .vars unit name <;> rfl
  | callee callee =>
    cases callee with
    | address _ => cases refers
    | routine name =>
      cases refers
      simp only [relocateOperand, relocateCallee, entryOf?, resolve, SymbolKind.lookup]
      cases scope.bind .routines name <;> rfl
    | qualified unit name =>
      cases refers
      simp only [relocateOperand, relocateCallee, entryOf?, resolve, SymbolKind.lookup]
      cases scope.bindQualified .routines unit name <;> rfl

/-- An instruction with a reference becomes one with the place of the symbol. -/
theorem relocate_of_reference {stream : Section} {instruction : Instruction} {operand : Operand}
    {reference : Reference} (has : instruction.operand? = some operand)
    (refers : operand.reference? = some reference) :
    scope.relocate stream instruction = (scope.resolve reference).map fun place =>
      instruction.withOperand (reference.kind.linkedOperand place) := by
  rw [relocate_of_operand has, relocateOperand_of_reference refers]
  cases scope.resolve reference <;> rfl

/-- What is found under a name in the uses clause. -/
theorem exporters_eq (scope : Scope) (lookup : SymbolLookup) (name : String) :
    scope.exporters lookup name = scope.unit.usedNames.filterMap fun used =>
      ((scope.placed.get? used).bind fun map => lookup.exported map name).map
        fun place => (used, place) := by
  refine List.filterMap_congr fun used _ => ?_
  cases scope.placed.get? used with
  | none => rfl
  | some map => exact Option.map_eq_bind.symm

/-- A symbol of the unit itself hides all symbols of other units. -/
theorem bind_of_own {lookup : SymbolLookup} (found : lookup.own scope.map name = some place) :
    scope.bind lookup name = .ok place := by
  rw [bind]
  simp only [found]

/-- A name that nobody exports is unresolved. -/
theorem bind_of_none {lookup : SymbolLookup} (absent : lookup.own scope.map name = none)
    (exported : scope.exporters lookup name = []) :
    scope.bind lookup name = .error (.unresolvedSymbol scope.unit.name name lookup.kind) := by
  rw [bind]
  simp only [absent, exported, unresolved]

/-- A name that one used unit exports is that unit's. -/
theorem bind_of_one {lookup : SymbolLookup} (absent : lookup.own scope.map name = none)
    (exported : scope.exporters lookup name = [(owner, place)]) :
    scope.bind lookup name = .ok place := by
  rw [bind]
  simp only [absent, exported]

/-- A name that several used units export is refused with all of them. -/
theorem bind_of_several {lookup : SymbolLookup} (absent : lookup.own scope.map name = none)
    (several : 2 ≤ (scope.exporters lookup name).length) :
    scope.bind lookup name = .error (.duplicateExport scope.unit.name name lookup.kind
      ((scope.exporters lookup name).map Prod.fst)) := by
  rw [bind]
  simp only [absent]
  split
  · rename_i none
    simp [none] at several
  · rename_i one
    simp [one] at several
  · rfl

/-- A name qualified by the unit itself is looked up among all its symbols. -/
theorem bindQualified_self (lookup : SymbolLookup) (name : String) :
    scope.bindQualified lookup scope.unit.name name
      = (lookup.own scope.map name).elim (.error (.unresolvedSymbol scope.unit.name
        s!"{scope.unit.name}.{name}" lookup.kind)) .ok := by
  rw [bindQualified]
  cases lookup.own scope.map name <;> simp [unresolved]

/-- A name qualified by a used unit is looked up among what that unit exports. -/
theorem bindQualified_used {lookup : SymbolLookup} (differs : owner ≠ scope.unit.name)
    (used : owner ∈ scope.unit.usedNames) (name : String) :
    scope.bindQualified lookup owner name
      = ((scope.placed.get? owner).bind fun map => lookup.exported map name).elim
        (.error (.unresolvedSymbol scope.unit.name s!"{owner}.{name}" lookup.kind)) .ok := by
  rw [bindQualified]
  simp only [differs, if_false, Table.contains_iff_mem_names.2 used, if_true]
  cases (scope.placed.get? owner).bind fun map => lookup.exported map name <;> rfl

/-- A name qualified by a unit that is not used is refused, whatever that unit exports. -/
theorem bindQualified_not_used {lookup : SymbolLookup} (differs : owner ≠ scope.unit.name)
    (notUsed : owner ∉ scope.unit.usedNames) (name : String) :
    scope.bindQualified lookup owner name = .error (.unitNotUsed scope.unit.name owner name) := by
  rw [bindQualified]
  simp only [differs, if_false, Table.contains_eq_false_iff.2 notUsed, Bool.false_eq_true]

end Scope

namespace Turn

/-- The place of a symbol by the maps that there are when a unit is relocated. -/
def place? (turn : Turn units program options) (kind : SymbolKind) (owner name : String) :
    Option UInt64 :=
  ((turn.before.units.insert turn.unit.name turn.map).get? owner).bind fun map =>
    kind.lookup.own map name

/-- At its own turn, a unit has the places that were just given out. -/
theorem place?_self : turn.place? kind turn.unit.name name = kind.lookup.own turn.map name := by
  rw [place?, Table.get?_insert_self, Option.bind_some]

/-- A unit that had its turn before keeps its places. -/
theorem place?_of_earlier {map : UnitMap} (differs : owner ≠ turn.unit.name)
    (found : turn.before.units.get? owner = some map) :
    turn.place? kind owner name = kind.lookup.own map name := by
  rw [place?, Table.get?_insert_of_ne _ differs, found, Option.bind_some]

/-- The places in an image are those in the maps of its units. -/
theorem place?_image (image : Image) :
    image.place? kind owner name
      = (image.units.get? owner).bind fun map => kind.lookup.own map name := by
  cases kind with
  | var =>
    simp only [Image.place?, Image.globalSlot?]
    cases image.units.get? owner with
    | none => rfl
    | some map => exact Option.map_eq_bind.symm
  | routine =>
    simp only [Image.place?, Image.routineAddress?]
    cases image.units.get? owner with
    | none => rfl
    | some map => exact Option.map_eq_bind.symm

/-- A place that is fixed when a unit is relocated is the place in the image. -/
theorem place?_completed (linked : link units program options = .ok image)
    (recorded : turn.place? kind owner name = some place) :
    image.place? kind owner name = some place := by
  obtain ⟨own, earlier, _⟩ := turn.completed linked
  rw [place?_image, ← recorded]
  by_cases same : owner = turn.unit.name
  · rw [same, own, place?_self, Option.bind_some]
  · rw [place?, Table.get?_insert_of_ne _ same] at recorded ⊢
    obtain ⟨map, found, _⟩ := Option.bind_eq_some_iff.1 recorded
    have isEarlier : owner ∈ turn.earlier.map ObjectUnit.name := by
      rw [← turn.holds.names]
      exact List.mem_map.2 ⟨_, Table.get?_eq_some_iff.1 found, rfl⟩
    rw [earlier owner isEarlier]

/-- A unit that has been placed has a place for every symbol that it declares. -/
theorem own_isSome_iff (turn : Turn units program options) (kind : SymbolKind) (name : String) :
    (kind.lookup.own turn.map name).isSome ↔ (turn.unit.visibility? name kind).isSome := by
  rw [turn.map_eq]
  cases kind <;> simp [SymbolKind.lookup, SymbolLookup.vars, SymbolLookup.routines, mapIn,
    ObjectUnit.visibility?]

/-- What a unit exports is a symbol of the unit. -/
theorem own_of_exported {map : UnitMap} (found : kind.lookup.exported map name = some place) :
    kind.lookup.own map name = some place := by
  cases kind <;> simp only [SymbolKind.lookup, SymbolLookup.vars, SymbolLookup.routines,
    UnitMap.exportedVariable?, UnitMap.exportedRoutine?, Option.map_eq_some_iff,
    Option.filter_eq_some_iff] at found ⊢ <;>
    obtain ⟨symbol, ⟨isFound, _⟩, rfl⟩ := found <;>
    exact ⟨symbol, isFound, rfl⟩

/-- A placed unit exports the symbols that it declares in its interface. -/
theorem exported_isSome_iff (turn : Turn units program options) :
    (kind.lookup.exported turn.map name).isSome
      ↔ turn.unit.visibility? name kind = some .interface := by
  rw [turn.map_eq]
  cases kind with
  | var =>
    simp only [SymbolKind.lookup, SymbolLookup.vars, UnitMap.exportedVariable?, mapIn,
      Table.get?_map, ObjectUnit.visibility?]
    cases turn.unit.vars.get? name with
    | none => simp
    | some entry => cases visibility : entry.visibility <;> simp [visibility, Visibility.isExported]
  | routine =>
    simp only [SymbolKind.lookup, SymbolLookup.routines, UnitMap.exportedRoutine?, mapIn,
      Table.get?_map, ObjectUnit.visibility?]
    cases turn.unit.routines.get? name with
    | none => simp
    | some entry => cases visibility : entry.visibility <;> simp [visibility, Visibility.isExported]

/-- A unit of the uses clause, by its map, exports what its declarations say. -/
theorem exported_of_use (turn : Turn units program options) (kind : SymbolKind) (name : String)
    (used : owner ∈ turn.unit.usedNames) :
    ∃ map, turn.before.units.get? owner = some map
      ∧ ((kind.lookup.exported map name).isSome ↔ exports units kind name owner = true) := by
  obtain ⟨needed, supplied, rfl, found⟩ := turn.exists_of_use used
  refine ⟨needed.map, found, ?_⟩
  rw [exported_isSome_iff, exports, List.any_eq_true]
  obtain ⟨order, resolved, _⟩ := sequence_eq_ok.1 turn.sequenced
  have distinct := (Dependency.orderable_of_resolveOrder resolved).namesDistinct
  constructor
  · intro declared
    exact ⟨needed.unit, supplied, by simp [declared]⟩
  · rintro ⟨other, otherSupplied, declared⟩
    rw [Bool.and_eq_true, decide_eq_true_eq, decide_eq_true_eq] at declared
    rw [← List.inj_on_of_nodup_map distinct otherSupplied supplied declared.1]
    exact declared.2

/-- A unit that is placed does not use itself. -/
theorem name_not_mem_usedNames (turn : Turn units program options) :
    turn.unit.name ∉ turn.unit.usedNames := by
  intro used
  obtain ⟨needed, isEarlier, _, sameName⟩ := exists_earlier_of_use turn.sequenced used
  exact turn.not_mem_rest_of_mem_earlier (List.mem_map.2 ⟨needed, isEarlier, rfl⟩)
    (List.mem_map.2 ⟨turn.unit, List.mem_cons_self, sameName.symm⟩)

/-- The exporters that are found are those that the declarations give. -/
theorem map_exporters (turn : Turn units program options) (kind : SymbolKind) (name : String) :
    (turn.scope.exporters kind.lookup name).map Prod.fst
      = exportersOf units turn.unit kind name := by
  rw [Scope.exporters_eq, List.map_filterMap, exportersOf, ← List.filterMap_eq_filter]
  refine List.filterMap_congr fun used member => ?_
  obtain ⟨map, found, exported⟩ := turn.exported_of_use kind name member
  have placed : turn.scope.placed.get? used = some map := found
  rw [placed, Option.bind_some, Option.guard]
  cases given : kind.lookup.exported map name with
  | none =>
    rw [given] at exported
    simp [← exported]
  | some place =>
    rw [given] at exported
    simp [← exported]

/-- The place that an exporter gives is that of its symbol. -/
theorem place?_of_mem_exporters
    (member : (owner, place) ∈ turn.scope.exporters kind.lookup name) :
    turn.place? kind owner name = some place := by
  rw [Scope.exporters_eq] at member
  obtain ⟨used, isUsed, given⟩ := List.mem_filterMap.1 member
  obtain ⟨_, bound, same⟩ := Option.map_eq_some_iff.1 given
  cases same
  obtain ⟨map, found, exported⟩ := Option.bind_eq_some_iff.1 bound
  have differs : owner ≠ turn.unit.name := by
    rintro rfl
    exact turn.name_not_mem_usedNames isUsed
  rw [place?_of_earlier differs found]
  exact own_of_exported exported

/-- At its turn an instruction is linked to a symbol of a unit, at the place that
the maps of that moment, and those of an image if the run has one, give the symbol. -/
def Binds (turn : Turn units program options) (stream : Section) (instruction : Instruction)
    (kind : SymbolKind) (owner name : String) : Prop :=
  ∃ place, turn.place? kind owner name = some place
    ∧ turn.scope.relocate stream instruction
      = .ok (instruction.withOperand (kind.linkedOperand place))
    ∧ ∀ image, link units program options = .ok image → image.place? kind owner name = some place

/-- The rule for a name without a unit: a declaration of the unit itself, and
failing that the declaration of the one unit of the uses clause that exports one. -/
structure UnqualifiedRule (turn : Turn units program options) (stream : Section)
    (instruction : Instruction) (kind : SymbolKind) (name : String) : Prop where
  own : (turn.unit.visibility? name kind).isSome →
    turn.Binds stream instruction kind turn.unit.name name
  imported : ∀ owner, turn.unit.visibility? name kind = none →
    exportersOf units turn.unit kind name = [owner] → turn.Binds stream instruction kind owner name
  unresolved : turn.scope.relocate stream instruction
      = .error (.unresolvedSymbol turn.unit.name name kind)
    ↔ turn.unit.visibility? name kind = none ∧ exportersOf units turn.unit kind name = []
  ambiguous : ∀ listed, turn.scope.relocate stream instruction
      = .error (.duplicateExport turn.unit.name name kind listed)
    ↔ turn.unit.visibility? name kind = none
      ∧ 2 ≤ (exportersOf units turn.unit kind name).length
      ∧ listed = exportersOf units turn.unit kind name

/-- The rule for a name with a unit: a declaration of the unit itself, or one that
a unit of the uses clause exports. -/
structure QualifiedRule (turn : Turn units program options) (stream : Section)
    (instruction : Instruction) (kind : SymbolKind) (owner name : String) : Prop where
  own : owner = turn.unit.name →
    (turn.Binds stream instruction kind owner name ↔ (turn.unit.visibility? name kind).isSome)
  imported : owner ≠ turn.unit.name → owner ∈ turn.unit.usedNames →
    (turn.Binds stream instruction kind owner name ↔ exports units kind name owner = true)
  notUsed : turn.scope.relocate stream instruction
      = .error (.unitNotUsed turn.unit.name owner name)
    ↔ owner ≠ turn.unit.name ∧ owner ∉ turn.unit.usedNames
  unresolved : turn.scope.relocate stream instruction
      = .error (.unresolvedSymbol turn.unit.name s!"{owner}.{name}" kind)
    ↔ (owner = turn.unit.name ∧ turn.unit.visibility? name kind = none)
      ∨ (owner ≠ turn.unit.name ∧ owner ∈ turn.unit.usedNames
        ∧ exports units kind name owner = false)

/-- Names are bound by the rules. In an image every instruction that refers to a
symbol by name has become one that refers to the place of the symbol, and there is
no image if the instruction is refused: its error, if it is the first one, is that
of the run. -/
structure FollowsScopingRule (turn : Turn units program options) (stream : Section)
    (instruction : Instruction) (reference : Reference) : Prop where
  unqualified : reference.owner? = none →
    turn.UnqualifiedRule stream instruction reference.kind reference.name
  qualified : ∀ owner, reference.owner? = some owner →
    turn.QualifiedRule stream instruction reference.kind owner reference.name
  linked : ∀ image, link units program options = .ok image →
    ∀ offset, (turn.unit.code.stream stream)[offset]? = some instruction →
      ∃ owner place, (∀ given, reference.owner? = some given → owner = given)
        ∧ turn.Binds stream instruction reference.kind owner reference.name
        ∧ image.place? reference.kind owner reference.name = some place
        ∧ image.instructions[(turn.map.base stream).toNat + offset]?
          = some (instruction.withOperand (reference.kind.linkedOperand place))
  refused : ∀ before after error,
    turn.unit.code.stream stream = before ++ instruction :: after →
    (∀ earlier ∈ Scope.sectionsBefore stream, ∃ code,
      turn.scope.relocateSection earlier = .ok code) →
    (∀ earlier ∈ before, ∃ moved, turn.scope.relocate stream earlier = .ok moved) →
    turn.scope.relocate stream instruction = .error error →
    link units program options = .error (.refused error)

/-- What becomes of a name without a unit: the unit declares it, or none, one or
several units of the uses clause export it. -/
theorem bind_outcome (turn : Turn units program options) (kind : SymbolKind) (name : String) :
    ((turn.unit.visibility? name kind).isSome
      ∧ ∃ place, turn.place? kind turn.unit.name name = some place
        ∧ turn.scope.bind kind.lookup name = .ok place)
    ∨ (turn.unit.visibility? name kind = none ∧ exportersOf units turn.unit kind name = []
      ∧ turn.scope.bind kind.lookup name = .error (.unresolvedSymbol turn.unit.name name kind))
    ∨ (turn.unit.visibility? name kind = none
      ∧ ∃ owner place, exportersOf units turn.unit kind name = [owner]
        ∧ turn.place? kind owner name = some place
        ∧ turn.scope.bind kind.lookup name = .ok place)
    ∨ (turn.unit.visibility? name kind = none
      ∧ 2 ≤ (exportersOf units turn.unit kind name).length
      ∧ turn.scope.bind kind.lookup name = .error (.duplicateExport turn.unit.name name kind
        (exportersOf units turn.unit kind name))) := by
  have found := turn.own_isSome_iff kind name
  have named := turn.map_exporters kind name
  cases declared : turn.unit.visibility? name kind with
  | some visibility =>
    rw [declared] at found
    obtain ⟨place, ownPlace⟩ := Option.isSome_iff_exists.1 (found.2 rfl)
    exact .inl ⟨rfl, place, place?_self.trans ownPlace, Scope.bind_of_own ownPlace⟩
  | none =>
    rw [declared] at found
    have absent : kind.lookup.own turn.scope.map name = none :=
      Option.not_isSome_iff_eq_none.1 fun isSome => nomatch found.1 isSome
    rw [← named]
    refine .inr ?_
    match exported : turn.scope.exporters kind.lookup name with
    | [] =>
      have bound := Scope.bind_of_none absent exported
      rw [SymbolKind.kind_lookup] at bound
      exact .inl ⟨rfl, rfl, bound⟩
    | [(owner, place)] =>
      have recorded : turn.place? kind owner name = some place :=
        place?_of_mem_exporters (by rw [exported]; exact List.mem_cons_self)
      exact .inr (.inl ⟨rfl, owner, place, rfl, recorded, Scope.bind_of_one absent exported⟩)
    | first :: second :: rest =>
      have several : 2 ≤ (turn.scope.exporters kind.lookup name).length := by simp [exported]
      have bound := Scope.bind_of_several absent several
      rw [exported, SymbolKind.kind_lookup] at bound
      exact .inr (.inr ⟨rfl, by simp, bound⟩)

/-- What becomes of a name with a unit. -/
theorem bindQualified_outcome (turn : Turn units program options) (kind : SymbolKind)
    (owner name : String) :
    (∃ place, turn.place? kind owner name = some place
        ∧ turn.scope.bindQualified kind.lookup owner name = .ok place
        ∧ ((owner = turn.unit.name ∧ (turn.unit.visibility? name kind).isSome)
          ∨ (owner ≠ turn.unit.name ∧ owner ∈ turn.unit.usedNames
            ∧ exports units kind name owner = true)))
    ∨ (owner ≠ turn.unit.name ∧ owner ∉ turn.unit.usedNames
      ∧ turn.scope.bindQualified kind.lookup owner name
        = .error (.unitNotUsed turn.unit.name owner name))
    ∨ (((owner = turn.unit.name ∧ turn.unit.visibility? name kind = none)
        ∨ (owner ≠ turn.unit.name ∧ owner ∈ turn.unit.usedNames
          ∧ exports units kind name owner = false))
      ∧ turn.scope.bindQualified kind.lookup owner name
        = .error (.unresolvedSymbol turn.unit.name s!"{owner}.{name}" kind)) := by
  by_cases same : owner = turn.unit.name
  · subst same
    have found := turn.own_isSome_iff kind name
    have bound : turn.scope.bindQualified kind.lookup turn.unit.name name = _ :=
      Scope.bindQualified_self kind.lookup name
    cases ownPlace : kind.lookup.own turn.map name with
    | none =>
      rw [ownPlace] at found
      have absent : turn.unit.visibility? name kind = none :=
        Option.not_isSome_iff_eq_none.1 fun isSome => nomatch found.2 isSome
      refine .inr (.inr ⟨.inl ⟨rfl, absent⟩, ?_⟩)
      simpa [scope, ownPlace] using bound
    | some place =>
      rw [ownPlace] at found
      refine .inl ⟨place, place?_self.trans ownPlace, ?_, .inl ⟨rfl, found.1 rfl⟩⟩
      simpa [scope, ownPlace] using bound
  · by_cases used : owner ∈ turn.unit.usedNames
    · have bound : turn.scope.bindQualified kind.lookup owner name = _ :=
        Scope.bindQualified_used same used name
      obtain ⟨map, found, exported⟩ := turn.exported_of_use kind name used
      cases given : kind.lookup.exported map name with
      | none =>
        rw [given] at exported
        refine .inr (.inr ⟨.inr ⟨same, used, by simpa using exported⟩, ?_⟩)
        simpa [scope, found, given] using bound
      | some place =>
        rw [given] at exported
        have recorded := (place?_of_earlier same found).trans (own_of_exported given)
        refine .inl ⟨place, recorded, ?_, .inr ⟨same, used, exported.1 rfl⟩⟩
        simpa [scope, found, given] using bound
    · exact .inr (.inl ⟨same, used, Scope.bindQualified_not_used same used name⟩)

section Rules

variable {stream : Section} {instruction : Instruction} {operand : Operand} {reference : Reference}

/-- An instruction binds to the symbol whose place its reference is resolved to. -/
theorem binds_of_resolve (has : instruction.operand? = some operand)
    (refers : operand.reference? = some reference)
    (recorded : turn.place? reference.kind owner reference.name = some place)
    (resolved : turn.scope.resolve reference = .ok place) :
    turn.Binds stream instruction reference.kind owner reference.name := by
  refine ⟨place, recorded, ?_, fun image linked => place?_completed linked recorded⟩
  rw [Scope.relocate_of_reference has refers, resolved]
  rfl

/-- References without a unit follow the rule for them. -/
theorem unqualifiedRule (turn : Turn units program options)
    (has : instruction.operand? = some operand)
    (refers : operand.reference? = some ⟨kind, none, name⟩) :
    turn.UnqualifiedRule stream instruction kind name := by
  have moved : turn.scope.relocate stream instruction = (turn.scope.bind kind.lookup name).map
      fun place => instruction.withOperand (kind.linkedOperand place) :=
    Scope.relocate_of_reference has refers
  rcases turn.bind_outcome kind name with ⟨declared, place, recorded, bound⟩
    | ⟨absent, exported, bound⟩ | ⟨absent, owner, place, exported, recorded, bound⟩
    | ⟨absent, several, bound⟩
  · have present := Option.isSome_iff_ne_none.1 declared
    exact ⟨fun _ => binds_of_resolve has refers recorded bound, by simp [present],
      by simp [moved, bound, present, Except.map], by simp [moved, bound, present, Except.map]⟩
  · exact ⟨by simp [absent], by simp [exported],
      by simp [moved, bound, absent, exported, Except.map],
      by simp [moved, bound, exported, Except.map]⟩
  · refine ⟨by simp [absent], fun other _ one => ?_, by simp [moved, bound, exported, Except.map],
      by simp [moved, bound, exported, Except.map]⟩
    cases exported.symm.trans one
    exact binds_of_resolve has refers recorded bound
  · refine ⟨by simp [absent], fun other _ one => ?_, ?_, fun listed => ?_⟩
    · simp [one] at several
    · refine iff_of_false (by simp [moved, bound, Except.map]) ?_
      rintro ⟨_, none⟩
      simp [none] at several
    · simp [moved, bound, absent, several, Except.map, eq_comm]

/-- References with a unit follow the rule for them. -/
theorem qualifiedRule (turn : Turn units program options)
    (has : instruction.operand? = some operand)
    (refers : operand.reference? = some ⟨kind, some owner, name⟩) :
    turn.QualifiedRule stream instruction kind owner name := by
  have moved : turn.scope.relocate stream instruction
      = (turn.scope.bindQualified kind.lookup owner name).map
        fun place => instruction.withOperand (kind.linkedOperand place) :=
    Scope.relocate_of_reference has refers
  rcases turn.bindQualified_outcome kind owner name with ⟨place, recorded, bound, found⟩
    | ⟨differs, notUsed, bound⟩ | ⟨absent, bound⟩
  · have binds : turn.Binds stream instruction kind owner name :=
      binds_of_resolve has refers recorded bound
    have accepted : ∀ error, turn.scope.relocate stream instruction ≠ .error error := by
      simp [moved, bound, Except.map]
    rcases found with ⟨same, declared⟩ | ⟨differs, used, exported⟩
    · have present := Option.isSome_iff_ne_none.1 declared
      exact ⟨fun _ => iff_of_true binds declared, fun differs => absurd same differs,
        iff_of_false (accepted _) (by simp [same]),
        iff_of_false (accepted _) (by simp [same, present])⟩
    · exact ⟨fun same => absurd same differs, fun _ _ => iff_of_true binds exported,
        iff_of_false (accepted _) (by simp [used]),
        iff_of_false (accepted _) (by simp [differs, exported])⟩
  · refine ⟨fun same => absurd same differs, fun _ used => absurd used notUsed, ?_, ?_⟩
    · simp [moved, bound, Except.map, differs, notUsed]
    · simp [moved, bound, Except.map, differs, notUsed]
  · have refused : ¬ turn.Binds stream instruction kind owner name := by
      rintro ⟨place, _, relocated, _⟩
      simp [moved, bound, Except.map] at relocated
    refine ⟨fun same => iff_of_false refused ?_, fun differs _ => iff_of_false refused ?_, ?_, ?_⟩
    · simpa [same] using absent
    · obtain ⟨same, _⟩ | ⟨_, _, hidden⟩ := absent
      · exact absurd same differs
      · simp [hidden]
    · refine iff_of_false (by simp [moved, bound, Except.map]) ?_
      rintro ⟨differs, notUsed⟩
      simp [differs, notUsed] at absent
    · exact iff_of_true (by simp [moved, bound, Except.map]) absent

/-- A name that is not refused has an owner. -/
theorem UnqualifiedRule.exists_owner (rule : turn.UnqualifiedRule stream instruction kind name)
    {moved : Instruction} (relocated : turn.scope.relocate stream instruction = .ok moved) :
    ∃ owner, turn.Binds stream instruction kind owner name := by
  cases declared : turn.unit.visibility? name kind with
  | some visibility => exact ⟨turn.unit.name, rule.own (by rw [declared]; rfl)⟩
  | none =>
    match exported : exportersOf units turn.unit kind name with
    | [] => simp [rule.unresolved.2 ⟨declared, exported⟩] at relocated
    | [owner] => exact ⟨owner, rule.imported owner declared exported⟩
    | first :: second :: rest =>
      have several : 2 ≤ (exportersOf units turn.unit kind name).length := by simp [exported]
      simp [(rule.ambiguous _).2 ⟨declared, several, rfl⟩] at relocated

/-- If a qualified reference is resolved at all, then to the symbol that it names. -/
theorem QualifiedRule.binds (rule : turn.QualifiedRule stream instruction kind owner name)
    {moved : Instruction} (relocated : turn.scope.relocate stream instruction = .ok moved) :
    turn.Binds stream instruction kind owner name := by
  by_cases same : owner = turn.unit.name
  · refine (rule.own same).2 (Option.isSome_iff_ne_none.2 fun absent => ?_)
    simp [rule.unresolved.2 (.inl ⟨same, absent⟩)] at relocated
  · by_cases used : owner ∈ turn.unit.usedNames
    · cases exported : exports units kind name owner with
      | true => exact (rule.imported same used).2 exported
      | false => simp [rule.unresolved.2 (.inr ⟨same, used, exported⟩)] at relocated
    · simp [rule.notUsed.2 ⟨same, used⟩] at relocated

end Rules

end Turn

/-- Every reference by name of a unit is bound by the scoping rule. -/
theorem binding_follows_scopingRule (turn : Turn units program options) (stream : Section)
    {instruction : Instruction} {operand : Operand} {reference : Reference}
    (has : instruction.operand? = some operand) (refers : operand.reference? = some reference) :
    turn.FollowsScopingRule stream instruction reference := by
  obtain ⟨kind, owner?, name⟩ := reference
  have unqualified : owner? = none → turn.UnqualifiedRule stream instruction kind name := by
    rintro rfl
    exact turn.unqualifiedRule has refers
  have qualified : ∀ owner, owner? = some owner →
      turn.QualifiedRule stream instruction kind owner name := by
    rintro owner rfl
    exact turn.qualifiedRule has refers
  refine ⟨unqualified, qualified, fun image linked offset found => ?_,
    fun before after error split sections accepted refused =>
      turn.link_eq_error (Scope.relocateAll_eq_error split sections accepted refused)⟩
  obtain ⟨moved, relocated, standsAt⟩ := turn.image_source linked found
  have bound : ∃ owner, (∀ given, owner? = some given → owner = given)
      ∧ turn.Binds stream instruction kind owner name := by
    cases owner? with
    | none =>
      obtain ⟨owner, binds⟩ := (unqualified rfl).exists_owner relocated
      exact ⟨owner, nofun, binds⟩
    | some owner =>
      exact ⟨owner, fun _ given => Option.some.inj given, (qualified owner rfl).binds relocated⟩
  obtain ⟨owner, agrees, place, recorded, relocatedTo, inImage⟩ := bound
  rw [Except.ok.inj (relocated.symm.trans relocatedTo)] at standsAt
  exact ⟨owner, place, agrees, ⟨place, recorded, relocatedTo, inImage⟩, inImage image linked,
    standsAt⟩

theorem binding_follows_scopingRule_tally :
    ∃ turn : Turn [tally] tallyProgram .standard, turn.unit = tallyProgram
      ∧ turn.FollowsScopingRule .init (.load (.named "count")) ⟨.var, none, "count"⟩
      ∧ turn.Binds .init (.load (.named "count")) .var "Tally" "count" := by
  obtain ⟨image, linked⟩ := link_tally
  have sequenced : sequence [tally] tallyProgram .standard
      = .ok ([tally] ++ tallyProgram :: []) := by cbv
  obtain ⟨turn, _, unitEq⟩ := Turn.exists_of_linked linked sequenced
  have rule : turn.FollowsScopingRule .init (.load (.named "count")) ⟨.var, none, "count"⟩ :=
    binding_follows_scopingRule turn .init rfl rfl
  refine ⟨turn, unitEq, rule, (rule.unqualified rfl).imported "Tally" ?_ ?_⟩
  · rw [unitEq]
    cbv
  · rw [unitEq]
    cbv

end Link

end UnitLinker
