import Mathlib
import UnitLinker.Link.Journal
import UnitLinker.Proofs.Acceptance
import UnitLinker.Proofs.Limits

/-!
# First errors

Which error a run ends with, in terms of the units alone. A run places one unit after the
other. It checks the room for a unit, the entries of its routines and then its operands,
each of them in order, and the first check that fails gives the error. What the error says
of the unit is true.
-/

namespace UnitLinker.Link

/-- There is room for a unit after the units that are placed before it. -/
structure FitsAfter (options : Options) (earlier : List ObjectUnit) (unit : ObjectUnit) :
    Prop where
  globals : extent slotCount earlier + slotCount unit ≤ options.maxGlobals.toNat
  code : extent Layout.codeLength earlier + Layout.codeLength unit
    ≤ options.maxInstructions.toNat

/-- A unit passes all checks that are made when it is placed after others. -/
structure PassesChecks (units : List ObjectUnit) (options : Options) (earlier : List ObjectUnit)
    (unit : ObjectUnit) : Prop where
  fits : FitsAfter options earlier unit
  wellFormed : IsWellFormed units unit

/-- The error for an operand that does not have what it needs. -/
inductive Offends (units : List ObjectUnit) (unit : ObjectUnit) (stream : Section) :
    Operand → LinkError → Prop where
  | slot {slot : UInt64} (outside : unit.vars.size ≤ slot.toNat) :
      Offends units unit stream (.var (.slot slot))
        (.slotOutOfRange unit.name slot unit.vars.size)
  | undefined {name : String} (absent : unit.labels.get? name = none) :
      Offends units unit stream (.target (.label name)) (.undefinedLabel unit.name name)
  | label {name : String} {position : CodeOffset}
      (defined : unit.labels.get? name = some position)
      (outside : ¬ IsInside unit position.stream position.offset.toNat) :
      Offends units unit stream (.target (.label name)) (.invalidOffset unit.name position.stream
        position.offset (unit.code.stream position.stream).length)
  | offset {offset : UInt64} (outside : ¬ IsInside unit stream offset.toNat) :
      Offends units unit stream (.target (.offset offset))
        (.invalidOffset unit.name stream offset (unit.code.stream stream).length)
  /-- Neither the unit nor a unit that it uses has the symbol for it. -/
  | unknown {operand : Operand} {kind : SymbolKind} {name : String}
      (refers : operand.reference? = some ⟨kind, none, name⟩)
      (absent : unit.visibility? name kind = none)
      (nowhere : exportersOf units unit kind name = []) :
      Offends units unit stream operand (.unresolvedSymbol unit.name name kind)
  | ambiguous {operand : Operand} {kind : SymbolKind} {name : String}
      (refers : operand.reference? = some ⟨kind, none, name⟩)
      (absent : unit.visibility? name kind = none)
      (several : 2 ≤ (exportersOf units unit kind name).length) :
      Offends units unit stream operand
        (.duplicateExport unit.name name kind (exportersOf units unit kind name))
  | notUsed {operand : Operand} {kind : SymbolKind} {owner name : String}
      (refers : operand.reference? = some ⟨kind, some owner, name⟩)
      (differs : owner ≠ unit.name) (notUsed : owner ∉ unit.usedNames) :
      Offends units unit stream operand (.unitNotUsed unit.name owner name)
  /-- The unit that is named does not have the symbol, or not for this unit. -/
  | unknownIn {operand : Operand} {kind : SymbolKind} {owner name : String}
      (refers : operand.reference? = some ⟨kind, some owner, name⟩)
      (absent : (owner = unit.name ∧ unit.visibility? name kind = none)
        ∨ (owner ≠ unit.name ∧ owner ∈ unit.usedNames
          ∧ exports units kind name owner = false)) :
      Offends units unit stream operand
        (.unresolvedSymbol unit.name s!"{owner}.{name}" kind)

/-- The error for a unit that is placed after others, by the first check that it fails. -/
inductive FirstError (units : List ObjectUnit) (options : Options) (earlier : List ObjectUnit)
    (unit : ObjectUnit) : LinkError → Prop where
  | globals {used : UInt64} (usedEq : used.toNat = extent slotCount earlier)
      (full : options.maxGlobals.toNat < used.toNat + slotCount unit) :
      FirstError units options earlier unit
        (.spaceOverflow unit.name .globals used (slotCount unit) options.maxGlobals)
  | code {used : UInt64} {requested : Nat}
      (globalsFit : extent slotCount earlier + slotCount unit ≤ options.maxGlobals.toNat)
      (usedEq : used.toNat = extent Layout.codeLength earlier)
      (requestedEq : requested = unit.code.body.length + unit.code.init.length
        + unit.code.final.length + 2)
      (full : options.maxInstructions.toNat < used.toNat + requested) :
      FirstError units options earlier unit
        (.spaceOverflow unit.name .code used requested options.maxInstructions)
  | entry {before after : List (String × Routine)} {name : String} {routine : Routine}
      (fits : FitsAfter options earlier unit)
      (split : unit.routines.entries = before ++ (name, routine) :: after)
      (inside : ∀ other ∈ before, other.2.entry.toNat < unit.code.body.length)
      (outside : unit.code.body.length ≤ routine.entry.toNat) :
      FirstError units options earlier unit
        (.invalidEntry unit.name name routine.entry unit.code.body.length routine.span)
  /-- The first operand that does not have what it needs, in the order of sections. -/
  | operand {before after : List (Section × Instruction)} {stream : Section}
      {instruction : Instruction} {operand : Operand} {error : LinkError}
      (fits : FitsAfter options earlier unit)
      (entries : ∀ entry ∈ unit.routines.entries, entry.2.entry.toNat < unit.code.body.length)
      (split : instructionsOf unit = before ++ (stream, instruction) :: after)
      (resolves : ∀ other ∈ before, ∀ operand, other.2.operand? = some operand →
        Resolves units unit other.1 operand)
      (has : instruction.operand? = some operand)
      (unresolved : ¬ Resolves units unit stream operand)
      (offends : Offends units unit stream operand error) :
      FirstError units options earlier unit error

section Operands

variable {scope : Scope} {stream : Section} {error : LinkError}

/-- A slot is refused if the unit does not have it. -/
theorem Scope.relocateVar_slot_eq_error {slot : UInt64}
    (refused : scope.relocateVar (.slot slot) = .error error) :
    scope.unit.vars.size ≤ slot.toNat
      ∧ error = .slotOutOfRange scope.unit.name slot scope.unit.vars.size := by
  simp only [relocateVar, globalOf?] at refused
  split at refused
  · rename_i outside
    cases refused
    exact ⟨outside, rfl⟩
  · cases refused

/-- A position is refused if it is not inside its section. -/
theorem Scope.addressOf_eq_error {position : CodeOffset}
    (refused : scope.addressOf position = .error error) :
    ¬ IsInside scope.unit position.stream position.offset.toNat
      ∧ error = .invalidOffset scope.unit.name position.stream position.offset
        (scope.unit.code.stream position.stream).length := by
  unfold addressOf at refused
  rw [← isPastEnd_eq_false_iff, Bool.not_eq_false]
  split at refused
  · rename_i pastEnd
    cases refused
    exact ⟨pastEnd, rfl⟩
  · cases refused

/-- The first instruction that is not relocated, in the order of sections, gives the error of
its unit. -/
theorem Scope.exists_of_relocateAll_eq_error (refused : scope.relocateAll = .error error) :
    ∃ before stream instruction after,
      instructionsOf scope.unit = before ++ (stream, instruction) :: after
      ∧ (∀ other ∈ before, ∃ moved, scope.relocate other.1 other.2 = .ok moved)
      ∧ scope.relocate stream instruction = .error error := by
  rcases bind_eq_error.1 refused with sectionsRefused | ⟨_, _, given⟩
  · obtain ⟨sections, stream, others, allEq, accepted, stopped⟩ :=
      exists_of_mapM_eq_error sectionsRefused
    rcases bind_eq_error.1 stopped with streamRefused | ⟨_, _, given⟩
    · obtain ⟨before, instruction, after, streamEq, acceptedBefore, stoppedAt⟩ :=
        exists_of_mapM_eq_error streamRefused
      refine ⟨sections.flatMap (fun stream => (scope.unit.code.stream stream).map
          fun instruction => (stream, instruction))
        ++ before.map (fun instruction => (stream, instruction)), stream, instruction,
        after.map (fun instruction => (stream, instruction))
          ++ others.flatMap (fun stream => (scope.unit.code.stream stream).map
            fun instruction => (stream, instruction)), ?_, ?_, stoppedAt⟩
      · simp [instructionsOf, allEq, streamEq]
      · intro other member
        rcases List.mem_append.1 member with inSections | inStream
        · obtain ⟨earlier, isEarlier, inEarlier⟩ := List.mem_flatMap.1 inSections
          obtain ⟨source, isSource, rfl⟩ := List.mem_map.1 inEarlier
          obtain ⟨code, relocated⟩ := accepted earlier isEarlier
          obtain ⟨moved, mapped, _⟩ := bind_eq_ok.1 relocated
          exact exists_mapM_iff.1 ⟨moved, mapped⟩ source isSource
        · obtain ⟨source, isSource, rfl⟩ := List.mem_map.1 inStream
          exact acceptedBefore source isSource
    · cases given
  · cases given

variable {units : List ObjectUnit} {program : ObjectUnit} {options : Options}

/-- At its turn a reference by name is refused with the error that its unit is to blame for. -/
theorem Turn.offends_of_resolve (turn : Turn units program options) {operand : Operand}
    {reference : Reference} (refers : operand.reference? = some reference)
    (refused : turn.scope.resolve reference = .error error) :
    Offends units turn.unit stream operand error := by
  obtain ⟨kind, owner?, name⟩ := reference
  cases owner? with
  | none =>
    rcases turn.bind_outcome kind name with ⟨_, place, _, bound⟩ | ⟨absent, nowhere, bound⟩
      | ⟨_, _, place, _, _, bound⟩ | ⟨absent, several, bound⟩
    · cases refused.symm.trans bound
    · cases refused.symm.trans bound
      exact .unknown refers absent nowhere
    · cases refused.symm.trans bound
    · cases refused.symm.trans bound
      exact .ambiguous refers absent several
  | some owner =>
    rcases turn.bindQualified_outcome kind owner name with ⟨place, _, bound, _⟩
      | ⟨differs, notUsed, bound⟩ | ⟨absent, bound⟩
    · cases refused.symm.trans bound
    · cases refused.symm.trans bound
      exact .notUsed refers differs notUsed
    · cases refused.symm.trans bound
      exact .unknownIn refers absent

/-- An operand is refused for what is wrong with it. -/
theorem Turn.offends_of_relocateOperand (turn : Turn units program options) {operand : Operand}
    (refused : turn.scope.relocateOperand stream operand = .error error) :
    Offends units turn.unit stream operand error := by
  have referring : ∀ reference, operand.reference? = some reference →
      Offends units turn.unit stream operand error := by
    intro reference refers
    rw [Scope.relocateOperand_of_reference refers, map_eq_error] at refused
    exact turn.offends_of_resolve refers refused
  cases operand with
  | var var =>
    cases var with
    | slot slot =>
      obtain ⟨outside, rfl⟩ := Scope.relocateVar_slot_eq_error (map_eq_error.1 refused)
      exact .slot outside
    | named _ | qualified _ _ => exact referring _ rfl
    | frame _ _ | global _ => cases refused
  | target target =>
    have targetRefused := map_eq_error.1 refused
    cases target with
    | label name =>
      simp only [Scope.relocateTarget] at targetRefused
      split at targetRefused
      · rename_i absent
        cases targetRefused
        exact .undefined absent
      · rename_i position defined
        rcases bind_eq_error.1 targetRefused with notAddressed | ⟨_, _, given⟩
        · obtain ⟨outside, rfl⟩ := Scope.addressOf_eq_error notAddressed
          exact .label defined outside
        · cases given
    | offset offset =>
      rcases bind_eq_error.1 targetRefused with notAddressed | ⟨_, _, given⟩
      · obtain ⟨outside, rfl⟩ := Scope.addressOf_eq_error notAddressed
        exact .offset outside
      · cases given
    | address _ => cases targetRefused
  | callee callee =>
    cases callee with
    | routine _ | qualified _ _ => exact referring _ rfl
    | address _ => cases refused

end Operands

section Runs

variable {units : List ObjectUnit} {program : ObjectUnit} {options : Options}
  {earlier later : List ObjectUnit} {unit : ObjectUnit} {layout : Layout} {error : LinkError}

/-- A unit whose blocks are reserved fits after the units before it. -/
theorem fitsAfter_of_reserve (holds : Holds layout earlier)
    (limited : layout.withLimits options = layout) {reservation : Reservation}
    (reserved : layout.reserve unit = .ok reservation) : FitsAfter options earlier unit := by
  obtain ⟨globalsFit, codeFits, _⟩ := Layout.reserve_eq_ok.1 reserved
  rw [holds.globalsNext, ← limited] at globalsFit
  rw [holds.codeNext, ← limited] at codeFits
  exact ⟨globalsFit, codeFits⟩

/-- A unit whose blocks are not reserved does not fit after the units before it. -/
theorem firstError_of_reserve (holds : Holds layout earlier)
    (limited : layout.withLimits options = layout) (full : layout.reserve unit = .error error) :
    FirstError units options earlier unit error := by
  rw [← limited] at full
  rcases Layout.reserve_eq_error.1 full with ⟨globalsFull, rfl⟩ | ⟨globalsFit, codeFull, rfl⟩
  · exact .globals holds.globalsNext globalsFull
  · have requestedEq : Layout.codeLength unit = unit.code.body.length + unit.code.init.length
        + unit.code.final.length + 2 := by
      rw [Layout.codeLength]
      omega
    refine .code ?_ holds.codeNext requestedEq codeFull
    rw [← holds.globalsNext]
    exact globalsFit

/-- The first routine whose entry is not in the body is the one that is refused. -/
theorem firstError_of_routineSymbols (fits : FitsAfter options earlier unit) {start : UInt64}
    (refused : Layout.routineSymbols unit start = .error error) :
    FirstError units options earlier unit error := by
  simp only [Layout.routineSymbols] at refused
  split at refused
  · rename_i name routine found
    cases refused
    obtain ⟨outside, before, after, split, inside⟩ := List.find?_eq_some_iff_append.1 found
    refine .entry fits split ?_ (of_decide_eq_true outside)
    intro other member
    have notOutside := inside other member
    simpa using notOutside
  · cases refused

/-- Code is refused for the first operand that has something wrong with it. -/
theorem Turn.firstError_of_relocateAll (turn : Turn units program options)
    (fits : FitsAfter options turn.earlier turn.unit)
    (refused : turn.scope.relocateAll = .error error) :
    FirstError units options turn.earlier turn.unit error := by
  obtain ⟨before, stream, instruction, after, split, accepted, stopped⟩ :=
    Scope.exists_of_relocateAll_eq_error refused
  have resolves : ∀ other ∈ before, ∀ operand, other.2.operand? = some operand →
      Resolves units turn.unit other.1 operand := fun other member =>
    (turn.exists_relocate_iff other.1 other.2).1 (accepted other member)
  cases has : instruction.operand? with
  | none =>
    rw [Scope.relocate_of_no_operand has] at stopped
    cases stopped
  | some operand =>
    rw [Scope.relocate_of_operand has, map_eq_error] at stopped
    have unresolved : ¬ Resolves units turn.unit stream operand := by
      intro resolved
      obtain ⟨moved, relocated⟩ := (turn.exists_relocateOperand_iff stream operand).2 resolved
      cases relocated.symm.trans stopped
    exact .operand fits (Layout.unitMap_eq_ok.1 turn.mapped).1 split resolves has unresolved
      (turn.offends_of_relocateOperand stopped)

/-- Every unit that a run has placed has passed its checks. -/
theorem passesChecks_of_placeAll {between : List ObjectUnit}
    (sequenced : sequence units program options = .ok ((earlier ++ unit :: between) ++ later))
    (placed : (Layout.fresh options).placeAll (earlier ++ unit :: between) = .ok layout) :
    PassesChecks units options earlier unit := by
  obtain ⟨turn, rfl, rfl, _, relocated⟩ := Turn.exists_of_placeAll sequenced placed
  have limited := Layout.withLimits_of_placeAll turn.placed
  exact ⟨fitsAfter_of_reserve turn.holds limited turn.reserved, turn.isWellFormed relocated⟩

/-- The unit at which a run stops fails a check, and the error is that of the first one. -/
theorem Stop.firstError (stop : Stop units program options (.refused error))
    (refusal : Refusal stop.before stop.unit (.refused error)) :
    FirstError units options stop.earlier stop.unit error := by
  have limited := Layout.withLimits_of_placeAll stop.placed
  have distinct := sequence_names_nodup stop.sequenced
  rw [List.map_append, List.nodup_append] at distinct
  have holds : Holds stop.before stop.earlier :=
    (holds_fresh options).placeAll distinct.1 stop.placed
  cases refusal with
  | space full => exact firstError_of_reserve holds limited full
  | entry reserved outside =>
    exact firstError_of_routineSymbols (fitsAfter_of_reserve holds limited reserved) outside
  | code reserved mapped unresolved =>
    let turn : Turn units program options := ⟨stop.earlier, stop.unit, stop.later, stop.before, _,
      _, stop.sequenced, stop.placed, reserved, mapped⟩
    exact turn.firstError_of_relocateAll (fitsAfter_of_reserve holds limited reserved) unresolved

end Runs

/-- If units are in order and a run ends with an error, then the error names a unit of the
sequence of which it is true. All units before that one pass their checks, and the error is
that of the first check that the unit fails. -/
theorem link_error_is_first {units : List ObjectUnit} {program : ObjectUnit} {options : Options}
    {order : List (Fin units.length)} {error : LinkError}
    (resolved : Dependency.resolveOrder units program options.stripUnused = .ok order)
    (failed : link units program options = .error (.refused error)) :
    ∃ earlier unit later, order.map units.get ++ [program] = earlier ++ unit :: later
      ∧ error.raisedFor? = some unit.name
      ∧ (∀ before other between, earlier = before ++ other :: between →
        PassesChecks units options before other)
      ∧ FirstError units options earlier unit error := by
  have sequenced : sequence units program options = .ok (order.map units.get ++ [program]) :=
    sequence_eq_ok.2 ⟨order, resolved, rfl⟩
  rcases link_eq_error_cases failed with ⟨_, notSequenced, _⟩ | ⟨stop, refusal⟩
  · cases sequenced.symm.trans notSequenced
  · refine ⟨stop.earlier, stop.unit, stop.later,
      Except.ok.inj (sequenced.symm.trans stop.sequenced), refusal.raisedFor, ?_,
      stop.firstError refusal⟩
    intro before other between split
    have stopSequenced := stop.sequenced
    have placed := stop.placed
    rw [split] at stopSequenced placed
    exact passesChecks_of_placeAll stopSequenced placed

section Gate

/-- A unit whose only label is at the end of its body, where there is nothing to jump to. -/
def gate : ObjectUnit :=
  (ObjectUnit.empty "Gate" .unit none).attemptAll
    [.use "Tally" none, .emit (.load (.named "count")), .emit (.jumpIf (.label "past")),
      .emit (.jump (.label "nowhere")), .label "past"]

/-- A program that jumps to a label it does not define. -/
def gateProgram : ObjectUnit :=
  (ObjectUnit.empty "Main" .program none).attemptAll
    [.use "Gate" none, .select .init, .emit (.jump (.label "missing"))]

end Gate

/-- Of three jumps that lead nowhere the first one is reported. -/
theorem link_error_is_first_gate :
    Dependency.resolveOrder [gate, tally] gateProgram false = .ok [1, 0]
      ∧ link [gate, tally] gateProgram .standard
        = .error (.refused (.invalidOffset "Gate" .body 3 3))
      ∧ ∃ earlier unit later, [tally, gate, gateProgram] = earlier ++ unit :: later
        ∧ unit.name = "Gate"
        ∧ (∀ before other between, earlier = before ++ other :: between →
          PassesChecks [gate, tally] .standard before other)
        ∧ FirstError [gate, tally] .standard earlier unit (.invalidOffset "Gate" .body 3 3) := by
  have resolved : Dependency.resolveOrder [gate, tally] gateProgram Options.standard.stripUnused
      = .ok [1, 0] := by cbv
  have failed : link [gate, tally] gateProgram .standard
      = .error (.refused (.invalidOffset "Gate" .body 3 3)) := by cbv
  obtain ⟨earlier, unit, later, split, named, passes, first⟩ :=
    link_error_is_first resolved failed
  exact ⟨resolved, failed, earlier, unit, later, split, (Option.some.inj named).symm, passes, first⟩

end UnitLinker.Link
