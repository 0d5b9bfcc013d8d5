import Mathlib
import UnitLinker.Proofs.Acceptance
import UnitLinker.Proofs.Headings
import UnitLinker.Proofs.StoredUnits

/-!
# Interfaces

The other units and the program see of a unit its heading and the symbols that it
exports. A unit may be replaced by any other one with the same interface: references
elsewhere mean the same symbols as before, wherever these are placed now, and a link
that fails because of it blames the new unit or has no room. There is one exception. A
program that declares a slot that it does not have may link with the old unit, and with
the new one count past the last word.
-/

namespace UnitLinker

/-- The names of the symbols that a unit exports, in the order of their declarations. -/
def ObjectUnit.exportedNames (unit : ObjectUnit) : SymbolKind → List String
  | .var => (unit.vars.entries.filter fun entry => entry.2.visibility.isExported).map Prod.fst
  | .routine => (unit.routines.entries.filter fun entry => entry.2.isExported).map Prod.fst

theorem Visibility.isExported_iff {visibility : Visibility} :
    visibility.isExported = true ↔ visibility = .interface := by
  cases visibility <;> simp [isExported]

/-- A unit exports what it declares in its interface. -/
theorem ObjectUnit.mem_exportedNames {unit : ObjectUnit} {kind : SymbolKind} {name : String} :
    name ∈ unit.exportedNames kind ↔ unit.visibility? name kind = some .interface := by
  cases kind <;> simp [exportedNames, visibility?, Routine.isExported, Visibility.isExported_iff,
    Table.get?_eq_some_iff]

namespace Link

/-- Two units that others cannot tell apart, whatever their implementations are. -/
structure SameInterface (unit other : ObjectUnit) : Prop where
  kind : unit.kind = other.kind
  name : unit.name = other.name
  uses : unit.usedNames = other.usedNames
  exported : ∀ kind name, name ∈ unit.exportedNames kind ↔ name ∈ other.exportedNames kind

/-- In an image, the instruction at a position of a unit refers to a symbol of a unit. -/
def RefersTo (image : Image) (user : ObjectUnit) (stream : Section) (offset : Nat)
    (instruction : Instruction) (kind : SymbolKind) (owner name : String) : Prop :=
  ∃ map place, image.units.get? user.name = some map ∧ image.place? kind owner name = some place
    ∧ image.instructions[(map.base stream).toNat + offset]?
      = some (instruction.withOperand (kind.linkedOperand place))

/-- The references of a unit by name mean the same symbols among two lists of units, and
refer to them in an image of each. -/
def BindsAlike (units others : List ObjectUnit) (first second : Image) (user : ObjectUnit) : Prop :=
  ∀ stream offset instruction operand reference,
    (user.code.stream stream)[offset]? = some instruction →
    instruction.operand? = some operand → operand.reference? = some reference →
    ∃ owner, BindsTo units user reference owner ∧ BindsTo others user reference owner
      ∧ RefersTo first user stream offset instruction reference.kind owner reference.name
      ∧ RefersTo second user stream offset instruction reference.kind owner reference.name

variable {units others front back : List ObjectUnit} {program unit other user : ObjectUnit}
  {options : Options} {image first second : Image} {failure : Failure}

/-- An instruction that refers to a symbol by name refers in the image to the symbol that
it means. -/
theorem Turn.exists_refersTo (turn : Turn units program options)
    (linked : link units program options = .ok image) {stream : Section} {offset : Nat}
    {instruction : Instruction} {operand : Operand} {reference : Reference}
    (found : (turn.unit.code.stream stream)[offset]? = some instruction)
    (has : instruction.operand? = some operand) (refers : operand.reference? = some reference) :
    ∃ owner, BindsTo units turn.unit reference owner
      ∧ RefersTo image turn.unit stream offset instruction reference.kind owner reference.name := by
  obtain ⟨target, relocated, standsAt⟩ := turn.image_source linked found
  rw [Scope.relocate_of_reference has refers] at relocated
  obtain ⟨place, resolved, rfl⟩ := map_eq_ok.1 relocated
  obtain ⟨owner, bindsTo, recorded⟩ := Turn.exists_owner_of_resolve resolved
  exact ⟨owner, bindsTo, turn.map, place, (turn.completed linked).1,
    Turn.place?_completed linked recorded, standsAt⟩

/-- Units that export the same symbols give the references of a unit the same meaning. -/
theorem bindsAlike_of_sameExports (sameExports : exports units = exports others)
    (linked : link units program options = .ok first)
    (otherLinked : link others program options = .ok second)
    {turn : Turn units program options} {otherTurn : Turn others program options}
    (sameUnit : otherTurn.unit = turn.unit) : BindsAlike units others first second turn.unit := by
  intro stream offset instruction operand reference found has refers
  obtain ⟨owner, bindsTo, refersTo⟩ := turn.exists_refersTo linked found has refers
  rw [← sameUnit] at found
  obtain ⟨otherOwner, otherBindsTo, otherRefersTo⟩ :=
    otherTurn.exists_refersTo otherLinked found has refers
  rw [sameUnit] at otherBindsTo otherRefersTo
  cases (bindsTo.of_sameExports sameExports).unique otherBindsTo
  exact ⟨owner, bindsTo, otherBindsTo, refersTo, otherRefersTo⟩

namespace SameInterface

variable (same : SameInterface unit other)
include same

/-- It does not matter which of the two units replaces the other. -/
theorem symm : SameInterface other unit where
  kind := same.kind.symm
  name := same.name.symm
  uses := same.uses.symm
  exported kind name := (same.exported kind name).symm

/-- Units with the same interface have the same heading. -/
theorem heading_eq : unit.heading = other.heading := by
  rw [ObjectUnit.heading, same.kind, same.name, same.uses]
  rfl

/-- Replacing the unit keeps all headings. -/
theorem headings_perm : ((front ++ unit :: back).map ObjectUnit.heading).Perm
    ((front ++ other :: back).map ObjectUnit.heading) := by
  apply List.Perm.of_eq
  rw [List.map_append, List.map_append, List.map_cons, List.map_cons, same.heading_eq]

/-- Replacing the unit keeps what is exported. -/
theorem exports_eq : exports (front ++ unit :: back) = exports (front ++ other :: back) := by
  funext kind name owner
  have exported := same.exported kind name
  rw [ObjectUnit.mem_exportedNames, ObjectUnit.mem_exportedNames] at exported
  simp only [exports, List.any_append, List.any_cons, same.name, decide_eq_decide.2 exported]

/-- The same units are linked beside the one that is replaced. -/
theorem mem_linkedUnits (isOther : user ∈ program :: (front ++ back)) {stripUnused : Bool}
    (isLinked : user ∈ linkedUnits (front ++ unit :: back) program stripUnused) :
    user ∈ linkedUnits (front ++ other :: back) program stripUnused := by
  rcases List.mem_cons.1 isOther with rfl | beside
  · exact Link.mem_linkedUnits.2 (.inr rfl)
  · rcases Link.mem_linkedUnits.1 isLinked with included | isProgram
    · have supplied : user ∈ front ++ other :: back := by
        simp only [List.mem_append, List.mem_cons] at beside ⊢
        rcases beside with inFront | inBack
        · exact .inl inFront
        · exact .inr (.inr inBack)
      apply Link.mem_linkedUnits.2
      exact .inl (mem_includedUnits_of_headings same.headings_perm included supplied rfl)
    · exact Link.mem_linkedUnits.2 (.inr isProgram)

/-- A unit beside the one that is replaced has its turn in both runs. -/
theorem exists_turns (linked : link (front ++ unit :: back) program options = .ok first)
    (otherLinked : link (front ++ other :: back) program options = .ok second)
    (isOther : user ∈ program :: (front ++ back)) (isPlaced : user.name ∈ first.units.names) :
    ∃ (turn : Turn (front ++ unit :: back) program options)
      (otherTurn : Turn (front ++ other :: back) program options),
      turn.unit = user ∧ otherTurn.unit = user := by
  obtain ⟨map, found⟩ := Option.isSome_iff_exists.1 (Table.contains_iff_mem_names.2 isPlaced)
  obtain ⟨turn, sameName, _⟩ := Turn.exists_of_name linked found
  have isUser : user ∈ program :: (front ++ unit :: back) := by
    simp only [List.mem_cons, List.mem_append] at isOther ⊢
    tauto
  have unitEq : turn.unit = user :=
    eq_of_name_eq_of_link linked (List.mem_cons.2 turn.unit_mem.symm) isUser sameName
  have isLinked := turn.mem_linkedUnits
  rw [unitEq] at isLinked
  obtain ⟨otherTurn, otherUnitEq⟩ :=
    Turn.exists_of_mem_linkedUnits otherLinked (same.mem_linkedUnits isOther isLinked)
  exact ⟨turn, otherTurn, unitEq, otherUnitEq⟩

/-- A unit beside the one that is replaced still has all that its code needs. -/
theorem isWellFormed (linked : link (front ++ unit :: back) program options = .ok first)
    (isOther : user ∈ program :: (front ++ back))
    (isLinked : user ∈ linkedUnits (front ++ other :: back) program options.stripUnused) :
    IsWellFormed (front ++ other :: back) user := by
  have wellFormed := (isLinkable_of_link linked).wellFormed user
    (same.symm.mem_linkedUnits isOther isLinked)
  refine ⟨wellFormed.entries, fun stream instruction member operand has => ?_⟩
  exact (wellFormed.operands stream instruction member operand has).of_sameExports same.exports_eq

/-- If the new unit breaks a link, the error is raised for it or says that there is no
room, or the program misplaces a variable. -/
theorem refusal (linked : link (front ++ unit :: back) program options = .ok first)
    (built : ∀ supplied ∈ front ++ other :: back, supplied.IsBuilt)
    (failed : link (front ++ other :: back) program options = .error failure) :
    (∃ error, failure = .refused error
        ∧ (error.raisedFor? = some other.name ∨ error.isSpaceOverflow = true))
      ∨ (∃ fault, failure = .fault fault) ∧ ∃ name, program.Misplaces name := by
  rcases link_eq_error_cases failed with ⟨error, unordered, _⟩ | ⟨stop, refusal⟩
  · -- the headings are the same, so the units can still be put in order
    obtain ⟨order, resolved⟩ := (isLinkable_of_link linked).ordered
    have orderable := orderable_of_headings same.headings_perm
      (Dependency.orderable_of_resolveOrder resolved)
    obtain ⟨others, otherResolved⟩ := Dependency.exists_order_of_orderable orderable
    rw [sequence_eq_ok.2 ⟨others, otherResolved, rfl⟩] at unordered
    cases unordered
  · by_cases isNew : stop.unit = other
    · cases failure with
      | refused error =>
        have named := refusal.raisedFor
        rw [isNew] at named
        exact .inl ⟨error, rfl, .inl named⟩
      | fault fault =>
        have inOrder := (built other (by simp)).slotsInOrder
        rw [← isNew] at inOrder
        exact absurd stop.stopped (place_ne_fault inOrder fault)
    · have isOther : stop.unit ∈ program :: (front ++ back) := by
        have member := stop.unit_mem
        simp only [List.mem_append, List.mem_cons] at member ⊢
        tauto
      have isLinked := (sequence_perm stop.sequenced).mem_iff.1
        (List.mem_append_right _ List.mem_cons_self)
      have wellFormed := same.isWellFormed linked isOther isLinked
      cases refusal with
      | space full => exact .inl ⟨_, rfl, .inr (Layout.reserve_errors _ _ _ full).2⟩
      | entry reserved outside =>
        rw [routineSymbols_eq_ok.2 ⟨wellFormed.entries, rfl⟩] at outside
        cases outside
      | slot reserved entries overflows =>
        have misplaced := (Refusal.slot reserved entries overflows).exists_misplaced
        rcases stop.unit_mem with supplied | isProgram
        · exact absurd stop.stopped (place_ne_fault (built stop.unit supplied).slotsInOrder _)
        · rw [isProgram] at misplaced
          exact .inr ⟨⟨_, rfl⟩, misplaced⟩
      | code reserved mapped unresolved =>
        let turn : Turn (front ++ other :: back) program options := ⟨stop.earlier, stop.unit,
          stop.later, stop.before, _, _, stop.sequenced, stop.placed, reserved, mapped⟩
        obtain ⟨code, relocated⟩ := turn.exists_relocateAll_iff.2 wellFormed.operands
        cases unresolved.symm.trans relocated

end SameInterface

/-- A unit may be replaced by any other one with the same interface. If both lists link,
the references by name of all other units and of the program mean the same symbols. If
the new list does not link, the error is raised for the new unit or says that there is
no room, unless the program declares a variable with a slot that it does not have. -/
theorem replace_same_interface (same : SameInterface unit other)
    (built : ∀ supplied ∈ front ++ other :: back, supplied.IsBuilt)
    (linked : link (front ++ unit :: back) program options = .ok first) :
    (∀ second, link (front ++ other :: back) program options = .ok second →
      ∀ user ∈ program :: (front ++ back), user.name ∈ first.units.names →
        BindsAlike (front ++ unit :: back) (front ++ other :: back) first second user)
      ∧ ∀ failure, link (front ++ other :: back) program options = .error failure →
        (∃ error, failure = .refused error
            ∧ (error.raisedFor? = some other.name ∨ error.isSpaceOverflow = true))
          ∨ (∃ fault, failure = .fault fault) ∧ ∃ name, program.Misplaces name := by
  refine ⟨fun second otherLinked user isOther isPlaced => ?_,
    fun failure failed => same.refusal linked built failed⟩
  obtain ⟨turn, otherTurn, rfl, sameUnit⟩ :=
    same.exists_turns linked otherLinked isOther isPlaced
  exact bindsAlike_of_sameExports same.exports_eq linked otherLinked sameUnit

section Recount

/-- A unit with the interface of `tally` and another implementation. It has a private
variable and a private routine that the program must not see. -/
def recount : ObjectUnit :=
  (ObjectUnit.empty "Tally" .unit none).attemptAll
    [.var "total" .implementation, .var "spare" .implementation, .var "count" .interface,
      .begin "clear" (.ofSignature ⟨[], none⟩ .implementation), .emit (.push (.int 0)),
      .emit (.store (.named "total")), .emit .ret,
      .begin "step" (.ofSignature ⟨[], none⟩ .interface), .emit (.call (.routine "clear") 0),
      .emit (.load (.slot 0)), .emit (.store (.named "count")), .emit .ret]

/-- A unit with the interface of `tally` that jumps to a label it does not define. -/
def lostTally : ObjectUnit :=
  (ObjectUnit.empty "Tally" .unit none).attemptAll
    [.var "count" .interface, .begin "step" (.ofSignature ⟨[], none⟩ .interface),
      .emit (.jump (.label "gone"))]

/-- All three export the variable `count` and the routine `step`. -/
theorem exportedNames_tally : ∀ unit ∈ [tally, recount, lostTally],
    unit.exportedNames .var = ["count"] ∧ unit.exportedNames .routine = ["step"] := by
  simp only [List.forall_mem_cons, List.not_mem_nil, false_imp_iff, implies_true, and_true]
  refine ⟨⟨?_, ?_⟩, ⟨?_, ?_⟩, ⟨?_, ?_⟩⟩ <;> cbv

theorem sameInterface_tally {unit : ObjectUnit} (isVariant : unit ∈ [recount, lostTally]) :
    SameInterface tally unit := by
  have tallyNames := exportedNames_tally tally List.mem_cons_self
  have unitNames := exportedNames_tally unit (List.mem_cons_of_mem _ isVariant)
  have heading : tally.heading = unit.heading := by
    simp only [List.mem_cons, List.not_mem_nil, or_false] at isVariant
    rcases isVariant with rfl | rfl <;> cbv
  refine ⟨kind_eq_of_heading heading, name_eq_of_heading heading,
    usedNames_eq_of_heading heading, fun kind name => ?_⟩
  cases kind with
  | var => rw [tallyNames.1, unitNames.1]
  | routine => rw [tallyNames.2, unitNames.2]

theorem link_recount : ∃ image, link [recount] tallyProgram .standard = .ok image :=
  exists_ok_of_isOk (by cbv)

theorem link_lostTally : link [lostTally] tallyProgram .standard
    = .error (.refused (.undefinedLabel "Tally" "gone")) := by cbv

end Recount

/-- One unit with the interface of `tally` links, and one is to blame for the failure. -/
theorem replace_same_interface_tally :
    ∃ first second, link [tally] tallyProgram .standard = .ok first
      ∧ link [recount] tallyProgram .standard = .ok second
      ∧ BindsAlike [tally] [recount] first second tallyProgram
      ∧ ∃ error, link [lostTally] tallyProgram .standard = .error (.refused error)
        ∧ (error.raisedFor? = some "Tally" ∨ error.isSpaceOverflow = true) := by
  have built : ∀ unit ∈ [recount, lostTally], ∀ supplied ∈ [] ++ unit :: [], supplied.IsBuilt := by
    simp only [List.forall_mem_cons, List.not_mem_nil, false_imp_iff, implies_true, and_true,
      List.nil_append]
    exact ⟨⟨_, _, _, _, rfl⟩, ⟨_, _, _, _, rfl⟩⟩
  obtain ⟨first, linked⟩ := link_tally
  obtain ⟨second, otherLinked⟩ := link_recount
  have isPlaced : tallyProgram.name ∈ first.units.names := by
    have names : (link [tally] tallyProgram .standard).toOption.map (·.units.names)
        = some ["Tally", "Main"] := by cbv
    rw [linked] at names
    have namesEq : first.units.names = ["Tally", "Main"] := Option.some.inj names
    rw [namesEq]
    decide
  have isRecount : recount ∈ [recount, lostTally] := List.mem_cons_self
  have isLost : lostTally ∈ [recount, lostTally] := List.mem_cons_of_mem _ List.mem_cons_self
  obtain ⟨alike, _⟩ :=
    replace_same_interface (sameInterface_tally isRecount) (built recount isRecount) linked
  obtain ⟨_, blames⟩ :=
    replace_same_interface (sameInterface_tally isLost) (built lostTally isLost) linked
  refine ⟨first, second, linked, otherLinked,
    alike second otherLinked tallyProgram List.mem_cons_self isPlaced, _, link_lostTally, ?_⟩
  rcases blames _ link_lostTally with ⟨error, same, blamed⟩ | ⟨⟨fault, isFault⟩, _⟩
  · cases same
    exact blamed
  · cases isFault

section FarSlot

/-- A program that declares its only variable with the third slot from the last. -/
def farSlotProgram : ObjectUnit :=
  { ObjectUnit.empty "Main" .program none with
    uses := .ofList [("Tally", none)]
    vars := .ofList [("mark", ⟨0xFFFFFFFFFFFFFFFD, .implementation⟩)] }

/-- The program can be read from a file. -/
theorem decode_farSlotProgram :
    ObjectUnit.decode farSlotProgram.encode = .ok farSlotProgram := by
  have read : ObjectUnit.decode (farSlotProgram.encode ++ []) = .ok farSlotProgram :=
    decode_unit (by decide +kernel) []
  rwa [List.append_nil] at read

end FarSlot

/-- The private variables of the new unit move the slot of the program past the last word,
which is neither an error for the new unit nor want of room. -/
theorem replaced_unit_moves_far_slot :
    (tally.kind = .unit ∧ SameInterface tally recount ∧ tally.IsBuilt ∧ recount.IsBuilt)
      ∧ ObjectUnit.decode farSlotProgram.encode = .ok farSlotProgram
      ∧ (∃ image, link [tally] farSlotProgram .standard = .ok image)
      ∧ link [recount] farSlotProgram .standard = .error (.fault .overflow) := by
  refine ⟨⟨by cbv, sameInterface_tally List.mem_cons_self, ⟨_, _, _, _, rfl⟩, ⟨_, _, _, _, rfl⟩⟩,
    decode_farSlotProgram, exists_ok_of_isOk ?_, ?_⟩
  · cbv
  · cbv

end Link

end UnitLinker
