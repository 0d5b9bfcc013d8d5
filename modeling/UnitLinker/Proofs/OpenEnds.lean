import Mathlib
import UnitLinker.Proofs.FirstErrors
import UnitLinker.Proofs.OrderRefusals
import UnitLinker.Proofs.UnitTables

/-!
# Open ends

A label and a routine that is begun are put at the end of a stream. In the initialization and
the finalization the end is a place to go to, as a return is put there. In the body it
is not, until something is appended. So whether a place of a built unit is refused depends
only on what was appended to its body after the place was taken.
-/

namespace UnitLinker

namespace ObjectUnit

variable {unit next : ObjectUnit} {stream : Section} {edit : Edit} {edits : List Edit}

/-- An operation that appends an instruction to a stream. -/
inductive Appends (unit : ObjectUnit) (stream : Section) : Edit → Prop where
  | emit {instruction : Instruction} (isActive : unit.active = stream) :
      Appends unit stream (.emit instruction)
  /-- The active section does not matter. -/
  | emitTo {instruction : Instruction} : Appends unit stream (.emitTo stream instruction)

/-- One of several operations appends an instruction to a stream. -/
def Emits (unit : ObjectUnit) (stream : Section) (edits : List Edit) : Prop :=
  ∃ before edit after, edits = before ++ edit :: after
    ∧ (unit.attemptAll before).Appends stream edit

/-- An operation that appends makes the stream longer by one. -/
theorem length_of_appends (appends : unit.Appends stream edit) :
    ((unit.attempt edit).code.stream stream).length = (unit.code.stream stream).length + 1 := by
  cases appends with
  | emit isActive =>
    subst isActive
    simp only [attempt, apply, emit, emitTo, Code.stream_push, if_true, List.length_append,
      List.length_singleton]
  | emitTo =>
    simp only [attempt, apply, emitTo, Code.stream_push, if_true, List.length_append,
      List.length_singleton]

/-- All other operations leave the stream as it is. -/
theorem stream_of_not_appends (silent : ¬ unit.Appends stream edit) :
    (unit.attempt edit).code.stream stream = unit.code.stream stream := by
  rcases unit.attempt_cases edit with same | changed
  · rw [same]
  · generalize unit.attempt edit = next at changed
    cases changed with
    | emit =>
      have elsewhere : stream ≠ unit.active := fun isActive => silent (.emit isActive.symm)
      simp only [Code.stream_push, elsewhere, if_false]
    | @emitTo other _ =>
      have elsewhere : stream ≠ other := by
        rintro rfl
        exact silent .emitTo
      simp only [Code.stream_push, elsewhere, if_false]
    | _ => rfl

theorem Emits.later (emits : (unit.attempt edit).Emits stream edits) :
    unit.Emits stream (edit :: edits) := by
  rcases emits with ⟨before, appending, after, rfl, appends⟩
  exact ⟨edit :: before, appending, after, rfl, appends⟩

/-- Without an operation that appends, the stream stays as it is. -/
theorem stream_of_not_emits (silent : ¬ unit.Emits stream edits) :
    (unit.attemptAll edits).code.stream stream = unit.code.stream stream := by
  induction edits generalizing unit with
  | nil => rfl
  | cons edit rest ih =>
    rw [attemptAll_cons, ih fun emits => silent emits.later]
    exact stream_of_not_appends fun appends => silent ⟨[], edit, rest, rfl, appends⟩

/-- After an operation that appends, the stream is longer than before. -/
theorem length_lt_of_emits (emits : unit.Emits stream edits) :
    (unit.code.stream stream).length < ((unit.attemptAll edits).code.stream stream).length := by
  rcases emits with ⟨before, edit, after, rfl, appends⟩
  rw [attemptAll_append, attemptAll_cons]
  calc (unit.code.stream stream).length
      ≤ ((unit.attemptAll before).code.stream stream).length :=
        ((unit.extends_attemptAll before).code stream).length_le
    _ < (((unit.attemptAll before).attempt edit).code.stream stream).length := by
        rw [length_of_appends appends]
        exact Nat.lt_succ_self _
    _ ≤ _ := ((extends_attemptAll _ after).code stream).length_le

/-- A stream gets longer exactly if something is appended to it. -/
theorem emits_iff : unit.Emits stream edits
    ↔ (unit.code.stream stream).length
      < ((unit.attemptAll edits).code.stream stream).length := by
  refine ⟨length_lt_of_emits, fun longer => ?_⟩
  by_contra silent
  rw [stream_of_not_emits silent] at longer
  exact Nat.lt_irrefl _ longer

/-! ## Places that were taken -/

/-- A unit is what more operations make of one in which a label has just been defined. -/
structure DefinesLabel (unit : ObjectUnit) (label : String) (position : CodeOffset)
    (defined : ObjectUnit) (more : List Edit) : Prop where
  accepted : ∃ before : ObjectUnit, before.defineLabel label = (.ok position, defined)
  completed : unit = defined.attemptAll more

/-- A unit is what more operations make of one in which a routine has just been begun. -/
structure BeginsRoutine (unit : ObjectUnit) (name : String) (begun : ObjectUnit)
    (more : List Edit) : Prop where
  accepted : ∃ (before : ObjectUnit) (routine declared : Routine),
    before.beginRoutine name routine = (.ok declared, begun)
  completed : unit = begun.attemptAll more

variable {label name : String} {position : CodeOffset} {defined begun : ObjectUnit}
  {more : List Edit}

/-- The label is where its stream ended. -/
theorem DefinesLabel.position_eq (defines : unit.DefinesLabel label position defined more) :
    unit.labels.get? label = some position
      ∧ position.offset = UInt64.ofNat (defined.code.stream position.stream).length := by
  rcases defines with ⟨⟨before, accepted⟩, rfl⟩
  have grown := defined.extends_attemptAll more
  unfold defineLabel at accepted
  split at accepted
  · cases accepted
  · cases accepted
    exact ⟨grown.labels.found label _ (Table.get?_insert_self _ _ _), rfl⟩

/-- The routine starts where the body ended. -/
theorem BeginsRoutine.entry_eq (begins : unit.BeginsRoutine name begun more) :
    ∃ routine, unit.routines.get? name = some routine
      ∧ routine.entry = UInt64.ofNat begun.code.body.length := by
  rcases begins with ⟨⟨before, routine, declared, accepted⟩, rfl⟩
  have grown := begun.extends_attemptAll more
  unfold beginRoutine declareRoutine at accepted
  split at accepted
  · cases accepted
  · cases accepted
    exact ⟨_, grown.routines.found name _ (Table.get?_insert_self _ _ _), rfl⟩

end ObjectUnit

namespace Link

open ObjectUnit

variable {units : List ObjectUnit} {program : ObjectUnit} {options : Options}

/-- A position that was the end of its stream is a place to go to, if it is not in the body or
if something was appended since. -/
theorem isInside_iff {unit defined : ObjectUnit} {label : String} {position : CodeOffset}
    {more : List Edit} (defines : unit.DefinesLabel label position defined more)
    (fits : unit.code.body.length < 2 ^ 64) :
    IsInside unit position.stream position.offset.toNat
      ↔ (position.stream = .body → defined.Emits .body more) := by
  rcases position with ⟨stream, offset⟩
  have offsetEq : offset = UInt64.ofNat (defined.code.stream stream).length :=
    defines.position_eq.2
  have noShorter : (defined.code.stream stream).length ≤ (unit.code.stream stream).length := by
    rw [defines.completed]
    exact ((defined.extends_attemptAll more).code stream).length_le
  have offsetLe : offset.toNat ≤ (unit.code.stream stream).length := by
    rw [offsetEq]
    exact Nat.le_trans (toNat_ofNat_le _) noShorter
  cases stream with
  | body =>
    -- The offset is the length itself, not only its last word, as the whole body fits.
    have offsetNat : offset.toNat = defined.code.body.length := by
      rw [offsetEq]
      exact UInt64.toNat_ofNat_of_lt' (Nat.lt_of_le_of_lt noShorter fits)
    rw [emits_iff, ← defines.completed]
    simp only [IsInside, offsetNat, forall_true_left, Code.stream]
  | init => exact iff_of_true offsetLe fun inBody => by cases inBody
  | final => exact iff_of_true offsetLe fun inBody => by cases inBody

/-- The body of a placed unit can be counted by words. -/
theorem Turn.body_fits (turn : Turn units program options) :
    turn.unit.code.body.length < 2 ^ 64 := by
  have fits := turn.code_fits
  rw [Layout.codeLength] at fits
  omega

section Labels

variable {label : String} {position : CodeOffset} {defined : ObjectUnit} {more : List Edit}

/-- At its turn a label is an address, or the open end of the body. -/
theorem Turn.relocateTarget_cases (turn : Turn units program options)
    (defines : turn.unit.DefinesLabel label position defined more) (stream : Section) :
    ((position.stream = .body → defined.Emits .body more)
        ∧ ∃ address, turn.scope.relocateTarget stream (.label label) = .ok (.address address))
      ∨ (position.stream = .body ∧ ¬ defined.Emits .body more
        ∧ turn.scope.relocateTarget stream (.label label) = .error
          (.invalidOffset turn.unit.name .body position.offset turn.unit.code.body.length)) := by
  have found := defines.position_eq.1
  have inside_iff := isInside_iff defines turn.body_fits
  have targetEq : turn.scope.relocateTarget stream (.label label)
      = (turn.scope.addressOf position).map .address := by
    have scopeFound : turn.scope.unit.labels.get? label = some position := found
    simp only [Scope.relocateTarget, scopeFound]
    cases turn.scope.addressOf position <;> rfl
  cases addressed : turn.scope.addressOf position with
  | ok address =>
    left
    rw [targetEq, addressed]
    exact ⟨inside_iff.1 (Scope.addressOf_eq_ok.1 addressed).1, address, rfl⟩
  | error error =>
    right
    rcases Scope.addressOf_eq_error addressed with ⟨outside, rfl⟩
    have openEnd := mt inside_iff.2 outside
    rw [Classical.not_imp] at openEnd
    refine ⟨openEnd.1, openEnd.2, ?_⟩
    rw [targetEq, addressed, openEnd.1]
    rfl

end Labels

/-- An entry is reported if it is not in the body. -/
theorem FirstError.exists_routine {earlier : List ObjectUnit} {unit : ObjectUnit}
    {owner name : String} {entry : UInt64} {length : Nat} {span : Option Span}
    (first : FirstError units options earlier unit (.invalidEntry owner name entry length span)) :
    ∃ routine, unit.routines.get? name = some routine
      ∧ unit.code.body.length ≤ routine.entry.toNat := by
  cases first with
  | @entry _ _ _ routine _ split _ outside =>
    refine ⟨routine, Table.get?_eq_some_iff.2 ?_, outside⟩
    rw [split]
    exact List.mem_append_right _ List.mem_cons_self
  | operand _ _ _ _ _ _ offends => cases offends

/-- An entry is refused for a routine of the unit that starts past its body. -/
theorem exists_routine_of_link_error {unit : ObjectUnit} (isSupplied : unit ∈ program :: units)
    {name : String} {entry : UInt64} {length : Nat} {span : Option Span}
    (failed : link units program options
      = .error (.refused (.invalidEntry unit.name name entry length span))) :
    ∃ routine, unit.routines.get? name = some routine
      ∧ unit.code.body.length ≤ routine.entry.toNat := by
  rcases exists_stop_of_link failed rfl with ⟨stop, refusal⟩
  have sameName : stop.unit.name = unit.name := (Option.some.inj refusal.raisedFor).symm
  have sameUnit : stop.unit = unit :=
    eq_of_name_eq_of_sequence stop.sequenced (List.mem_cons.2 stop.unit_mem.symm) isSupplied
      sameName
  rw [← sameUnit]
  exact (stop.firstError refusal).exists_routine

/-- Of the places that operations took at the ends of streams, only those at the open end of the
body are refused: labels of the initialization and the finalization never, and labels of the
body and routines that were begun only if nothing was appended to the body since. -/
theorem only_open_ends_refused (units : List ObjectUnit) (program : ObjectUnit)
    (options : Options) :
    (∀ (turn : Turn units program options) (label : String) (position : CodeOffset)
        (defined : ObjectUnit) (more : List Edit) (stream : Section),
      turn.unit.DefinesLabel label position defined more →
        (position.stream ≠ .body →
          ∃ address, turn.scope.relocateTarget stream (.label label) = .ok (.address address))
        ∧ (position.stream = .body →
          ((∃ error, turn.scope.relocateTarget stream (.label label) = .error error)
            ↔ ¬ defined.Emits .body more)
          ∧ ∀ error, turn.scope.relocateTarget stream (.label label) = .error error →
            error = .invalidOffset turn.unit.name .body position.offset
              turn.unit.code.body.length))
    ∧ ∀ unit ∈ program :: units, ∀ (name : String) (begun : ObjectUnit) (more : List Edit)
        (entry : UInt64) (length : Nat) (span : Option Span),
      unit.BeginsRoutine name begun more →
        link units program options
          = .error (.refused (.invalidEntry unit.name name entry length span)) →
          ¬ begun.Emits .body more := by
  constructor
  · intro turn label position defined more stream defines
    rcases turn.relocateTarget_cases defines stream with
      ⟨reachable, address, relocated⟩ | ⟨inBody, openEnd, refused⟩
    · refine ⟨fun _ => ⟨address, relocated⟩, fun inBody => ⟨?_, ?_⟩⟩
      · simp only [relocated, reduceCtorEq, exists_false, false_iff, not_not]
        exact reachable inBody
      · intro error failed
        cases relocated.symm.trans failed
    · refine ⟨fun elsewhere => absurd inBody elsewhere, fun _ => ⟨?_, ?_⟩⟩
      · exact iff_of_true ⟨_, refused⟩ openEnd
      · intro error failed
        exact Except.error.inj (failed.symm.trans refused)
  · intro unit isSupplied name begun more entry length span begins failed emits
    rcases exists_routine_of_link_error isSupplied failed with ⟨routine, found, outside⟩
    rcases begins.entry_eq with ⟨declared, isDeclared, entryEq⟩
    cases found.symm.trans isDeclared
    have longer := length_lt_of_emits emits
    rw [← begins.completed] at longer
    have noLater := toNat_ofNat_le begun.code.body.length
    rw [← entryEq] at noLater
    exact absurd (Nat.lt_of_le_of_lt noLater longer) (Nat.not_lt.2 outside)

section Spout

/-- Operations that define a label in the body, one at its end, and one at the end of the
initialization. -/
def spoutEdits : List Edit :=
  [.emit .nop, .label "shut", .emitTo .body .ret, .label "open", .select .init, .label "ready"]

/-- A unit with an open end that nothing goes to. -/
def spout : ObjectUnit := (ObjectUnit.empty "Spout" .unit none).attemptAll spoutEdits

/-- The same unit with a routine at the open end, and more of the initialization after it. -/
def openSpout : ObjectUnit :=
  spout.attemptAll [.begin "drip" (.ofSignature ⟨[], none⟩ .interface), .emit .nop]

/-- A program that uses the unit. -/
def spoutProgram : ObjectUnit :=
  (ObjectUnit.empty "Main" .program none).attemptAll [.use "Spout" none]

theorem exists_turn_spout :
    ∃ turn : Turn [spout] spoutProgram .standard, turn.unit = spout := by
  have linked : (link [spout] spoutProgram .standard).isOk = true := by cbv
  rcases exists_ok_of_isOk linked with ⟨image, linked⟩
  have sequenced : sequence [spout] spoutProgram .standard = .ok [spout, spoutProgram] := by cbv
  rcases Turn.exists_of_mem linked sequenced List.mem_cons_self with ⟨turn, unitEq, _⟩
  exact ⟨turn, unitEq⟩

/-- What the first operations make of the unit. -/
def spoutAfter (count : Nat) : ObjectUnit :=
  (ObjectUnit.empty "Spout" .unit none).attemptAll (spoutEdits.take count)

theorem spout_eq (count : Nat) : spout = (spoutAfter count).attemptAll (spoutEdits.drop count) := by
  rw [spoutAfter, ← attemptAll_append, List.take_append_drop, spout]

end Spout

/-- A label at the start of a block, one that is passed by, and one at an open end. -/
theorem only_open_ends_refused_spout :
    (∃ turn : Turn [spout] spoutProgram .standard, turn.unit = spout
      ∧ (∃ address, turn.scope.relocateTarget .final (.label "ready") = .ok (.address address))
      ∧ (¬ ∃ error, turn.scope.relocateTarget .init (.label "shut") = .error error)
      ∧ ∃ error, turn.scope.relocateTarget .init (.label "open") = .error error)
    ∧ link [openSpout] spoutProgram .standard
        = .error (.refused (.invalidEntry "Spout" "drip" 2 2 none))
    ∧ ∃ begun, openSpout.BeginsRoutine "drip" begun [.emit .nop]
      ∧ ¬ begun.Emits .body [.emit .nop] := by
  have ready : spout.DefinesLabel "ready" ⟨.init, 0⟩ (spoutAfter 6) (spoutEdits.drop 6) :=
    ⟨⟨spoutAfter 5, by decide +kernel⟩, spout_eq 6⟩
  have shut : spout.DefinesLabel "shut" ⟨.body, 1⟩ (spoutAfter 2) (spoutEdits.drop 2) :=
    ⟨⟨spoutAfter 1, by decide +kernel⟩, spout_eq 2⟩
  have shutEmits : (spoutAfter 2).Emits .body (spoutEdits.drop 2) :=
    ⟨[], .emitTo .body .ret, spoutEdits.drop 3, rfl, .emitTo⟩
  have isOpen : spout.DefinesLabel "open" ⟨.body, 2⟩ (spoutAfter 4) (spoutEdits.drop 4) :=
    ⟨⟨spoutAfter 3, by decide +kernel⟩, spout_eq 4⟩
  have openSilent : ¬ (spoutAfter 4).Emits .body (spoutEdits.drop 4) := by
    rw [emits_iff]
    decide +kernel
  have failed : link [openSpout] spoutProgram .standard
      = .error (.refused (.invalidEntry openSpout.name "drip" 2 2 none)) := by cbv
  have accepted : (spout.beginRoutine "drip" (.ofSignature ⟨[], none⟩ .interface)).1.isOk = true := by
    decide +kernel
  rcases exists_ok_of_isOk accepted with ⟨declared, accepted⟩
  have begins : openSpout.BeginsRoutine "drip" _ [.emit .nop] :=
    ⟨⟨spout, _, declared, Prod.ext accepted rfl⟩, rfl⟩
  rcases exists_turn_spout with ⟨turn, unitEq⟩
  have labels := (only_open_ends_refused [spout] spoutProgram .standard).1 turn
  rw [unitEq] at labels
  refine ⟨⟨turn, unitEq, ?_, ?_, ?_⟩, failed, _, begins, ?_⟩
  · exact (labels _ _ _ _ .final ready).1 (by decide)
  · rw [((labels _ _ _ _ .init shut).2 rfl).1, not_not]
    exact shutEmits
  · exact ((labels _ _ _ _ .init isOpen).2 rfl).1.2 openSilent
  · exact (only_open_ends_refused [openSpout] spoutProgram .standard).2 openSpout
      (List.mem_cons_of_mem _ List.mem_cons_self) "drip" _ _ 2 2 none begins failed

end Link

end UnitLinker
