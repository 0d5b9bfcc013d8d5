import UnitLinker.ObjectUnit.Builder
import UnitLinker.Proofs.Results
import UnitLinker.Proofs.Tables

/-!
# Building operations

What one operation can do to a unit. `Refuses` and `Changes` list all cases, each with
what is known of the tables when it happens. Everything that is said of sequences of
operations rests on these lists.
-/

namespace UnitLinker

/-- The names of declared types: of enumerations, then of arrays, then of records. -/
def TypeTables.names (types : TypeTables) : List String :=
  types.enums.names ++ types.arrays.names ++ types.records.names

theorem TypeTables.contains_iff_mem_names {types : TypeTables} {name : String} :
    types.contains name = true ↔ name ∈ types.names := by
  simp only [contains, names, Bool.or_eq_true, List.mem_append, Table.contains_iff_mem_names]

namespace ObjectUnit

/-- The tables with one more type. -/
def TypeDeclaration.addTo (declaration : TypeDeclaration) (types : TypeTables) (name : String) :
    TypeTables :=
  match declaration with
  | .enum type => ⟨types.enums.insert name type, types.arrays, types.records⟩
  | .array type => ⟨types.enums, types.arrays.insert name type, types.records⟩
  | .record type => ⟨types.enums, types.arrays, types.records.insert name type⟩

/-- An operation that is refused, because it declares a name for the second time. -/
inductive Refuses (unit : ObjectUnit) : Edit → DeclarationError → Prop where
  | label {name : String} {position : CodeOffset}
      (defined : unit.labels.get? name = some position) :
      Refuses unit (.label name) (.duplicateLabel unit.name name position)
  | begin {name : String} {routine : Routine} (declared : name ∈ unit.routines.names) :
      Refuses unit (.begin name routine) (.duplicateRoutine unit.name name)
  | declare {name : String} {routine : Routine} (declared : name ∈ unit.routines.names) :
      Refuses unit (.declare name routine) (.duplicateRoutine unit.name name)
  | type {name : String} {declaration : TypeDeclaration} (declared : name ∈ unit.types.names) :
      Refuses unit (.type name declaration) (.duplicateType unit.name name)

/-- What an operation that is not refused makes of a unit. -/
inductive Changes (unit : ObjectUnit) : Edit → ObjectUnit → Prop where
  | use {name : String} {span : Option Span} (new : name ∉ unit.usedNames) :
      Changes unit (.use name span) { unit with uses := unit.uses.insert name span }
  | useAgain {name : String} {span : Option Span} (listed : name ∈ unit.usedNames) :
      Changes unit (.use name span) unit
  | var {name : String} {visibility : Visibility} (new : name ∉ unit.vars.names) :
      Changes unit (.var name visibility) { unit with
        vars := unit.vars.insert name ⟨UInt64.ofNat unit.vars.size, visibility⟩ }
  | varAgain {name : String} {existing : Variable}
      (declared : unit.vars.get? name = some existing) :
      Changes unit (.var name .implementation) unit
  /-- An interface declaration makes the variable visible where it stands. -/
  | exportVar {name : String} {existing : Variable}
      (declared : unit.vars.get? name = some existing) :
      Changes unit (.var name .interface) { unit with
        vars := unit.vars.adjust name fun entry => ⟨entry.slot, .interface⟩ }
  | select {stream : Section} : Changes unit (.select stream) { unit with active := stream }
  | emit {instruction : Instruction} :
      Changes unit (.emit instruction) { unit with code := unit.code.push unit.active instruction }
  | emitTo {stream : Section} {instruction : Instruction} :
      Changes unit (.emitTo stream instruction)
        { unit with code := unit.code.push stream instruction }
  | label {name : String} (new : name ∉ unit.labels.names) :
      Changes unit (.label name) { unit with
        labels := unit.labels.insert name ⟨unit.active, UInt64.ofNat unit.currentOffset⟩ }
  | begin {name : String} {routine : Routine} (new : name ∉ unit.routines.names) :
      Changes unit (.begin name routine) { unit with
        routines := unit.routines.insert name
          { routine with entry := UInt64.ofNat unit.code.body.length } }
  | declare {name : String} {routine : Routine} (new : name ∉ unit.routines.names) :
      Changes unit (.declare name routine)
        { unit with routines := unit.routines.insert name routine }
  | type {name : String} {declaration : TypeDeclaration} (new : name ∉ unit.types.names) :
      Changes unit (.type name declaration)
        { unit with types := declaration.addTo unit.types name }

variable {unit next : ObjectUnit} {edit : Edit} {error : DeclarationError}

section Operations

variable {name : String} {routine : Routine}

/-- A label that is defined is not defined again, and the unit stays as it is. -/
theorem defineLabel_of_defined {position : CodeOffset}
    (defined : unit.labels.get? name = some position) :
    unit.defineLabel name = (.error (.duplicateLabel unit.name name position), unit) := by
  rw [defineLabel, defined]

/-- A new label is defined at the end of the active section. -/
theorem defineLabel_of_new (new : name ∉ unit.labels.names) :
    unit.defineLabel name = (.ok ⟨unit.active, UInt64.ofNat unit.currentOffset⟩, { unit with
      labels := unit.labels.insert name ⟨unit.active, UInt64.ofNat unit.currentOffset⟩ }) := by
  rw [defineLabel, Table.get?_eq_none_iff.2 new]

/-- A routine that is declared is not declared again, and the unit stays as it is. -/
theorem declareRoutine_of_declared (declared : name ∈ unit.routines.names) :
    unit.declareRoutine name routine = (.error (.duplicateRoutine unit.name name), unit) :=
  if_pos (Table.contains_iff_mem_names.2 declared)

/-- A new routine is declared as it is given. -/
theorem declareRoutine_of_new (new : name ∉ unit.routines.names) :
    unit.declareRoutine name routine
      = (.ok routine, { unit with routines := unit.routines.insert name routine }) := by
  rw [declareRoutine, Table.contains_eq_false_iff.2 new]
  rfl

/-- A type that is declared is not declared again, and the unit stays as it is. -/
theorem declareType_of_declared {declaration : TypeDeclaration}
    (declared : name ∈ unit.types.names) :
    unit.declareType name declaration = (.error (.duplicateType unit.name name), unit) :=
  if_pos (TypeTables.contains_iff_mem_names.2 declared)

/-- A new type is added to the table of its form. -/
theorem declareType_of_new {declaration : TypeDeclaration} (new : name ∉ unit.types.names) :
    unit.declareType name declaration
      = (.ok (), { unit with types := declaration.addTo unit.types name }) := by
  rw [← TypeTables.contains_iff_mem_names] at new
  exact if_neg new

end Operations

/-- An operation is refused and leaves the unit as it is, or it is accepted and changes the
unit in one of the listed ways. -/
theorem apply_cases (unit : ObjectUnit) (edit : Edit) :
    (∃ error, unit.apply edit = (.error error, unit) ∧ unit.Refuses edit error)
      ∨ ∃ next, unit.apply edit = (.ok (), next) ∧ unit.Changes edit next := by
  cases edit with
  | use name span =>
    right
    simp only [apply, addUse]
    split
    · rename_i listed
      exact ⟨unit, rfl, .useAgain (Table.contains_iff_mem_names.1 listed)⟩
    · rename_i new
      exact ⟨_, rfl, .use (Table.contains_eq_false_iff.1 (Bool.not_eq_true _ ▸ new))⟩
  | var name visibility =>
    right
    refine ⟨_, rfl, ?_⟩
    simp only [declareVariable]
    cases found : unit.vars.get? name with
    | none => exact .var (Table.get?_eq_none_iff.1 found)
    | some existing =>
      cases visibility with
      | implementation => exact .varAgain found
      | interface => exact .exportVar found
  | select stream => exact .inr ⟨_, rfl, .select⟩
  | emit instruction => exact .inr ⟨_, rfl, .emit⟩
  | emitTo stream instruction => exact .inr ⟨_, rfl, .emitTo⟩
  | label name =>
    simp only [apply]
    cases found : unit.labels.get? name with
    | none =>
      have new := Table.get?_eq_none_iff.1 found
      rw [defineLabel_of_new new]
      exact .inr ⟨_, rfl, .label new⟩
    | some position =>
      rw [defineLabel_of_defined found]
      exact .inl ⟨_, rfl, .label found⟩
  | begin name routine =>
    simp only [apply, beginRoutine]
    by_cases declared : name ∈ unit.routines.names
    · rw [declareRoutine_of_declared declared]
      exact .inl ⟨_, rfl, .begin declared⟩
    · rw [declareRoutine_of_new declared]
      exact .inr ⟨_, rfl, .begin declared⟩
  | declare name routine =>
    simp only [apply]
    by_cases declared : name ∈ unit.routines.names
    · rw [declareRoutine_of_declared declared]
      exact .inl ⟨_, rfl, .declare declared⟩
    · rw [declareRoutine_of_new declared]
      exact .inr ⟨_, rfl, .declare declared⟩
  | type name declaration =>
    simp only [apply]
    by_cases declared : name ∈ unit.types.names
    · rw [declareType_of_declared declared]
      exact .inl ⟨_, rfl, .type declared⟩
    · rw [declareType_of_new declared]
      exact .inr ⟨_, rfl, .type declared⟩

/-- A second declaration of a label, a routine or a type is refused and changes nothing. -/
theorem apply_of_refuses (refused : unit.Refuses edit error) :
    unit.apply edit = (.error error, unit) := by
  cases refused with
  | label defined =>
    rw [apply, defineLabel_of_defined defined]
    rfl
  | begin declared =>
    rw [apply, beginRoutine, declareRoutine_of_declared declared]
    rfl
  | declare declared =>
    rw [apply, declareRoutine_of_declared declared]
    rfl
  | type declared => exact declareType_of_declared declared

/-- Exactly the second declarations of labels, routines and types are refused. -/
theorem apply_refused_iff : (unit.apply edit).1 = .error error ↔ unit.Refuses edit error := by
  constructor
  · intro failed
    rcases unit.apply_cases edit with ⟨other, refused, refuses⟩ | ⟨next, applied, _⟩
    · rw [refused] at failed
      cases failed
      exact refuses
    · rw [applied] at failed
      cases failed
  · intro refuses
    rw [apply_of_refuses refuses]

/-- An accepted operation changes the unit in one of the listed ways. -/
theorem changes_of_apply (applied : unit.apply edit = (.ok (), next)) :
    unit.Changes edit next := by
  rcases unit.apply_cases edit with ⟨error, refused, _⟩ | ⟨other, changed, changes⟩
  · rw [refused] at applied
    cases applied
  · rw [changed] at applied
    cases applied
    exact changes

theorem attempt_of_apply {answer : Except DeclarationError Unit}
    (applied : unit.apply edit = (answer, next)) : unit.attempt edit = next := by
  rw [attempt, applied]

/-- An operation leaves a unit as it is, or changes it in one of the listed ways. -/
theorem attempt_cases (unit : ObjectUnit) (edit : Edit) :
    unit.attempt edit = unit ∨ unit.Changes edit (unit.attempt edit) := by
  rcases unit.apply_cases edit with ⟨error, refused, _⟩ | ⟨next, applied, changes⟩
  · exact .inl (attempt_of_apply refused)
  · rw [attempt_of_apply applied]
    exact .inr changes

/-- Operations are made in one go or in two. -/
theorem attemptAll_append (unit : ObjectUnit) (edits more : List Edit) :
    unit.attemptAll (edits ++ more) = (unit.attemptAll edits).attemptAll more :=
  List.foldl_append

theorem attemptAll_cons (unit : ObjectUnit) (edit : Edit) (rest : List Edit) :
    unit.attemptAll (edit :: rest) = (unit.attempt edit).attemptAll rest := rfl

end ObjectUnit

end UnitLinker
