import Mathlib
import UnitLinker.Proofs.Edits

/-!
# Units only grow

Building operations add to a unit and take nothing away: whatever is declared stays
declared in the same way, and every table and every stream goes on from where it was. One
operation is looked at for each way of changing a unit, and what one operation keeps is
kept by all that follow.
-/

namespace UnitLinker

namespace Table

variable {α : Type} {table later last : Table α}

/-- A table that goes on from another one: the same entries come first, so that look-ups
find what they found. -/
structure Grows (table later : Table α) : Prop where
  entries : table.entries <+: later.entries
  found : ∀ name value, table.get? name = some value → later.get? name = some value

/-- Look-ups in a table that goes on from another one find what they found. -/
theorem Grows.of_entries (entries : table.entries <+: later.entries) : table.Grows later where
  entries := entries
  found := by
    intro name value found
    rw [get?_eq_some_iff] at found ⊢
    exact entries.subset found

theorem Grows.refl (table : Table α) : table.Grows table := .of_entries (List.prefix_refl _)

theorem Grows.trans (first : table.Grows later) (second : later.Grows last) : table.Grows last :=
  .of_entries (first.entries.trans second.entries)

/-- A new name makes a table grow. -/
theorem Grows.insert {name : String} (new : name ∉ table.names) (value : α) :
    table.Grows (table.insert name value) := by
  apply Grows.of_entries
  rw [entries_insert_of_new new]
  exact List.prefix_append _ _

/-- A change in place keeps all names in their order. -/
theorem names_adjust (table : Table α) (name : String) (change : α → α) :
    (table.adjust name change).names = table.names := by
  simp only [names, adjust, List.map_map]
  apply List.map_congr_left
  intro entry _
  simp only [Function.comp_apply]
  split <;> rfl

/-- A change in place is seen under its name and under no other. -/
theorem get?_adjust (table : Table α) (name : String) (change : α → α) (other : String) :
    (table.adjust name change).get? other
      = (table.get? other).map fun value => if other = name then change value else value := by
  cases found : table.get? other with
  | none =>
    rw [get?_eq_none_iff] at found
    rw [Option.map_none, get?_eq_none_iff, names_adjust]
    exact found
  | some value =>
    rw [get?_eq_some_iff] at found
    rw [Option.map_some, get?_eq_some_iff]
    refine List.mem_map.2 ⟨(other, value), found, ?_⟩
    split <;> rfl

end Table

/-- An instruction goes to the end of its own stream. -/
theorem Code.stream_push (code : Code) (stream other : Section) (instruction : Instruction) :
    (code.push stream instruction).stream other
      = if other = stream then code.stream other ++ [instruction] else code.stream other := by
  cases stream <;> cases other <;> rfl

/-- A variable that keeps its slot, and stays visible to other units once it is. -/
structure Variable.Keeps (before after : Variable) : Prop where
  slot : after.slot = before.slot
  visible : before.visibility = .interface → after.visibility = .interface

namespace ObjectUnit

variable {unit later last next : ObjectUnit} {edit : Edit}

/-- A unit that goes on from another one. -/
structure Extends (unit later : ObjectUnit) : Prop where
  uses : unit.uses.Grows later.uses
  varNames : unit.vars.names <+: later.vars.names
  vars : ∀ name before, unit.vars.get? name = some before →
    ∃ after, later.vars.get? name = some after ∧ before.Keeps after
  labels : unit.labels.Grows later.labels
  routines : unit.routines.Grows later.routines
  enums : unit.types.enums.Grows later.types.enums
  arrays : unit.types.arrays.Grows later.types.arrays
  records : unit.types.records.Grows later.types.records
  code : ∀ stream, unit.code.stream stream <+: later.code.stream stream

theorem Extends.refl (unit : ObjectUnit) : unit.Extends unit where
  uses := .refl _
  varNames := List.prefix_refl _
  vars := fun _ before found => ⟨before, found, rfl, id⟩
  labels := .refl _
  routines := .refl _
  enums := .refl _
  arrays := .refl _
  records := .refl _
  code := fun _ => List.prefix_refl _

/-- What goes on from a unit that goes on from another one goes on from that. -/
theorem Extends.trans (first : unit.Extends later) (second : later.Extends last) :
    unit.Extends last where
  uses := first.uses.trans second.uses
  varNames := first.varNames.trans second.varNames
  vars := by
    intro name before found
    obtain ⟨middle, middleFound, kept⟩ := first.vars name before found
    obtain ⟨after, afterFound, keptAgain⟩ := second.vars name middle middleFound
    refine ⟨after, afterFound, keptAgain.slot.trans kept.slot, fun visible => ?_⟩
    exact keptAgain.visible (kept.visible visible)
  labels := first.labels.trans second.labels
  routines := first.routines.trans second.routines
  enums := first.enums.trans second.enums
  arrays := first.arrays.trans second.arrays
  records := first.records.trans second.records
  code := fun stream => (first.code stream).trans (second.code stream)

/-- A new variable comes after all others. -/
theorem extends_insert_var {name : String} (new : name ∉ unit.vars.names) (entry : Variable) :
    unit.Extends { unit with vars := unit.vars.insert name entry } := by
  have grows := Table.Grows.insert new entry
  refine { Extends.refl unit with varNames := grows.entries.map _, vars := ?_ }
  intro other before found
  exact ⟨before, grows.found other before found, rfl, id⟩

/-- A variable that becomes visible to other units stands where it stood. -/
theorem extends_export_var (unit : ObjectUnit) (name : String) :
    unit.Extends { unit with
      vars := unit.vars.adjust name fun entry => ⟨entry.slot, .interface⟩ } := by
  refine { Extends.refl unit with varNames := ?_, vars := ?_ }
  · simp only [Table.names_adjust, List.prefix_rfl]
  · intro other before found
    simp only [Table.get?_adjust, found, Option.map_some]
    refine ⟨_, rfl, ?_, ?_⟩
    · split <;> rfl
    · intro visible
      split
      · rfl
      · exact visible

/-- A new instruction comes after all others of its stream. -/
theorem extends_push (unit : ObjectUnit) (stream : Section) (instruction : Instruction) :
    unit.Extends { unit with code := unit.code.push stream instruction } := by
  refine { Extends.refl unit with code := fun other => ?_ }
  rw [Code.stream_push]
  split
  · exact List.prefix_append _ _
  · exact List.prefix_refl _

/-- A new type comes after all others of its form. -/
theorem extends_declare_type {name : String} (new : name ∉ unit.types.names)
    (declaration : TypeDeclaration) :
    unit.Extends { unit with types := declaration.addTo unit.types name } := by
  simp only [TypeTables.names, List.mem_append, not_or] at new
  have same := Extends.refl unit
  cases declaration with
  | enum type => exact { same with enums := .insert new.1.1 type }
  | array type => exact { same with arrays := .insert new.1.2 type }
  | record type => exact { same with records := .insert new.2 type }

/-- Every way of changing a unit goes on from it. -/
theorem Changes.extends (changed : unit.Changes edit next) : unit.Extends next := by
  have same := Extends.refl unit
  cases changed with
  | use new => exact { same with uses := .insert new _ }
  | useAgain _ => exact same
  | var new => exact extends_insert_var new _
  | varAgain _ => exact same
  | exportVar _ => exact unit.extends_export_var _
  | select => exact { same with }
  | emit => exact unit.extends_push _ _
  | emitTo => exact unit.extends_push _ _
  | label new => exact { same with labels := .insert new _ }
  | begin new => exact { same with routines := .insert new _ }
  | declare new => exact { same with routines := .insert new _ }
  | type new => exact extends_declare_type new _

/-- One operation goes on from the unit, accepted or refused. -/
theorem extends_attempt (unit : ObjectUnit) (edit : Edit) : unit.Extends (unit.attempt edit) := by
  rcases unit.attempt_cases edit with same | changed
  · rw [same]
    exact .refl unit
  · exact changed.extends

/-- So does any sequence of operations. -/
theorem extends_attemptAll (unit : ObjectUnit) (edits : List Edit) :
    unit.Extends (unit.attemptAll edits) := by
  induction edits generalizing unit with
  | nil => exact .refl unit
  | cons edit rest ih => exact (unit.extends_attempt edit).trans (ih (unit.attempt edit))

/-- Whatever is built on a unit goes on from it. Operations are refused exactly if they
declare a label, a routine or a type for the second time. The unit that a refused operation
leaves behind is the one that it was given, and so is that of a second use of a unit. -/
theorem declarations_only_grow (unit : ObjectUnit) :
    (∀ edits, unit.Extends (unit.attemptAll edits))
      ∧ (∀ edit error, (unit.apply edit).1 = .error error ↔ unit.Refuses edit error)
      ∧ (∀ edit error, (unit.apply edit).1 = .error error → (unit.apply edit).2 = unit)
      ∧ ∀ name span, name ∈ unit.usedNames →
        unit.addUse name span = (false, unit) ∧ unit.apply (.use name span) = (.ok (), unit) := by
  refine ⟨unit.extends_attemptAll, fun _ _ => apply_refused_iff, ?_, ?_⟩
  · intro edit error failed
    rw [apply_of_refuses (apply_refused_iff.1 failed)]
  · intro name span listed
    have again : unit.addUse name span = (false, unit) :=
      if_pos (Table.contains_iff_mem_names.2 listed)
    exact ⟨again, by rw [apply, again]⟩

section Ledger

/-- Operations that declare something of each kind. -/
def ledgerEdits : List Edit :=
  [.use "Tally" none, .var "total" .implementation, .emit .nop,
    .begin "post" (.ofSignature ⟨[], none⟩ .interface), .emit .ret, .label "tail",
    .type "Entry" (.record ⟨[⟨"amount", "Integer"⟩]⟩)]

/-- A unit with a declaration of each kind. -/
def ledger : ObjectUnit := (empty "Ledger" .unit none).attemptAll ledgerEdits

end Ledger

/-- Operations that declare again what `ledger` has, and one that adds to it. The label is
refused in another section than that in which it is defined, and that section stays active. -/
theorem declarations_only_grow_ledger :
    ledger.Extends (ledger.attemptAll [.var "total" .interface, .label "tail", .emitTo .final .ret])
      ∧ (ledger.beginSection .final).Refuses (.label "tail")
        (.duplicateLabel "Ledger" "tail" ⟨.body, 2⟩)
      ∧ ((ledger.beginSection .final).defineLabel "tail").2 = ledger.beginSection .final
      ∧ "Tally" ∈ ledger.usedNames ∧ ledger.addUse "Tally" none = (false, ledger) := by
  obtain ⟨grows, _, _, again⟩ := declarations_only_grow ledger
  obtain ⟨_, refused_iff, kept, _⟩ := declarations_only_grow (ledger.beginSection .final)
  have refused : ((ledger.beginSection .final).apply (.label "tail")).1
      = .error (.duplicateLabel "Ledger" "tail" ⟨.body, 2⟩) := by cbv
  have listed : "Tally" ∈ ledger.usedNames := by
    have clause : ledger.usedNames = ["Tally"] := by cbv
    simp [clause]
  exact ⟨grows _, (refused_iff _ _).1 refused, kept _ _ refused, listed,
    (again "Tally" none listed).1⟩

end ObjectUnit

end UnitLinker
