import UnitLinker.Proofs.BuiltUnits
import UnitLinker.Proofs.Growth

/-!
# Consistent tables

What linking may rely on in a built unit: slots count the variables, no name is declared
twice, and positions of labels and of routines that were begun are not past the end of
their streams. Streams only grow, so a position that was the end of a stream when it was
recorded stays inside.
-/

namespace UnitLinker.ObjectUnit

variable {unit next : ObjectUnit} {edit : Edit}

/-- No label is past the end of its stream. -/
def LabelsInside (unit : ObjectUnit) : Prop :=
  ∀ name position, unit.labels.get? name = some position →
    position.offset.toNat ≤ (unit.code.stream position.stream).length

/-- What the tables of a unit promise. -/
structure Consistent (unit : ObjectUnit) : Prop where
  slots : unit.SlotsInOrder
  varNames : unit.vars.names.Nodup
  usedNames : unit.usedNames.Nodup
  labels : unit.LabelsInside
  /-- No name is declared as a type twice, whatever the forms of the types. -/
  typeNames : unit.types.names.Nodup

/-- A label is defined at the end of the active stream. -/
theorem LabelsInside.insert (inside : unit.LabelsInside) (name : String) :
    LabelsInside { unit with
      labels := unit.labels.insert name ⟨unit.active, UInt64.ofNat unit.currentOffset⟩ } := by
  intro other position found
  by_cases same : other = name
  · subst same
    rw [Table.get?_insert_self] at found
    cases found
    exact toNat_ofNat_le unit.currentOffset
  · rw [Table.get?_insert_of_ne _ same] at found
    exact inside other position found

/-- Labels stay inside when the streams grow. -/
theorem LabelsInside.of_extends (inside : unit.LabelsInside) (grown : unit.Extends next)
    (same : next.labels = unit.labels) : next.LabelsInside := by
  intro name position found
  rw [same] at found
  exact Nat.le_trans (inside name position found) (grown.code position.stream).length_le

/-- Every change keeps the labels inside. -/
theorem LabelsInside.changes (inside : unit.LabelsInside) (changed : unit.Changes edit next) :
    next.LabelsInside := by
  have grown := changed.extends
  cases changed with
  | label _ => exact inside.insert _
  | _ => exact inside.of_extends grown rfl

/-- A new type adds its name. -/
theorem TypeDeclaration.names_addTo (declaration : TypeDeclaration) {types : TypeTables}
    {name : String} (new : name ∉ types.names) :
    (declaration.addTo types name).names.Perm (name :: types.names) := by
  simp only [TypeTables.names, List.mem_append, not_or] at new
  cases declaration with
  | enum type =>
    simp only [addTo, TypeTables.names, Table.names_insert_of_new new.1.1, List.append_assoc]
    exact List.perm_middle
  | array type =>
    simp only [addTo, TypeTables.names, Table.names_insert_of_new new.1.2]
    rw [← List.append_assoc, List.append_assoc _ [name]]
    exact List.perm_middle
  | record type =>
    simp only [addTo, TypeTables.names, Table.names_insert_of_new new.2]
    rw [← List.append_assoc]
    exact List.perm_append_comm

/-- Every change keeps the names of types apart. -/
theorem typeNames_changes (distinct : unit.types.names.Nodup) (changed : unit.Changes edit next) :
    next.types.names.Nodup := by
  cases changed with
  | type new =>
    rw [(TypeDeclaration.names_addTo _ new).nodup_iff, List.nodup_cons]
    exact ⟨new, distinct⟩
  | _ => exact distinct

/-- The labels of built units are inside. -/
theorem IsBuilt.labelsInside (built : unit.IsBuilt) : unit.LabelsInside := by
  refine built.induction ?_ fun _ _ _ inside changed => inside.changes changed
  intro _ _ _ name position found
  cases found

/-- The types of built units have different names. -/
theorem IsBuilt.typeNames_nodup (built : unit.IsBuilt) : unit.types.names.Nodup := by
  refine built.induction ?_ fun _ _ _ distinct changed => typeNames_changes distinct changed
  intro _ _ _
  exact List.nodup_nil

/-- The tables of built units are consistent. -/
theorem IsBuilt.consistent (built : unit.IsBuilt) : unit.Consistent where
  slots := built.slotsInOrder
  varNames := unit.vars.distinct
  usedNames := unit.uses.distinct
  labels := built.labelsInside
  typeNames := built.typeNames_nodup

/-- One of several operations begins a routine, which is not refused. -/
def Begins (unit : ObjectUnit) (edits : List Edit) (name : String) : Prop :=
  ∃ before routine after begun, edits = before ++ .begin name routine :: after
    ∧ (unit.attemptAll before).apply (.begin name routine) = (.ok (), begun)

/-- The entry of a routine that was begun is where the body ended then, and the body has
only grown since. -/
theorem entry_of_begins {edits : List Edit} {name : String} (begins : unit.Begins edits name) :
    ∃ routine, (unit.attemptAll edits).routines.get? name = some routine
      ∧ routine.entry.toNat ≤ (unit.attemptAll edits).code.body.length := by
  obtain ⟨before, routine, after, begun, rfl, applied⟩ := begins
  have built : unit.attemptAll (before ++ .begin name routine :: after)
      = begun.attemptAll after := by
    rw [attemptAll_append, attemptAll_cons, attempt_of_apply applied]
  rw [built]
  have grown := begun.extends_attemptAll after
  cases changes_of_apply applied with
  | begin new =>
    refine ⟨_, grown.routines.found name _ (Table.get?_insert_self _ _ _), ?_⟩
    calc (UInt64.ofNat (unit.attemptAll before).code.body.length).toNat
        ≤ (unit.attemptAll before).code.body.length := toNat_ofNat_le _
      _ ≤ _ := (grown.code .body).length_le

/-- Any sequence of building operations, refused ones included, leaves the tables of a unit
consistent, and no routine that was begun starts past the end of the body. -/
theorem built_tables_consistent (name : String) (kind : UnitKind) (span : Option Span)
    (edits : List Edit) :
    ((empty name kind span).attemptAll edits).Consistent
      ∧ ∀ routineName, (empty name kind span).Begins edits routineName →
        ∃ routine, ((empty name kind span).attemptAll edits).routines.get? routineName = some routine
          ∧ routine.entry.toNat ≤ ((empty name kind span).attemptAll edits).code.body.length := by
  have built : ((empty name kind span).attemptAll edits).IsBuilt := ⟨name, kind, span, edits, rfl⟩
  exact ⟨built.consistent, fun _ begins => entry_of_begins begins⟩

/-- The second time that `post` is begun is refused. -/
theorem built_tables_consistent_ledger :
    (empty "Ledger" .unit none).Begins (ledgerEdits ++ ledgerEdits) "post"
      ∧ ((empty "Ledger" .unit none).attemptAll (ledgerEdits ++ ledgerEdits)).Consistent
      ∧ ∃ routine, ((empty "Ledger" .unit none).attemptAll
            (ledgerEdits ++ ledgerEdits)).routines.get? "post" = some routine
          ∧ routine.entry.toNat ≤ ((empty "Ledger" .unit none).attemptAll
            (ledgerEdits ++ ledgerEdits)).code.body.length := by
  have begins : (empty "Ledger" .unit none).Begins (ledgerEdits ++ ledgerEdits) "post" := by
    have accepted : (((empty "Ledger" .unit none).attemptAll (ledgerEdits.take 3)).apply
        (.begin "post" (.ofSignature ⟨[], none⟩ .interface))).1 = .ok () := by cbv
    exact ⟨ledgerEdits.take 3, _, ledgerEdits.drop 4 ++ ledgerEdits, _, rfl,
      Prod.ext accepted rfl⟩
  obtain ⟨consistent, entries⟩ :=
    built_tables_consistent "Ledger" .unit none (ledgerEdits ++ ledgerEdits)
  exact ⟨begins, consistent, entries "post" begins⟩

end UnitLinker.ObjectUnit
