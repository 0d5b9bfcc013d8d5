import UnitLinker.Proofs.Edits

/-!
# Built units

What holds of every unit that building operations make from an empty one: what each
way of changing a unit keeps holds after any sequence of operations.
-/

namespace UnitLinker.ObjectUnit

variable {unit next : ObjectUnit} {edit : Edit}

/-- A word never counts more than the number it was made from. -/
theorem toNat_ofNat_le (number : Nat) : (UInt64.ofNat number).toNat ≤ number := by
  rw [UInt64.toNat_ofNat']
  exact Nat.mod_le _ _

/-- What holds of a unit and is kept by every change holds after any operations. -/
theorem attemptAll_induction {property : ObjectUnit → Prop}
    (step : ∀ unit edit next, property unit → unit.Changes edit next → property next)
    (holds : property unit) (edits : List Edit) : property (unit.attemptAll edits) := by
  induction edits generalizing unit with
  | nil => exact holds
  | cons edit rest ih =>
    apply ih
    rcases unit.attempt_cases edit with same | changed
    · rwa [same]
    · exact step unit edit _ holds changed

/-- What holds of empty units and is kept by every change holds of built units. -/
theorem IsBuilt.induction {property : ObjectUnit → Prop}
    (start : ∀ name kind span, property (empty name kind span))
    (step : ∀ unit edit next, property unit → unit.Changes edit next → property next)
    (built : unit.IsBuilt) : property unit := by
  obtain ⟨name, kind, span, edits, rfl⟩ := built
  exact attemptAll_induction step (start name kind span) edits

/-- Every variable has the slot of its place in the order of declaration. -/
def SlotsInOrder (unit : ObjectUnit) : Prop :=
  ∀ place entry, unit.vars.entries[place]? = some entry → entry.2.slot = UInt64.ofNat place

/-- A new variable has the slot after those of all others. -/
theorem SlotsInOrder.insert_var (inOrder : unit.SlotsInOrder) {name : String}
    (new : name ∉ unit.vars.names) (visibility : Visibility) :
    SlotsInOrder { unit with
      vars := unit.vars.insert name ⟨UInt64.ofNat unit.vars.size, visibility⟩ } := by
  intro place entry added
  rw [Table.entries_insert_of_new new] at added
  rcases Nat.lt_or_ge place unit.vars.entries.length with inside | atEnd
  · rw [List.getElem?_append_left inside] at added
    exact inOrder place entry added
  · rw [List.getElem?_append_right atEnd, List.getElem?_singleton] at added
    split at added
    · rename_i isFirst
      cases added
      have atSize : place = unit.vars.size := by
        rw [Table.size]
        omega
      rw [atSize]
    · cases added

/-- A variable that becomes visible to other units changes where it stands. -/
theorem SlotsInOrder.export_var (inOrder : unit.SlotsInOrder) (name : String) :
    SlotsInOrder { unit with
      vars := unit.vars.adjust name fun entry => ⟨entry.slot, .interface⟩ } := by
  intro place entry changed
  simp only [Table.adjust, List.getElem?_map, Option.map_eq_some_iff] at changed
  obtain ⟨before, beforeFound, rfl⟩ := changed
  rw [← inOrder place before beforeFound]
  split <;> rfl

/-- Every change keeps the slots in order. -/
theorem SlotsInOrder.changes (inOrder : unit.SlotsInOrder) (changed : unit.Changes edit next) :
    next.SlotsInOrder := by
  cases changed with
  | var new => exact inOrder.insert_var new _
  | exportVar _ => exact inOrder.export_var _
  | _ => exact inOrder

/-- Built units have their slots in order. -/
theorem IsBuilt.slotsInOrder (built : unit.IsBuilt) : unit.SlotsInOrder := by
  refine built.induction ?_ fun _ _ _ inOrder changed => inOrder.changes changed
  intro name kind span place entry found
  cases found

/-- Slots count the variables before them. -/
theorem SlotsInOrder.slot_lt_size (inOrder : unit.SlotsInOrder) {entry : String × Variable}
    (member : entry ∈ unit.vars.entries) : entry.2.slot.toNat < unit.vars.size := by
  obtain ⟨place, inside, rfl⟩ := List.mem_iff_getElem.1 member
  rw [inOrder place _ (List.getElem?_eq_getElem inside)]
  exact Nat.lt_of_le_of_lt (toNat_ofNat_le place) inside

end UnitLinker.ObjectUnit
