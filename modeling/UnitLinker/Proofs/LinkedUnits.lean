import Mathlib
import UnitLinker.Proofs.Turns

/-!
# The units of an image

Which supplied units are linked, in terms of the units themselves and not of their
positions: all of them, or those that the program needs. A run places exactly these
units and then the program, in an order of its own.
-/

namespace UnitLinker.Link

section Needs

variable (units : List ObjectUnit) (program : ObjectUnit)

/-- A unit names a supplied unit in its uses clause. -/
def UsesSupplied (user used : ObjectUnit) : Prop := used ∈ units ∧ used.name ∈ user.usedNames

/-- The program uses a supplied unit, directly or through other units. -/
def IsNeeded (unit : ObjectUnit) : Prop := Relation.TransGen (UsesSupplied units) program unit

open Classical in
/-- The supplied units that a program needs, in supplied order. -/
noncomputable def neededUnits : List ObjectUnit :=
  units.filter fun unit => IsNeeded units program unit

/-- The units that are linked with a program, in supplied order. -/
noncomputable def includedUnits (stripUnused : Bool) : List ObjectUnit :=
  if stripUnused then neededUnits units program else units

/-- All units of an image: those that are linked with the program, and the program. -/
noncomputable def linkedUnits (stripUnused : Bool) : List ObjectUnit :=
  includedUnits units program stripUnused ++ [program]

end Needs

variable {units : List ObjectUnit} {program : ObjectUnit} {options : Options}
  {ordered : List ObjectUnit}

/-- Needed are the supplied units that uses lead to from the program. -/
theorem mem_neededUnits {unit : ObjectUnit} :
    unit ∈ neededUnits units program ↔ unit ∈ units ∧ IsNeeded units program unit := by
  simp [neededUnits]

/-- All supplied units are included, or only those that are needed. -/
theorem mem_includedUnits {stripUnused : Bool} {unit : ObjectUnit} :
    unit ∈ includedUnits units program stripUnused
      ↔ unit ∈ units ∧ (stripUnused = true → IsNeeded units program unit) := by
  cases stripUnused with
  | false => simp [includedUnits]
  | true => simp [includedUnits, mem_neededUnits]

/-- The program is linked with what is included. -/
theorem mem_linkedUnits {stripUnused : Bool} {unit : ObjectUnit} :
    unit ∈ linkedUnits units program stripUnused
      ↔ unit ∈ includedUnits units program stripUnused ∨ unit = program := by
  simp [linkedUnits]

theorem mem_cons_of_mem_linkedUnits {stripUnused : Bool} {unit : ObjectUnit}
    (isLinked : unit ∈ linkedUnits units program stripUnused) : unit ∈ program :: units := by
  rcases mem_linkedUnits.1 isLinked with included | rfl
  · exact List.mem_cons_of_mem _ (mem_includedUnits.1 included).1
  · exact List.mem_cons_self

/-- Uses lead to supplied units only. -/
theorem UsesSupplied.mem_of_chain {user used : ObjectUnit}
    (chain : Relation.TransGen (UsesSupplied units) user used) : used ∈ units := by
  cases chain with
  | single last => exact last.1
  | tail _ last => exact last.1

/-- A needed unit is reachable wherever it stands. -/
theorem reachable_of_isNeeded {unit : ObjectUnit} (needed : IsNeeded units program unit) :
    ∀ position, units.get position = unit → Dependency.Reachable units program position := by
  induction needed with
  | single named =>
    rintro position rfl
    exact .direct named.2
  | tail chain named ih =>
    rintro position rfl
    obtain ⟨user, rfl⟩ := List.mem_iff_get.1 (UsesSupplied.mem_of_chain chain)
    exact .through (ih user rfl) named.2

/-- The reachable positions are those of the needed units. -/
theorem reachable_iff_isNeeded {position : Fin units.length} :
    Dependency.Reachable units program position
      ↔ IsNeeded units program (units.get position) := by
  constructor
  · intro reachable
    induction reachable with
    | direct named => exact .single ⟨List.get_mem units _, named⟩
    | through _ named ih => exact ih.tail ⟨List.get_mem units _, named⟩
  · intro needed
    exact reachable_of_isNeeded needed position rfl

/-- The search and the linker include the same units. -/
theorem included_iff_mem {stripUnused : Bool} {position : Fin units.length} :
    Dependency.Included units program stripUnused position
      ↔ units.get position ∈ includedUnits units program stripUnused := by
  rw [mem_includedUnits, Dependency.Included, reachable_iff_isNeeded]
  exact (and_iff_right (List.get_mem units position)).symm

/-- Positions that are selected by the units at them give the selected units. -/
theorem map_get_filter (test : ObjectUnit → Bool) :
    ((List.finRange units.length).filter fun position => test (units.get position)).map units.get
      = units.filter test := by
  have mapped := List.filter_map (f := units.get) (l := List.finRange units.length) (p := test)
  rw [Dependency.map_get_finRange] at mapped
  exact mapped.symm

open Classical in
theorem filter_mem_includedUnits (stripUnused : Bool) :
    units.filter (fun unit => unit ∈ includedUnits units program stripUnused)
      = includedUnits units program stripUnused := by
  cases stripUnused with
  | false =>
    rw [includedUnits, if_neg Bool.false_ne_true, List.filter_eq_self]
    intro unit supplied
    simpa using supplied
  | true =>
    rw [includedUnits, if_pos rfl, neededUnits]
    refine List.filter_congr fun unit supplied => ?_
    simp [supplied]

open Classical in
/-- A run places the linked units, each of them once, in an order of its own. -/
theorem sequence_perm (sequenced : sequence units program options = .ok ordered) :
    ordered.Perm (linkedUnits units program options.stripUnused) := by
  obtain ⟨order, resolved, rfl⟩ := sequence_eq_ok.1 sequenced
  have isOrder := Dependency.isDependencyOrder_of_resolveOrder resolved
  have positions : order.Perm ((List.finRange units.length).filter fun position =>
      units.get position ∈ includedUnits units program options.stripUnused) := by
    rw [List.perm_ext_iff_of_nodup isOrder.nodup ((List.nodup_finRange _).filter _)]
    intro position
    simp [isOrder.mem_iff, included_iff_mem]
  have selected := positions.map units.get
  rw [map_get_filter fun unit => decide (unit ∈ includedUnits units program options.stripUnused),
    filter_mem_includedUnits] at selected
  exact selected.append_right [program]

/-- Only linked units have a turn. -/
theorem Turn.mem_linkedUnits (turn : Turn units program options) :
    turn.unit ∈ linkedUnits units program options.stripUnused :=
  (sequence_perm turn.sequenced).mem_iff.1 (List.mem_append_right _ List.mem_cons_self)

/-- Every linked unit has its turn in a successful run. -/
theorem Turn.exists_of_mem_linkedUnits {image : Image}
    (linked : link units program options = .ok image) {unit : ObjectUnit}
    (isLinked : unit ∈ linkedUnits units program options.stripUnused) :
    ∃ turn : Turn units program options, turn.unit = unit := by
  obtain ⟨ordered, _, sequenced, _, _⟩ := link_eq_ok.1 linked
  have isPlaced := (sequence_perm sequenced).mem_iff.2 isLinked
  obtain ⟨turn, unitEq, _⟩ := Turn.exists_of_mem linked sequenced isPlaced
  exact ⟨turn, unitEq⟩

/-- No two units that can be put in order have the same name. -/
theorem eq_of_name_eq_of_sequence (sequenced : sequence units program options = .ok ordered)
    {first second : ObjectUnit} (isFirst : first ∈ program :: units)
    (isSecond : second ∈ program :: units) (sameName : first.name = second.name) :
    first = second := by
  obtain ⟨order, resolved, _⟩ := sequence_eq_ok.1 sequenced
  have orderable := Dependency.orderable_of_resolveOrder resolved
  have distinct : ((program :: units).map ObjectUnit.name).Nodup :=
    List.nodup_cons.2 ⟨orderable.programNameNew, orderable.namesDistinct⟩
  exact List.inj_on_of_nodup_map distinct isFirst isSecond sameName

/-- In a run that succeeds, units are told apart by their names. -/
theorem eq_of_name_eq_of_link {image : Image} (linked : link units program options = .ok image)
    {first second : ObjectUnit} (isFirst : first ∈ program :: units)
    (isSecond : second ∈ program :: units) (sameName : first.name = second.name) :
    first = second := by
  obtain ⟨ordered, _, sequenced, _, _⟩ := link_eq_ok.1 linked
  exact eq_of_name_eq_of_sequence sequenced isFirst isSecond sameName

/-- All that a placed unit uses, directly or through other units, is placed before it. -/
theorem mem_earlier_of_chain {earlier later : List ObjectUnit} {user used : ObjectUnit}
    (sequenced : sequence units program options = .ok (earlier ++ user :: later))
    (chain : Relation.TransGen (UsesSupplied units) user used) : used ∈ earlier := by
  obtain ⟨order, resolved, _⟩ := sequence_eq_ok.1 sequenced
  have distinct := (Dependency.orderable_of_resolveOrder resolved).namesDistinct
  have direct : ∀ {earlier later : List ObjectUnit} {user used : ObjectUnit},
      sequence units program options = .ok (earlier ++ user :: later) →
      UsesSupplied units user used → used ∈ earlier := by
    intro earlier later user used sequenced named
    obtain ⟨needed, isEarlier, supplied, sameName⟩ := exists_earlier_of_use sequenced named.2
    rwa [← List.inj_on_of_nodup_map distinct supplied named.1 sameName]
  induction chain with
  | single named => exact direct sequenced named
  | tail _ named ih =>
    -- the unit in between splits what comes before the user
    obtain ⟨before, between, rfl⟩ := List.append_of_mem ih
    rw [List.append_assoc, List.cons_append] at sequenced
    exact List.mem_append_left _ (direct sequenced named)

end UnitLinker.Link
