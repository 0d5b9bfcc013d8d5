import Mathlib.Data.List.FinRange
import Mathlib.Logic.Relation
import UnitLinker.Dependency.Search
import UnitLinker.Proofs.Results
import UnitLinker.Proofs.Tables

/-!
# The graph of uses clauses

Supplied units and the names in their uses clauses form a graph. This module
says which units of it are to be linked and when they can be put in order, in
terms of the clauses alone, and shows that the index by name and the worklist
of reachable units compute just that.
-/

namespace UnitLinker.Dependency

section Graph

variable (units : List ObjectUnit) (program : ObjectUnit)

/-- One supplied unit names another one in its uses clause. -/
def Uses (user used : Fin units.length) : Prop :=
  (units.get used).name ∈ (units.get user).usedNames

/-- The supplied units that a program needs, directly or through other units. -/
inductive Reachable : Fin units.length → Prop where
  | direct {position : Fin units.length}
      (named : (units.get position).name ∈ program.usedNames) : Reachable position
  | through {user used : Fin units.length} (reached : Reachable user)
      (named : Uses units user used) : Reachable used

/-- The units to link: all of them, or those that the program reaches. -/
def Included (stripUnused : Bool) (position : Fin units.length) : Prop :=
  stripUnused = true → Reachable units program position

/-- The uses graph on the units to link. -/
def IncludedUses (stripUnused : Bool) (user used : Fin units.length) : Prop :=
  Included units program stripUnused user ∧ Included units program stripUnused used
    ∧ Uses units user used

/-- What supplied units and a program must satisfy for an order to exist. -/
structure Orderable (stripUnused : Bool) : Prop where
  isProgram : program.kind = .program
  noOtherProgram : ∀ unit ∈ units, unit.kind ≠ .program
  namesDistinct : (units.map ObjectUnit.name).Nodup
  programNameNew : program.name ∉ units.map ObjectUnit.name
  programUsesSupplied : ∀ name ∈ program.usedNames, name ∈ units.map ObjectUnit.name
  includedUsesSupplied : ∀ position, Included units program stripUnused position →
    ∀ name ∈ (units.get position).usedNames, name ∈ units.map ObjectUnit.name
  acyclic : ∀ position,
    ¬ Relation.TransGen (IncludedUses units program stripUnused) position position

/-- An order of the units to link in which every unit comes after all units that
it uses. -/
structure IsDependencyOrder (stripUnused : Bool) (order : List (Fin units.length)) : Prop where
  nodup : order.Nodup
  mem_iff : ∀ position, position ∈ order ↔ Included units program stripUnused position
  usesBefore : ∀ place (inside : place < order.length),
    ∀ name ∈ (units.get order[place]).usedNames,
      ∃ earlier, ∃ before : earlier < place, (units.get order[earlier]).name = name

end Graph

section Index

variable {units : List ObjectUnit} {program : ObjectUnit}

/-- An index finds exactly the units at some positions, none of which is a
program or has the program's name. -/
structure Indexes (program : ObjectUnit) (index : Index units)
    (positions : List (Fin units.length)) : Prop where
  finds : ∀ name position, index.get? name = some position
    ↔ position ∈ positions ∧ (units.get position).name = name
  isUnit : ∀ position ∈ positions, (units.get position).kind ≠ .program
  isNew : ∀ position ∈ positions, (units.get position).name ≠ program.name

theorem indexes_empty : @Indexes units program .empty [] where
  finds := by simp
  isUnit := by simp
  isNew := by simp

/-- What a step of indexing needs, and what it gives. -/
theorem addToIndex_eq_ok {index next : Index units} {position : Fin units.length} :
    addToIndex units program index position = .ok next
      ↔ (units.get position).kind ≠ .program ∧ (units.get position).name ≠ program.name
        ∧ index.get? (units.get position).name = none
        ∧ next = index.insert (units.get position).name position := by
  simp only [addToIndex]
  generalize units.get position = unit
  by_cases isProgram : unit.kind = .program
  · simp [isProgram]
  · by_cases sameName : unit.name = program.name
    · simp [isProgram, sameName]
    · cases found : index.get? unit.name with
      | none =>
        have absent : index.contains unit.name = false := by rw [Table.contains, found]; rfl
        simp only [isProgram, sameName, absent, if_false, Bool.or_false, decide_false,
          Bool.false_eq_true, Except.ok.injEq, ne_eq, not_false_eq_true, true_and]
        exact eq_comm
      | some other => simp [isProgram, Table.contains, found]

/-- A unit that is added to an index is found by its name. -/
theorem Indexes.add {index next : Index units} {positions : List (Fin units.length)}
    {position : Fin units.length} (indexes : Indexes program index positions)
    (added : addToIndex units program index position = .ok next) :
    Indexes program next (positions ++ [position]) := by
  obtain ⟨isUnit, isNew, absent, rfl⟩ := addToIndex_eq_ok.1 added
  refine ⟨?_, ?_, ?_⟩
  · intro name other
    by_cases same : name = (units.get position).name
    · subst same
      rw [Table.get?_insert_self, Option.some.injEq, List.mem_append, List.mem_singleton]
      constructor
      · rintro rfl
        exact ⟨Or.inr rfl, rfl⟩
      · rintro ⟨earlier | rfl, named⟩
        · have found := (indexes.finds _ _).2 ⟨earlier, named⟩
          rw [absent] at found
          cases found
        · rfl
    · rw [Table.get?_insert_of_ne _ same, indexes.finds, List.mem_append, List.mem_singleton]
      constructor
      · rintro ⟨earlier, named⟩
        exact ⟨Or.inl earlier, named⟩
      · rintro ⟨earlier | rfl, named⟩
        · exact ⟨earlier, named⟩
        · exact absurd named.symm same
  · intro other member
    rcases List.mem_append.1 member with earlier | last
    · exact indexes.isUnit other earlier
    · rw [List.mem_singleton.1 last]
      exact isUnit
  · intro other member
    rcases List.mem_append.1 member with earlier | last
    · exact indexes.isNew other earlier
    · rw [List.mem_singleton.1 last]
      exact isNew

/-- Units that are added to an index are found by their names. -/
theorem Indexes.addAll {index final : Index units} {seen positions : List (Fin units.length)}
    (indexes : Indexes program index seen)
    (added : positions.foldlM (addToIndex units program) index = .ok final) :
    Indexes program final (seen ++ positions) := by
  induction positions generalizing index seen with
  | nil =>
    cases pure_eq_ok.1 added
    rwa [List.append_nil]
  | cons position rest ih =>
    obtain ⟨next, first, others⟩ := foldlM_cons_eq_ok.1 added
    have indexesRest := ih (indexes.add first) others
    rwa [List.append_assoc] at indexesRest

/-- Units with distinct new names are all indexed. -/
theorem Indexes.exists_addAll {index : Index units} {seen positions : List (Fin units.length)}
    (indexes : Indexes program index seen)
    (isUnit : ∀ position ∈ positions, (units.get position).kind ≠ .program)
    (isNew : ∀ position ∈ positions, (units.get position).name ≠ program.name)
    (distinct : ((seen ++ positions).map fun position => (units.get position).name).Nodup) :
    ∃ final, positions.foldlM (addToIndex units program) index = .ok final := by
  induction positions generalizing index seen with
  | nil => exact ⟨index, rfl⟩
  | cons position rest ih =>
    have absent : index.get? (units.get position).name = none := by
      rw [Option.eq_none_iff_forall_ne_some]
      intro other found
      obtain ⟨earlier, named⟩ := (indexes.finds _ _).1 found
      rw [List.map_append, List.nodup_append] at distinct
      exact distinct.2.2 _ (List.mem_map.2 ⟨other, earlier, rfl⟩) _ (List.mem_map.2
        ⟨position, List.mem_cons_self, rfl⟩) named
    have added := addToIndex_eq_ok.2 ⟨isUnit position List.mem_cons_self,
      isNew position List.mem_cons_self, absent, rfl⟩
    obtain ⟨final, others⟩ := ih (indexes.add added)
      (fun other member => isUnit other (List.mem_cons_of_mem _ member))
      (fun other member => isNew other (List.mem_cons_of_mem _ member))
      (by rwa [List.append_assoc])
    exact ⟨final, foldlM_cons_eq_ok.2 ⟨_, added, others⟩⟩

/-- An index finds the unit that has the name. -/
theorem Indexes.get?_eq_some_iff {index : Index units}
    (indexes : Indexes program index (List.finRange units.length)) {name : String}
    {position : Fin units.length} :
    index.get? name = some position ↔ (units.get position).name = name := by
  rw [indexes.finds]
  exact and_iff_right (List.mem_finRange position)

/-- An index finds every supplied unit by its name, and nothing else. -/
def FindsByName (index : Index units) : Prop :=
  ∀ name position, index.get? name = some position ↔ (units.get position).name = name

theorem Indexes.findsByName {index : Index units}
    (indexes : Indexes program index (List.finRange units.length)) : FindsByName index :=
  fun _ _ => indexes.get?_eq_some_iff

/-- A name is that of a supplied unit if and only if the unit has a position. -/
theorem mem_names_iff {name : String} :
    name ∈ units.map ObjectUnit.name ↔ ∃ position, (units.get position).name = name := by
  rw [List.mem_map]
  constructor
  · rintro ⟨unit, member, rfl⟩
    obtain ⟨position, rfl⟩ := List.mem_iff_get.1 member
    exact ⟨position, rfl⟩
  · rintro ⟨position, rfl⟩
    exact ⟨units.get position, List.get_mem units position, rfl⟩

/-- An index has the names of the supplied units. -/
theorem Indexes.contains_iff {index : Index units}
    (indexes : Indexes program index (List.finRange units.length)) {name : String} :
    index.contains name = true ↔ name ∈ units.map ObjectUnit.name := by
  rw [Table.contains, Option.isSome_iff_exists, mem_names_iff]
  exact exists_congr fun position => indexes.get?_eq_some_iff

theorem map_get_finRange : (List.finRange units.length).map units.get = units := by
  rw [← List.ofFn_eq_map, List.ofFn_get]

theorem map_name_finRange :
    (List.finRange units.length).map (fun position => (units.get position).name)
      = units.map ObjectUnit.name :=
  calc (List.finRange units.length).map (ObjectUnit.name ∘ units.get)
      = ((List.finRange units.length).map units.get).map ObjectUnit.name := List.map_map.symm
    _ = units.map ObjectUnit.name := by rw [map_get_finRange]

/-- Units with distinct names can be found by them. -/
theorem exists_findsByName (distinct : (units.map ObjectUnit.name).Nodup) :
    ∃ index : Index units, FindsByName index := by
  have names : (((List.finRange units.length).map fun position =>
      ((units.get position).name, position)).map Prod.fst).Nodup := by
    rw [List.map_map]
    rw [← map_name_finRange] at distinct
    exact distinct
  refine ⟨⟨_, names⟩, fun name position => ?_⟩
  rw [Table.get?_eq_some_iff]
  constructor
  · intro member
    obtain ⟨other, _, same⟩ := List.mem_map.1 member
    cases same
    rfl
  · rintro rfl
    exact List.mem_map.2 ⟨position, List.mem_finRange position, rfl⟩

/-- Units that are found by their names have different names. -/
theorem FindsByName.eq_of_name_eq {index : Index units} (finds : FindsByName index)
    {first second : Fin units.length} (same : (units.get first).name = (units.get second).name) :
    first = second := by
  have found := (finds _ _).2 same
  rw [(finds _ _).2 rfl] at found
  exact (Option.some.inj found).symm

/-- Units that can be indexed have different names. -/
theorem Indexes.names_nodup {index : Index units}
    (indexes : Indexes program index (List.finRange units.length)) :
    (units.map ObjectUnit.name).Nodup := by
  rw [← map_name_finRange]
  refine List.Nodup.map_on ?_ (List.nodup_finRange _)
  intro first _ second _ same
  exact indexes.findsByName.eq_of_name_eq same

/-- The index of supplied units exists if and only if their names are distinct
and new and none of them is a program. -/
theorem exists_indexUnits_iff :
    (∃ index, indexUnits units program = .ok index)
      ↔ (∀ unit ∈ units, unit.kind ≠ .program) ∧ (units.map ObjectUnit.name).Nodup
        ∧ program.name ∉ units.map ObjectUnit.name := by
  constructor
  · rintro ⟨index, indexed⟩
    have indexes := indexes_empty.addAll indexed
    refine ⟨?_, indexes.names_nodup, ?_⟩
    · intro unit member
      obtain ⟨position, rfl⟩ := List.mem_iff_get.1 member
      exact indexes.isUnit position (List.mem_finRange position)
    · intro member
      obtain ⟨position, named⟩ := mem_names_iff.1 member
      exact indexes.isNew position (List.mem_finRange position) named
  · rintro ⟨isUnit, distinct, isNew⟩
    refine indexes_empty.exists_addAll ?_ ?_ ?_
    · exact fun position _ => isUnit _ (List.get_mem units position)
    · exact fun position _ same => isNew (mem_names_iff.2 ⟨position, same⟩)
    · rwa [List.nil_append, map_name_finRange]

/-- A program is prepared exactly if it is one, the units can be indexed, and what it uses
is there. -/
theorem prepare_eq_ok {index : Index units} :
    prepare units program = .ok index
      ↔ program.kind = .program ∧ indexUnits units program = .ok index
        ∧ ∀ name ∈ program.usedNames, index.contains name = true := by
  unfold prepare
  by_cases isProgram : program.kind = .program
  · rw [if_neg (not_not.2 isProgram)]
    constructor
    · intro prepared
      obtain ⟨built, indexed, checked⟩ := bind_eq_ok.1 prepared
      split at checked
      · cases checked
      · rename_i noneMissing
        cases pure_eq_ok.1 checked
        refine ⟨isProgram, indexed, fun name member => ?_⟩
        simpa using List.find?_eq_none.1 noneMissing name member
    · rintro ⟨_, indexed, contained⟩
      have noneMissing : program.usedNames.find? (fun used => !index.contains used) = none := by
        rw [List.find?_eq_none]
        intro name member
        simp [contained name member]
      exact bind_eq_ok.2 ⟨index, indexed, by rw [noneMissing]; rfl⟩
  · rw [if_pos isProgram]
    constructor
    · intro refused
      cases refused
    · intro accepted
      exact absurd accepted.1 isProgram

end Index

section Reach

variable {count : Nat} {uses : Fin count → List (Fin count)} {pending reached : List (Fin count)}

/-- Whatever starts in a closed set stays in it. -/
theorem reachFrom_within {allowed : Fin count → Prop}
    (closed : ∀ position, allowed position → ∀ needed ∈ uses position, allowed needed)
    (pendingAllowed : ∀ position ∈ pending, allowed position)
    (reachedAllowed : ∀ position ∈ reached, allowed position) :
    ∀ position ∈ reachFrom uses pending reached, allowed position := by
  fun_induction reachFrom uses pending reached with
  | case1 => exact reachedAllowed
  | case2 reached position rest known ih =>
    exact ih (fun other member => pendingAllowed other (List.mem_cons_of_mem _ member))
      reachedAllowed
  | case3 reached position rest new ih =>
    have allowed := pendingAllowed position List.mem_cons_self
    refine ih ?_ ?_
    · intro other member
      rcases List.mem_append.1 member with added | waiting
      · exact closed position allowed other (List.mem_reverse.1 added)
      · exact pendingAllowed other (List.mem_cons_of_mem _ waiting)
    · intro other member
      rcases List.mem_cons.1 member with rfl | earlier
      · exact allowed
      · exact reachedAllowed other earlier

/-- Nothing that is pending or reached gets lost. -/
theorem mem_reachFrom {position : Fin count} (member : position ∈ pending ∨ position ∈ reached) :
    position ∈ reachFrom uses pending reached := by
  fun_induction reachFrom uses pending reached with
  | case1 => simpa using member
  | case2 reached first rest known ih =>
    apply ih
    rcases member with waiting | already
    · rcases List.mem_cons.1 waiting with rfl | later
      · exact Or.inr (by simpa using known)
      · exact Or.inl later
    · exact Or.inr already
  | case3 reached first rest new ih =>
    apply ih
    rcases member with waiting | already
    · rcases List.mem_cons.1 waiting with rfl | later
      · exact Or.inr List.mem_cons_self
      · exact Or.inl (List.mem_append_right _ later)
    · exact Or.inr (List.mem_cons_of_mem _ already)

/-- The invariant of the worklist: the uses of what is reached are reached or
pending. At the end nothing is pending, so the result is closed. -/
theorem reachFrom_closed
    (invariant : ∀ position ∈ reached, ∀ needed ∈ uses position,
      needed ∈ reached ∨ needed ∈ pending) :
    ∀ position ∈ reachFrom uses pending reached, ∀ needed ∈ uses position,
      needed ∈ reachFrom uses pending reached := by
  fun_induction reachFrom uses pending reached with
  | case1 => simpa using invariant
  | case2 reached first rest known ih =>
    refine ih fun position member needed used => ?_
    rcases invariant position member needed used with already | waiting
    · exact Or.inl already
    · rcases List.mem_cons.1 waiting with rfl | later
      · exact Or.inl (by simpa using known)
      · exact Or.inr later
  | case3 reached first rest new ih =>
    refine ih fun position member needed used => ?_
    rcases List.mem_cons.1 member with rfl | earlier
    · exact Or.inr (List.mem_append_left _ (List.mem_reverse.2 used))
    · rcases invariant position earlier needed used with already | waiting
      · exact Or.inl (List.mem_cons_of_mem _ already)
      · rcases List.mem_cons.1 waiting with rfl | later
        · exact Or.inl List.mem_cons_self
        · exact Or.inr (List.mem_append_right _ later)

variable {units : List ObjectUnit} {program : ObjectUnit} {index : Index units}

/-- The supplied units that a unit uses are those with the names in its uses clause. -/
theorem FindsByName.mem_suppliedUses (finds : FindsByName index) {unit : ObjectUnit}
    {position : Fin units.length} :
    position ∈ suppliedUses index unit ↔ (units.get position).name ∈ unit.usedNames := by
  rw [suppliedUses, List.mem_filterMap]
  constructor
  · rintro ⟨name, member, found⟩
    rwa [(finds _ _).1 found]
  · intro member
    exact ⟨_, member, (finds _ _).2 rfl⟩

/-- The worklist finds exactly the reachable units. -/
theorem FindsByName.mem_reached (finds : FindsByName index) {position : Fin units.length} :
    position ∈ Dependency.reached index program ↔ Reachable units program position := by
  constructor
  · refine reachFrom_within ?_ ?_ ?_ position
    · intro user reachable used member
      exact .through reachable (finds.mem_suppliedUses.1 member)
    · intro first member
      exact .direct (finds.mem_suppliedUses.1 (List.mem_reverse.1 member))
    · intro first member
      cases member
  · intro reachable
    induction reachable with
    | direct named =>
      exact mem_reachFrom (Or.inl (List.mem_reverse.2 (finds.mem_suppliedUses.2 named)))
    | through _ named ih =>
      exact reachFrom_closed (by simp) _ ih _ (finds.mem_suppliedUses.2 named)

/-- Included are all units, or those that the program needs. -/
theorem Indexes.mem_included (indexes : Indexes program index (List.finRange units.length))
    {stripUnused : Bool} {position : Fin units.length} :
    position ∈ included index program stripUnused
      ↔ Included units program stripUnused position := by
  cases stripUnused with
  | false => simp [included, Included]
  | true =>
    have reachedIff : position ∈ Dependency.reached index program ↔ _ :=
      indexes.findsByName.mem_reached
    simpa [included, Included] using reachedIff

/-- The uses of a unit to link are to be linked themselves. -/
theorem Included.through {stripUnused : Bool} {user used : Fin units.length}
    (isIncluded : Included units program stripUnused user) (named : Uses units user used) :
    Included units program stripUnused used :=
  fun stripping => .through (isIncluded stripping) named

end Reach

end UnitLinker.Dependency
