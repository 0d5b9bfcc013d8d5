import Mathlib
import UnitLinker.Proofs.Refusals

/-!
# Units that cannot be put in order

All reasons for which units and a program are refused before any unit is placed, each
with the fact about the units that it rests on.
-/

namespace UnitLinker

namespace Dependency

variable {units : List ObjectUnit} {program : ObjectUnit} {stripUnused : Bool} {index : Index units}
  {error : LinkError}

/-- Why units cannot be put in order, by the checks in their order. -/
inductive Unordered (units : List ObjectUnit) (program : ObjectUnit) (stripUnused : Bool) :
    LinkError → Prop where
  | notAProgram (isUnit : program.kind ≠ .program) :
      Unordered units program stripUnused (.notAProgram program.name)
  | otherProgram {position : Fin units.length} (isProgram : (units.get position).kind = .program) :
      Unordered units program stripUnused
        (.unexpectedProgram (units.get position).name program.name (units.get position).span)
  /-- The name of a unit is that of the program or of a unit supplied before. -/
  | sameName {position : Fin units.length}
      (taken : (units.get position).name = program.name
        ∨ ∃ earlier < position, (units.get earlier).name = (units.get position).name) :
      Unordered units program stripUnused
        (.duplicateUnit (units.get position).name (units.get position).span)
  | programUse {used : String} (named : used ∈ program.usedNames)
      (absent : used ∉ units.map ObjectUnit.name) :
      Unordered units program stripUnused
        (.unresolvedUnit used program.name (program.useSpan used))
  /-- The search stops at a use of a unit to link. -/
  | stopped {index : Index units} {search : Search units.length} {error : LinkError}
      (indexes : Indexes program index (List.finRange units.length))
      (explores : Search.Explores index (Included units program stripUnused) [] search)
      (refusal : Search.Refusal index search error) :
      Unordered units program stripUnused error

/-- A unit that cannot be indexed has the name of an earlier one or is a program. -/
theorem unordered_of_addToIndex {position : Fin units.length} {before : List (Fin units.length)}
    (indexes : Indexes program index before) (earlier : ∀ other ∈ before, other < position)
    (failed : addToIndex units program index position = .error error) :
    Unordered units program stripUnused error := by
  simp only [addToIndex] at failed
  split at failed
  · rename_i isProgram
    cases failed
    exact .otherProgram isProgram
  · split at failed
    · rename_i taken
      cases failed
      apply Unordered.sameName
      rw [Bool.or_eq_true, decide_eq_true_eq] at taken
      refine taken.imp_right fun indexed => ?_
      obtain ⟨other, found⟩ := Option.isSome_iff_exists.1 indexed
      obtain ⟨member, nameEq⟩ := (indexes.finds _ _).1 found
      exact ⟨other, earlier other member, nameEq⟩
    · cases failed

/-- Units that cannot be indexed cannot be put in order. -/
theorem unordered_of_indexUnits (failed : indexUnits units program = .error error) :
    Unordered units program stripUnused error := by
  obtain ⟨before, position, after, index, split, indexed, refused⟩ :=
    exists_of_foldlM_eq_error failed
  have ascending := (List.sortedLT_finRange units.length).pairwise
  rw [split, List.pairwise_append] at ascending
  refine unordered_of_addToIndex (indexes_empty.addAll indexed) ?_ refused
  intro other member
  exact ascending.2.2 other member position List.mem_cons_self

/-- A program that cannot be prepared cannot be put in order. -/
theorem unordered_of_prepare (failed : prepare units program = .error error) :
    Unordered units program stripUnused error := by
  unfold prepare at failed
  by_cases isProgram : program.kind = .program
  · rw [if_neg (not_not.2 isProgram)] at failed
    rcases bind_eq_error.1 failed with notIndexed | ⟨index, indexed, checked⟩
    · exact unordered_of_indexUnits notIndexed
    · split at checked
      · rename_i used missing
        cases checked
        have indexes : Indexes program index (List.finRange units.length) :=
          indexes_empty.addAll indexed
        refine .programUse (List.mem_of_find?_eq_some missing) fun supplied => ?_
        have absent := List.find?_some missing
        rw [indexes.contains_iff.2 supplied] at absent
        cases absent
      · cases checked
  · rw [if_pos isProgram] at failed
    cases failed
    exact .notAProgram isProgram

/-- An error of the search tells why the units cannot be put in order. -/
theorem unordered_of_resolveOrder
    (failed : resolveOrder units program stripUnused = .error error) :
    Unordered units program stripUnused error := by
  rcases bind_eq_error.1 failed with notPrepared | ⟨index, prepared, searching⟩
  · exact unordered_of_prepare notPrepared
  · have indexes := indexes_of_prepare prepared
    rcases bind_eq_error.1 searching with stopped | ⟨search, _, given⟩
    · rcases @visitAll_cases units program stripUnused index indexes with
        ⟨final, ran, _, _⟩ | ⟨last, other, ran, explored, refusal⟩
      · rw [ran] at stopped
        cases stopped
      · rw [ran] at stopped
        cases stopped
        exact .stopped indexes explored refusal
    · cases given

/-- A unit that is reported as unresolved is used and is not supplied. -/
theorem Unordered.exists_user {used usedBy : String} {span : Option Span}
    (unordered : Unordered units program stripUnused (.unresolvedUnit used usedBy span)) :
    used ∉ units.map ObjectUnit.name ∧ ∃ user ∈ program :: units, used ∈ user.usedNames := by
  cases unordered with
  | programUse named absent => exact ⟨absent, program, List.mem_cons_self, named⟩
  | stopped indexes explores refusal =>
    cases refusal with
    | missing top named absent =>
      refine ⟨fun supplied => ?_, _, List.mem_cons_of_mem _ (List.get_mem units _),
        List.mem_of_getElem? named⟩
      rw [← indexes.contains_iff, Table.contains, absent] at supplied
      cases supplied

/-- Among units with distinct names only one that is named like the program is reported as
repeated. -/
theorem Unordered.eq_program_name {name : String} {span : Option Span}
    (distinct : (units.map ObjectUnit.name).Nodup)
    (unordered : Unordered units program stripUnused (.duplicateUnit name span)) :
    name = program.name ∧ name ∈ units.map ObjectUnit.name := by
  cases unordered with
  | @sameName position taken =>
    refine ⟨?_, List.mem_map_of_mem (List.get_mem units position)⟩
    rcases taken with same | ⟨earlier, before, same⟩
    · exact same
    · rw [← map_name_finRange] at distinct
      have samePosition : earlier = position := List.inj_on_of_nodup_map distinct
        (List.mem_finRange earlier) (List.mem_finRange position) same
      exact absurd samePosition before.ne
  | stopped indexes explores refusal => cases refusal

/-- No unit is blamed if the units cannot be put in order. -/
theorem Unordered.raisedFor (unordered : Unordered units program stripUnused error) :
    error.raisedFor? = none := by
  cases unordered with
  | stopped _ _ refusal => cases refusal <;> rfl
  | _ => rfl

end Dependency

namespace Link

variable {units : List ObjectUnit} {program : ObjectUnit} {options : Options} {error : LinkError}

/-- So does an error of the sequence. -/
theorem unordered_of_sequence (failed : sequence units program options = .error error) :
    Dependency.Unordered units program options.stripUnused error := by
  rcases bind_eq_error.1 failed with notResolved | ⟨order, _, given⟩
  · exact Dependency.unordered_of_resolveOrder notResolved
  · cases given

/-- An error that no unit is blamed for is raised before any unit is placed. -/
theorem unordered_of_link (failed : link units program options = .error (.refused error))
    (noUnit : error.raisedFor? = none) :
    Dependency.Unordered units program options.stripUnused error := by
  rcases link_eq_error_cases failed with ⟨other, unordered, same⟩ | ⟨stop, refusal⟩
  · cases same
    exact unordered_of_sequence unordered
  · rw [refusal.raisedFor] at noUnit
    cases noUnit

/-- An error that a unit is blamed for is raised when that unit is placed. -/
theorem exists_stop_of_link {name : String}
    (failed : link units program options = .error (.refused error))
    (blamed : error.raisedFor? = some name) :
    ∃ stop : Stop units program options (.refused error),
      Refusal stop.before stop.unit (.refused error) := by
  rcases link_eq_error_cases failed with ⟨other, unordered, same⟩ | stopped
  · cases same
    rw [(unordered_of_sequence unordered).raisedFor] at blamed
    cases blamed
  · exact stopped

end Link

end UnitLinker
