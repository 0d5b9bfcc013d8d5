import Mathlib
import UnitLinker.Proofs.OrderRefusals
import UnitLinker.Proofs.RecursiveSearch

/-!
# Reported cycles

The open units of a search form a chain of uses from the root to the current unit, and
no unit is open twice. A use of an open unit therefore closes a cycle that consists of
the chain from that unit on. This is the cycle that is reported: it is a real one, it
passes through no unit twice, and its position is that of the use that closes it.
-/

namespace UnitLinker

/-- What a uses clause records for one of its names. -/
theorem ObjectUnit.get?_uses {unit : ObjectUnit} {used : String} (named : used ∈ unit.usedNames) :
    unit.uses.get? used = some (unit.useSpan used) := by
  have contained := Table.contains_iff_mem_names.2 named
  obtain ⟨recorded, found⟩ := Option.isSome_iff_exists.1 contained
  rw [useSpan, found]
  rfl

namespace Dependency

/-- A supplied unit of one name has another name in its uses clause. -/
def UsesByName (units : List ObjectUnit) (user used : String) : Prop :=
  ∃ unit ∈ units, unit.name = user ∧ used ∈ unit.usedNames

/-- A simple cycle of uses, by the names of the units on it. The first name is repeated at
the end, and the span is the one that the unit before the end records for that use. -/
structure IsSimpleCycle (units : List ObjectUnit) (program : ObjectUnit) (stripUnused : Bool)
    (cycle : List String) (span : Option Span) : Prop where
  /-- Names stand for units. -/
  names : (units.map ObjectUnit.name).Nodup
  two_le_length : 2 ≤ cycle.length
  closed : cycle.head? = cycle.getLast?
  simple : cycle.dropLast.Nodup
  supplied : ∀ name ∈ cycle, ∃ position, Included units program stripUnused position
    ∧ (units.get position).name = name
  uses : cycle.IsChain (UsesByName units)
  closing : ∃ before user used, cycle = before ++ [user, used]
    ∧ ∃ unit ∈ units, unit.name = user ∧ unit.uses.get? used = some span

variable {units : List ObjectUnit} {program : ObjectUnit} {stripUnused : Bool} {index : Index units}

/-- The waiting units and the one above them use each other in turn. -/
theorem Search.Awaits.isChain (finds : FindsByName index) {order : List (Fin units.length)}
    {above : Fin units.length}
    {rest : List (Fin units.length × Nat)} (awaits : Search.Awaits index order above rest) :
    ((rest.map Prod.fst).reverse ++ [above]).IsChain (Uses units) := by
  induction rest generalizing above with
  | nil => exact List.isChain_singleton above
  | cons frame rest ih =>
    obtain ⟨⟨taken, used, _, named, found, _⟩, others⟩ := awaits
    rw [List.map_cons, List.reverse_cons, List.isChain_append]
    refine ⟨ih others, List.isChain_singleton above, ?_⟩
    intro user isLast next isNext
    rw [List.getLast?_concat, Option.mem_some_iff] at isLast
    rw [List.head?_cons, Option.mem_some_iff] at isNext
    subst isLast isNext
    exact finds.uses_of_found (List.mem_of_getElem? named) found

/-- The path of a search follows uses from the root to the current unit. -/
theorem Search.Sound.path_isChain (finds : FindsByName index) {search : Search units.length}
    (sound : Search.Sound index search) : search.path.IsChain (Uses units) := by
  have framesSound := sound.frames_sound
  cases top : search.frames with
  | nil =>
    rw [sound.path_eq, top]
    exact List.isChain_nil
  | cons frame rest =>
    rw [top] at framesSound
    rw [sound.path_of_top top]
    exact framesSound.2.isChain finds

/-- The waiting units from the first place of one of them on. -/
theorem cycleNames_append {first : Fin units.length} {before : List (Fin units.length)}
    (after : List (Fin units.length)) (notBefore : first ∉ before) :
    cycleNames units (before ++ first :: after) first
      = (first :: after ++ [first]).map fun position => (units.get position).name := by
  have skipped : ∀ other ∈ before, decide (other ≠ first) = true := by
    intro other member
    refine decide_eq_true fun same => notBefore ?_
    rwa [← same]
  rw [cycleNames, List.dropWhile_append_of_pos skipped, List.dropWhile_cons_of_neg (by simp)]

/-- Units that use each other in turn, the last of them the first one, form a cycle. -/
theorem isSimpleCycle_of_isChain (indexes : Indexes program index (List.finRange units.length))
    {first last : Fin units.length} {after : List (Fin units.length)} {span : Option Span}
    (distinct : (first :: after).Nodup) (chain : (first :: after).IsChain (Uses units))
    (isLast : (first :: after).getLast? = some last)
    (recorded : (units.get last).uses.get? (units.get first).name = some span)
    (isIncluded : ∀ position ∈ first :: after, Included units program stripUnused position) :
    IsSimpleCycle units program stripUnused
      ((first :: after ++ [first]).map fun position => (units.get position).name) span := by
  obtain ⟨before, openEq⟩ := List.getLast?_eq_some_iff.1 isLast
  have closes : Uses units last first :=
    List.mem_map.2 ⟨_, Table.get?_eq_some_iff.1 recorded, rfl⟩
  refine ⟨indexes.names_nodup, ?_, ?_, ?_, ?_, ?_, ?_⟩
  · simp
  · rw [List.map_append, List.map_singleton, List.getLast?_concat]
    rfl
  · rw [List.map_append, List.map_singleton, List.dropLast_concat]
    exact distinct.map_on fun _ _ _ _ same => indexes.eq_of_name_eq same
  · intro name member
    obtain ⟨position, onCycle, rfl⟩ := List.mem_map.1 member
    refine ⟨position, isIncluded position ?_, rfl⟩
    rcases List.mem_append.1 onCycle with isOpen | repeated
    · exact isOpen
    · rw [List.mem_singleton.1 repeated]
      exact List.mem_cons_self
  · rw [List.isChain_map]
    have circle : (first :: after ++ [first]).IsChain (Uses units) := by
      refine List.isChain_append.2 ⟨chain, List.isChain_singleton first, ?_⟩
      intro user atEnd next isNext
      rw [isLast, Option.mem_some_iff] at atEnd
      rw [List.head?_cons, Option.mem_some_iff] at isNext
      subst atEnd isNext
      exact closes
    exact circle.imp fun user used named => ⟨units.get user, List.get_mem units user, rfl, named⟩
  · refine ⟨before.map fun position => (units.get position).name, (units.get last).name,
      (units.get first).name, ?_, units.get last, List.get_mem units last, rfl, recorded⟩
    rw [openEq]
    simp

/-- A search that stops at a cycle reports a simple cycle. -/
theorem Search.Explores.isSimpleCycle
    (indexes : Indexes program index (List.finRange units.length)) {search : Search units.length}
    (explores : Search.Explores index (Included units program stripUnused) [] search)
    {cycle : List String} {span : Option Span}
    (refusal : Search.Refusal index search (.cyclicDependency cycle span)) :
    IsSimpleCycle units program stripUnused cycle span := by
  have sound := explores.sound
  cases refusal with
  | @cycle position needed place rest used top named found opened =>
    have nameEq := indexes.get?_eq_some_iff.1 found
    have onPath := (sound.open_iff needed).1 opened
    rw [Search.cycleTo_eq_cycleNames onPath]
    obtain ⟨before, after, pathEq, notBefore⟩ := List.eq_append_cons_of_mem onPath
    rw [pathEq, cycleNames_append after notBefore]
    -- what is open from the repeated unit on is an end of the path
    have distinct := sound.path_nodup
    have chain := sound.path_isChain indexes.findsByName
    have isLast : search.path.getLast? = some position := by
      rw [sound.path_of_top top, List.getLast?_concat]
    rw [pathEq] at distinct chain isLast
    rw [List.getLast?_append_cons] at isLast
    refine isSimpleCycle_of_isChain indexes (distinct.sublist (List.sublist_append_right _ _))
      (List.isChain_append.1 chain).2.1 isLast ?_ ?_
    · rw [nameEq]
      exact ObjectUnit.get?_uses (List.mem_of_getElem? named)
    · intro other isOpen
      apply explores.within
      have otherOnPath : other ∈ search.path := by
        rw [pathEq]
        exact List.mem_append_right _ isOpen
      rw [(sound.open_iff other).2 otherOnPath]
      decide

/-- A cycle that keeps units from being put in order is a simple cycle of units to link. -/
theorem reported_cycle_is_simple {cycle : List String} {span : Option Span}
    (failed : resolveOrder units program stripUnused = .error (.cyclicDependency cycle span)) :
    IsSimpleCycle units program stripUnused cycle span := by
  cases unordered_of_resolveOrder failed with
  | stopped indexes explores refusal => exact explores.isSimpleCycle indexes refusal

section Detour

/-- A unit with several units in its uses clause. -/
def detourUnit (name : String) (used : List String) : ObjectUnit :=
  (ObjectUnit.empty name .unit none).attemptAll
    (used.map fun other => .use other (some (.zero (name ++ ".pas"))))

/-- Two units that use each other under a third one, a unit that all of them use, and a unit
that uses itself. -/
def detourUnits : List ObjectUnit :=
  [detourUnit "Spare" ["Spare"], detourUnit "Base" [], detourUnit "Top" ["Base", "Left"],
    detourUnit "Left" ["Base", "Right"], detourUnit "Right" ["Base", "Left"]]

/-- A program that needs all of them but the one that uses itself. -/
def detourProgram : ObjectUnit :=
  (ObjectUnit.empty "Main" .program none).attemptAll [.use "Top" none]

end Detour

/-- The cycle starts below the root of the search, and the unit that uses itself is no part
of what is linked. -/
theorem reported_cycle_is_simple_detour :
    resolveOrder detourUnits detourProgram true
        = .error (.cyclicDependency ["Left", "Right", "Left"] (some (.zero "Right.pas")))
      ∧ IsSimpleCycle detourUnits detourProgram true ["Left", "Right", "Left"]
        (some (.zero "Right.pas")) := by
  have failed : resolveOrder detourUnits detourProgram true
      = .error (.cyclicDependency ["Left", "Right", "Left"] (some (.zero "Right.pas"))) := by cbv
  exact ⟨failed, reported_cycle_is_simple failed⟩

end Dependency

end UnitLinker
