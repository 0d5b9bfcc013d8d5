import Mathlib
import UnitLinker.Proofs.SearchMoments

/-!
# The loops over the uses graph

Two loops follow uses clauses: the worklist of reachable units, and the search of a visit.
Both add to what they have to do while they do it, and the clauses may name units that are
missing, that were seen before or that lead back to where a loop came from.

What is left to do is nevertheless a number that each turn lowers by one: what waits, and
what is still to be found in the clauses of the units that were never taken up. So both
loops end, and it is known after how many turns. The worklist ends with the least set of
units that has the uses of the program and the uses of its members.
-/

namespace UnitLinker.Dependency

/-- A number of turns of a loop lead from one state to another one. -/
inductive Leads {State : Type} (turn : State → State → Prop) : Nat → State → State → Prop where
  | stay {state : State} : Leads turn 0 state state
  | go {turns : Nat} {first second last : State} (taken : turn first second)
      (others : Leads turn turns second last) : Leads turn (turns + 1) first last

/-- If a turn lowers what is left by one, the turns are what is done in the end. -/
theorem Leads.turns_add_work {State : Type} {turn : State → State → Prop} {invariant : State → Prop}
    {work : State → Nat} {turns : Nat} {first last : State}
    (lowers : ∀ now later, invariant now → turn now later →
      invariant later ∧ work later + 1 = work now)
    (leads : Leads turn turns first last) (holds : invariant first) :
    turns + work last = work first := by
  induction leads with
  | stay => exact Nat.zero_add _
  | go taken _ ih =>
    obtain ⟨kept, lower⟩ := lowers _ _ holds taken
    have rest := ih kept
    omega

section Reach

variable {count : Nat}

/-- A state of the worklist. -/
structure Worklist (count : Nat) where
  /-- The positions to take, the next one first. -/
  pending : List (Fin count)
  /-- The positions that were taken. -/
  reached : List (Fin count)

namespace Worklist

variable {uses : Fin count → List (Fin count)} {now later : Worklist count}

/-- One turn of the worklist. -/
inductive Move (uses : Fin count → List (Fin count)) : Worklist count → Worklist count → Prop where
  /-- The position was taken before. -/
  | known {position : Fin count} {rest reached : List (Fin count)} (again : position ∈ reached) :
      Move uses ⟨position :: rest, reached⟩ ⟨rest, reached⟩
  /-- The position is taken for the first time and adds its uses. -/
  | reach {position : Fin count} {rest reached : List (Fin count)} (new : position ∉ reached) :
      Move uses ⟨position :: rest, reached⟩ ⟨(uses position).reverse ++ rest, position :: reached⟩

/-- What is left to take: all that is pending, and the uses of all that was not reached. -/
def work (uses : Fin count → List (Fin count)) (now : Worklist count) : Nat :=
  now.pending.length + ∑ position with position ∉ now.reached, (uses position).length

/-- A turn of the worklist does one piece of the work. -/
theorem work_move (moved : Move uses now later) : later.work uses + 1 = now.work uses := by
  cases moved with
  | known again =>
    simp only [work, List.length_cons]
    omega
  | @reach position rest reached new =>
    have fewer : Finset.univ.filter (· ∉ position :: reached)
        = (Finset.univ.filter (· ∉ reached)).erase position := by
      ext other
      simp
    have split := Finset.add_sum_erase (Finset.univ.filter (· ∉ reached))
      (fun other => (uses other).length) (by simpa using new)
    simp only [work, fewer, List.length_append, List.length_reverse, List.length_cons]
    omega

/-- The worklist cannot go on for ever. -/
theorem wellFounded_move (uses : Fin count → List (Fin count)) :
    WellFounded fun later now => Move uses now later := by
  refine Subrelation.wf ?_ (measure (work uses)).wf
  intro later now moved
  have lower := work_move moved
  exact Nat.lt_of_succ_le (Nat.le_of_eq lower)

/-- The worklist is worked off turn by turn. -/
theorem leads_reachFrom (uses : Fin count → List (Fin count)) (pending reached : List (Fin count)) :
    ∃ turns, Leads (Move uses) turns ⟨pending, reached⟩ ⟨[], reachFrom uses pending reached⟩ := by
  fun_induction reachFrom uses pending reached with
  | case1 => exact ⟨0, .stay⟩
  | case2 reached position rest known ih =>
    obtain ⟨turns, leads⟩ := ih
    exact ⟨turns + 1, .go (.known (List.contains_iff_mem.1 known)) leads⟩
  | case3 reached position rest new ih =>
    obtain ⟨turns, leads⟩ := ih
    exact ⟨turns + 1, .go (.reach (mt List.contains_iff_mem.2 new)) leads⟩

/-- Each first position and each use of what is reached costs one turn. -/
theorem turns_eq {turns : Nat} {pending reached : List (Fin count)}
    (leads : Leads (Move uses) turns ⟨pending, []⟩ ⟨[], reached⟩) :
    turns = pending.length + ∑ position with position ∈ reached, (uses position).length := by
  have done := leads.turns_add_work (fun _ _ _ moved => ⟨trivial, work_move moved⟩) trivial
  -- the uses of what is never reached are left in the beginning and in the end
  have split := Finset.sum_filter_add_sum_filter_not Finset.univ (· ∈ reached)
    fun position => (uses position).length
  simp only [work, List.length_nil, List.not_mem_nil, not_false_eq_true, Finset.filter_true]
    at done
  omega

end Worklist

variable {units : List ObjectUnit} {program : ObjectUnit} {index : Index units}

/-- Sets that have all units which the program uses and all units which their members use. -/
def HoldsUses (units : List ObjectUnit) (program : ObjectUnit)
    (positions : Set (Fin units.length)) : Prop :=
  (∀ position, (units.get position).name ∈ program.usedNames → position ∈ positions)
    ∧ ∀ user ∈ positions, ∀ used, Uses units user used → used ∈ positions

/-- The supplied units that the unit at a position uses. -/
def usesAt (index : Index units) (position : Fin units.length) : List (Fin units.length) :=
  suppliedUses index (units.get position)

/-- The worklist cannot go on without end. From the uses of a program it comes to its end
after one turn for each of them and each use of what it reached, and this is the least set
that holds all uses. -/
structure ReachesLeast (index : Index units) (program : ObjectUnit) : Prop where
  wellFounded : WellFounded fun later now => Worklist.Move (usesAt index) now later
  leads : Leads (Worklist.Move (usesAt index))
    ((suppliedUses index program).length
      + ∑ position with position ∈ reached index program, (usesAt index position).length)
    ⟨(suppliedUses index program).reverse, []⟩ ⟨[], reached index program⟩
  least : IsLeast {positions | HoldsUses units program positions}
    {position | position ∈ reached index program}

/-- The worklist ends with the least set that has the uses of the program and is closed. -/
theorem FindsByName.reachesLeast (finds : FindsByName index) (program : ObjectUnit) :
    ReachesLeast index program where
  wellFounded := Worklist.wellFounded_move (usesAt index)
  leads := by
    obtain ⟨turns, leads⟩ := Worklist.leads_reachFrom (usesAt index)
      (suppliedUses index program).reverse []
    have counted := Worklist.turns_eq leads
    rw [List.length_reverse] at counted
    rw [counted] at leads
    exact leads
  least := by
    constructor
    · constructor
      · intro position named
        exact finds.mem_reached.2 (.direct named)
      · intro user member used named
        exact finds.mem_reached.2 (.through (finds.mem_reached.1 member) named)
    · intro positions holds position member
      induction finds.mem_reached.1 member with
      | direct named => exact holds.1 _ named
      | through reachable named ih => exact holds.2 _ (ih (finds.mem_reached.2 reachable)) _ named

end Reach

namespace Search

variable {units : List ObjectUnit} {index : Index units} {search next : Search units.length}

/-- One turn of the loop of a visit. -/
def Follows (index : Index units) (now later : Search units.length) : Prop :=
  now.step index = .ok (some later)

/-- How the loop of a visit ends in a state: because nothing is open, or with an error. -/
inductive Ends (index : Index units) (last : Search units.length) :
    Except LinkError (Search units.length) → Prop where
  | finished (nothing : last.step index = .ok none) : Ends index last (.ok last)
  | refused {error : LinkError} (stopped : last.step index = .error error) :
      Ends index last (.error error)

/-- The clauses and ends of all units that were not visited. -/
def unvisitedWork (units : List ObjectUnit) (marks : Vector Mark units.length) : Nat :=
  ∑ position with marks.get position = .unvisited, ((units.get position).usedNames.length + 1)

/-- What is left to do: what the open units have still to take and to end, and what the
units that were not visited will have. -/
def work (search : Search units.length) : Nat :=
  openWork units search.frames + unvisitedWork units search.marks

/-- A unit that gets another mark is no longer among the unvisited ones. -/
theorem filter_set_mark {count : Nat} (marks : Vector Mark count) (position : Fin count)
    {mark : Mark} (visited : mark ≠ .unvisited) :
    (Finset.univ.filter fun other =>
        (marks.set position mark position.isLt).get other = .unvisited)
      = (Finset.univ.filter fun other => marks.get other = .unvisited).erase position := by
  ext other
  rw [Finset.mem_erase, Finset.mem_filter, Finset.mem_filter, get_set_mark]
  by_cases same : position = other
  · simp [same, visited]
  · simp [same, Ne.symm same]

/-- Opening a unit takes its work over from the unvisited units. -/
theorem work_enter {position : Fin units.length} (new : search.marks.get position = .unvisited) :
    (search.enter position).work = search.work := by
  have taken : (units.get position).usedNames.length + 1
      + unvisitedWork units (search.marks.set position .inProgress position.isLt)
        = unvisitedWork units search.marks := by
    have isNew : position ∈ Finset.univ.filter fun other => search.marks.get other = .unvisited :=
      Finset.mem_filter.2 ⟨Finset.mem_univ _, new⟩
    rw [unvisitedWork, filter_set_mark search.marks position (by decide)]
    exact Finset.add_sum_erase _ (fun other => (units.get other).usedNames.length + 1) isNew
  simp only [work, enter, openWork, List.foldr_cons]
  omega

/-- A step of the search does one piece of the work. -/
theorem Sound.work_move (sound : Sound index search) (moved : Move index search next) :
    next.work + 1 = search.work := by
  cases moved with
  | @finish position place rest top ended =>
    -- an open unit is none of the unvisited ones, so its end only takes its frame away
    have opened := (sound.open_iff position).2 (sound.top_mem top)
    have same : unvisitedWork units (search.marks.set position .done position.isLt)
        = unvisitedWork units search.marks := by
      rw [unvisitedWork, filter_set_mark search.marks position (by decide),
        Finset.erase_eq_of_notMem (by simp [opened])]
      rfl
    have allTaken := List.getElem?_eq_none_iff.1 ended
    simp only [work, same, top, openWork, List.foldr_cons]
    omega
  | @skip position needed place rest used top named found done =>
    have inside := (List.getElem?_eq_some_iff.1 named).1
    simp only [work, top, openWork, List.foldr_cons]
    omega
  | @descend position needed place rest used top named found new =>
    have inside := (List.getElem?_eq_some_iff.1 named).1
    have opened : (Search.enter ⟨search.marks, search.path, (position, place + 1) :: rest, search.order⟩
        needed).work
          = work ⟨search.marks, search.path, (position, place + 1) :: rest, search.order⟩ :=
      work_enter new
    rw [opened]
    simp only [work, top, openWork, List.foldr_cons]
    omega

/-- No state at all has an endless run. States that no search comes to may lose more than one
piece of work in a turn, so this rests on the pair of numbers by which the loop is defined. -/
theorem wellFounded_follows (index : Index units) :
    WellFounded fun later now => Follows index now later := by
  refine Subrelation.wf ?_ (InvImage.wf (fun search : Search units.length =>
    (search.unvisited, openWork units search.frames)) (Prod.lex Nat.lt_wfRel Nat.lt_wfRel).wf)
  exact step_decreases

/-- A run goes on turn by turn until it ends. -/
theorem leads_run (index : Index units) (search : Search units.length) :
    ∃ turns last, Leads (Follows index) turns search last ∧ Ends index last (search.run index) := by
  fun_induction run index search with
  | case1 search error stepped => exact ⟨0, search, .stay, .refused stepped⟩
  | case2 search stepped => exact ⟨0, search, .stay, .finished stepped⟩
  | case3 search next stepped ih =>
    obtain ⟨turns, last, leads, ended⟩ := ih
    exact ⟨turns + 1, last, .go stepped leads, ended⟩

/-- The visit of a new root ends, and its turns are what it did of the work that was left. -/
theorem Between.leads_visit (between : Between index search) {root : Fin units.length}
    (new : search.marks.get root = .unvisited) :
    ∃ turns last, Leads (Follows index) turns (search.enter root) last
      ∧ Ends index last (search.visit index root) ∧ turns + last.work = search.work := by
  obtain ⟨turns, last, leads, ended⟩ := leads_run index (search.enter root)
  have entered := between.sound.1.enter_root between.sound.2 new
  have done := leads.turns_add_work (fun now later sound follows =>
    ⟨sound.move (move_of_step follows), sound.work_move (move_of_step follows)⟩) entered
  refine ⟨turns, last, leads, ?_, ?_⟩
  · rw [visit, if_pos new]
    exact ended
  · rw [done, work_enter new]

end Search

/-- Whatever the clauses of units with distinct names are, both loops end. The worklist ends
with the least set of units that holds the uses of the program and of its members, and the
visit of any new root ends with a result or an error after any visits that succeeded. -/
theorem graph_loops_end (units : List ObjectUnit) (program : ObjectUnit)
    (distinct : (units.map ObjectUnit.name).Nodup) :
    (∃ index : Index units, FindsByName index)
      ∧ ∀ index : Index units, FindsByName index →
        ReachesLeast index program
          ∧ (WellFounded fun later now => Search.Follows index now later)
          ∧ ∀ search root, Search.Between index search → search.marks.get root = .unvisited →
            ∃ turns last, Leads (Search.Follows index) turns (search.enter root) last
              ∧ Search.Ends index last (search.visit index root)
              ∧ turns + last.work = search.work := by
  refine ⟨exists_findsByName distinct, fun index finds => ?_⟩
  refine ⟨finds.reachesLeast program, Search.wellFounded_follows index, ?_⟩
  intro search root between new
  exact between.leads_visit new

section Tangle

/-- A unit that uses itself and a unit that uses it, which also uses a missing one; a unit
that needs nothing, and one that only needs that. -/
def tangleUnits : List ObjectUnit :=
  [detourUnit "Knot" ["Knot", "Thread"], detourUnit "Thread" ["Knot", "Spool", "Lost"],
    detourUnit "Spool" [], detourUnit "Loom" ["Spool"]]

/-- A program that uses two of the units and a missing one. -/
def tangleProgram : ObjectUnit :=
  (ObjectUnit.empty "Main" .program none).attemptAll
    [.use "Thread" none, .use "Gone" none, .use "Spool" none]

/-- A position among the units of the tangle. -/
def tangleAt (place : Fin 4) : Fin tangleUnits.length := place

/-- Where the units of the tangle stand. -/
def tangleIndex : Index tangleUnits :=
  .ofList [("Knot", tangleAt 0), ("Thread", tangleAt 1), ("Spool", tangleAt 2), ("Loom", tangleAt 3)]

end Tangle

/-- The worklist takes six turns: two for the program and two for each of the tangled units.
After a visit of the last unit seven turns would do for the other ones; the visit of the
second unit ends before, at the unit that uses itself. -/
theorem graph_loops_end_tangle :
    (tangleUnits.map ObjectUnit.name).Nodup
      ∧ indexUnits tangleUnits tangleProgram = .ok tangleIndex
      ∧ Leads (Worklist.Move (usesAt tangleIndex)) 6 ⟨[tangleAt 2, tangleAt 1], []⟩
        ⟨[], [tangleAt 0, tangleAt 1, tangleAt 2]⟩
      ∧ IsLeast {positions | HoldsUses tangleUnits tangleProgram positions}
        {tangleAt 0, tangleAt 1, tangleAt 2}
      ∧ ∃ search, Search.Between tangleIndex search ∧ search.order = [tangleAt 2, tangleAt 3]
        ∧ ∃ turns last, Leads (Search.Follows tangleIndex) turns (search.enter (tangleAt 1)) last
          ∧ Search.Ends tangleIndex last
            (.error (.cyclicDependency ["Knot", "Knot"] (some (.zero "Knot.pas"))))
          ∧ turns + last.work = 7 := by
  have distinct : (tangleUnits.map ObjectUnit.name).Nodup := by decide +kernel
  have indexed : indexUnits tangleUnits tangleProgram = .ok tangleIndex := by decide +kernel
  have finds : FindsByName tangleIndex := (indexes_empty.addAll indexed).findsByName
  obtain ⟨reaches, _, visits⟩ :=
    (graph_loops_end tangleUnits tangleProgram distinct).2 tangleIndex finds
  have result : reached tangleIndex tangleProgram = [tangleAt 0, tangleAt 1, tangleAt 2] := by cbv
  have needs : suppliedUses tangleIndex tangleProgram = [tangleAt 1, tangleAt 2] := by
    decide +kernel
  have uses : ∑ position with position ∈ [tangleAt 0, tangleAt 1, tangleAt 2],
      (usesAt tangleIndex position).length = 4 := by decide +kernel
  have leads := reaches.leads
  have least := reaches.least
  rw [needs, result, uses] at leads
  rw [result] at least
  refine ⟨distinct, indexed, leads, ?_, ?_⟩
  · have same : {position | position ∈ [tangleAt 0, tangleAt 1, tangleAt 2]}
        = ({tangleAt 0, tangleAt 1, tangleAt 2} : Set (Fin tangleUnits.length)) := by
      ext position
      simp
    rwa [same] at least
  · have visitLoom : (Search.start tangleUnits.length).visit tangleIndex (tangleAt 3)
        = .ok ⟨#v[.unvisited, .unvisited, .done, .done], [], [], [tangleAt 2, tangleAt 3]⟩ := by
      cbv
    have between := Search.Between.visited .start visitLoom
    obtain ⟨turns, last, taken, ended, counted⟩ := visits _ (tangleAt 1) between rfl
    refine ⟨_, between, rfl, turns, last, taken, ?_, ?_⟩
    · have visitThread : Search.visit tangleIndex
          ⟨#v[.unvisited, .unvisited, .done, .done], [], [], [tangleAt 2, tangleAt 3]⟩ (tangleAt 1)
            = .error (.cyclicDependency ["Knot", "Knot"] (some (.zero "Knot.pas"))) := by cbv
      rwa [visitThread] at ended
    · rw [counted]
      decide +kernel

end UnitLinker.Dependency
