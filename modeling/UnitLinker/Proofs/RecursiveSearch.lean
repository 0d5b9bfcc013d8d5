import Mathlib
import UnitLinker.ObjectUnit.Builder
import UnitLinker.Proofs.Mirrors

/-!
# The recursive search

The depth-first search as it is usually written: the visit of a unit visits its uses and
then puts the unit at the end of the order. It knows the units that wait for it and the
order so far, and nothing else: no marks, no places to resume from.

The search with an explicit stack computes the same. `resume` says in terms of the
recursion what the frames of a search still have to do, and no step of the search changes
what it says.
-/

namespace UnitLinker.Dependency

theorem unseen_concat_lt {count : Nat} {seen : List (Fin count)} {position : Fin count}
    (new : seen.contains position = false) : unseen (seen ++ [position]) < unseen seen := by
  have same : unseen (seen ++ [position]) = unseen (position :: seen) := by
    apply List.countP_congr
    intro other _
    simp [or_comm]
  rw [same]
  exact unseen_cons_lt new

section Recursion

variable (units : List ObjectUnit)

/-- The position of the first supplied unit of a name. -/
def named? (name : String) : Option (Fin units.length) :=
  (List.finRange units.length).find? fun position => (units.get position).name = name

/-- The names of the waiting units from one of them on, and that unit again. -/
def cycleNames (waiting : List (Fin units.length)) (first : Fin units.length) : List String :=
  (waiting.dropWhile (· ≠ first) ++ [first]).map fun position => (units.get position).name

/-- Visits a unit that is not in the order yet: its uses in the order of its clause, unless
they are in the order, and then the unit itself. The waiting units are those whose visits
have not ended, the root first. -/
def visitRecursively (waiting order : List (Fin units.length)) (position : Fin units.length) :
    Except LinkError (List (Fin units.length)) := do
  let unit := units.get position
  let order ← unit.usedNames.foldlM (fun order used =>
    match named? units used with
    | none => .error (.unresolvedUnit used unit.name (unit.useSpan used))
    | some needed =>
      if order.contains needed then .ok order
      else if _waits : (waiting ++ [position]).contains needed then
        .error (.cyclicDependency (cycleNames units (waiting ++ [position]) needed)
          (unit.useSpan used))
      else visitRecursively (waiting ++ [position]) order needed) order
  return order ++ [position]
termination_by unseen (waiting ++ [position])
decreasing_by exact unseen_concat_lt (Bool.eq_false_iff.2 _waits)

/-- Visits several roots one after the other, unless they are in the order by then. -/
def searchRecursively (roots : List (Fin units.length)) :
    Except LinkError (List (Fin units.length)) :=
  roots.foldlM (fun order root =>
    if order.contains root then .ok order else visitRecursively units [] order root) []

/-- Takes one use of a unit, which is the last one of the open units. -/
def takeUse (opened : List (Fin units.length)) (user : Fin units.length)
    (order : List (Fin units.length)) (used : String) : Except LinkError (List (Fin units.length)) :=
  match named? units used with
  | none => .error (.unresolvedUnit used (units.get user).name ((units.get user).useSpan used))
  | some needed =>
    if order.contains needed then .ok order
    else if opened.contains needed then
      .error (.cyclicDependency (cycleNames units opened needed) ((units.get user).useSpan used))
    else visitRecursively units opened order needed

/-- Takes the uses of a unit from a place in its clause on, and ends the visit of it. -/
def finishVisit (opened : List (Fin units.length)) (user : Fin units.length) (place : Nat)
    (order : List (Fin units.length)) : Except LinkError (List (Fin units.length)) := do
  let order ← ((units.get user).usedNames.drop place).foldlM (takeUse units opened user) order
  return order ++ [user]

/-- A visit takes all uses of the unit. -/
theorem visitRecursively_eq (waiting order : List (Fin units.length))
    (position : Fin units.length) : visitRecursively units waiting order position
      = finishVisit units (waiting ++ [position]) position 0 order := by
  rw [visitRecursively]
  rfl

/-- Ends the visits of all open units, the current one first. -/
def resume : List (Fin units.length × Nat) → List (Fin units.length) →
    Except LinkError (List (Fin units.length))
  | [], order => .ok order
  | (position, place) :: rest, order => do
    let order ← finishVisit units (((position, place) :: rest).map Prod.fst).reverse position place
      order
    resume rest order

end Recursion

variable {units : List ObjectUnit} {program : ObjectUnit} {index : Index units}

/-- In an index of all units the first unit of a name is the only one. -/
theorem Indexes.named?_eq (indexes : Indexes program index (List.finRange units.length))
    (name : String) : named? units name = index.get? name := by
  cases found : named? units name with
  | some position =>
    have nameEq := List.find?_some found
    exact (indexes.get?_eq_some_iff.2 (of_decide_eq_true nameEq)).symm
  | none =>
    symm
    rw [Option.eq_none_iff_forall_ne_some]
    intro position supplied
    have differs := List.find?_eq_none.1 found position (List.mem_finRange position)
    exact differs (decide_eq_true (indexes.get?_eq_some_iff.1 supplied))

namespace Search

variable {search next : Search units.length} {position needed : Fin units.length} {place : Nat}
  {rest : List (Fin units.length × Nat)} {used : String}

/-- The position of an open unit on the path is where the units before it end. -/
theorem cycleTo_eq_cycleNames (opened : needed ∈ search.path) :
    search.cycleTo needed = cycleNames units search.path needed := by
  have found : search.path.idxOf? needed = some (search.path.findIdx (· == needed)) :=
    List.findIdx?_eq_some_of_exists ⟨needed, opened, beq_self_eq_true needed⟩
  have dropped : search.path.dropWhile (· ≠ needed)
      = search.path.drop (search.path.findIdx (· == needed)) := by
    rw [List.dropWhile_eq_drop_findIdx_not]
    simp [BEq.beq]
  simp only [cycleTo, cycleNames, found, dropped, Option.getD_some]

/-- What is left of a clause from one of its names on. -/
theorem finishVisit_of_named {opened order : List (Fin units.length)}
    (named : (units.get position).usedNames[place]? = some used) :
    finishVisit units opened position place order = (do
      let order ← takeUse units opened position order used
      finishVisit units opened position (place + 1) order) := by
  obtain ⟨inside, nameEq⟩ := List.getElem?_eq_some_iff.1 named
  rw [finishVisit, List.drop_eq_getElem_cons inside, nameEq, List.foldlM_cons, bind_assoc]
  rfl

/-- A visit with no more uses puts the unit in order. -/
theorem finishVisit_of_ended {opened order : List (Fin units.length)}
    (ended : (units.get position).usedNames[place]? = none) :
    finishVisit units opened position place order = .ok (order ++ [position]) := by
  rw [finishVisit, List.drop_eq_nil_of_le (List.getElem?_eq_none_iff.1 ended)]
  rfl

/-- What a use of the current unit leads to, by the mark of the unit that is used. -/
theorem takeUse_eq (indexes : Indexes program index (List.finRange units.length))
    (sound : Sound index search) :
    takeUse units search.path position search.order used = match index.get? used with
      | none => .error (.unresolvedUnit used (units.get position).name
          ((units.get position).useSpan used))
      | some needed => match search.marks.get needed with
        | .done => .ok search.order
        | .unvisited => visitRecursively units search.path search.order needed
        | .inProgress => .error (.cyclicDependency (search.cycleTo needed)
            ((units.get position).useSpan used)) := by
  rw [takeUse, indexes.named?_eq]
  cases index.get? used with
  | none => rfl
  | some needed =>
    have finished : search.order.contains needed = true ↔ search.marks.get needed = .done := by
      rw [List.contains_iff_mem, sound.done_iff]
    have opened : search.path.contains needed = true ↔ search.marks.get needed = .inProgress := by
      rw [List.contains_iff_mem, sound.open_iff]
    cases mark : search.marks.get needed with
    | done => simp only [finished, mark, if_true]
    | unvisited => simp only [finished, opened, mark, reduceCtorEq, if_false]
    | inProgress =>
      simp only [finished, opened, mark, reduceCtorEq, if_false, if_true]
      rw [cycleTo_eq_cycleNames ((sound.open_iff needed).1 mark)]

/-- The visit of the current unit goes on with its next use. -/
theorem resume_of_named (sound : Sound index search)
    (top : search.frames = (position, place) :: rest)
    (named : (units.get position).usedNames[place]? = some used) :
    resume units search.frames search.order = (do
      let order ← takeUse units search.path position search.order used
      resume units ((position, place + 1) :: rest) order) := by
  have pathEq := sound.path_eq
  rw [top] at pathEq ⊢
  rw [resume, ← pathEq, finishVisit_of_named named, bind_assoc, pathEq]
  rfl

/-- A step of the search does not change what is left to do. -/
theorem resume_move (indexes : Indexes program index (List.finRange units.length))
    (sound : Sound index search) (moved : Move index search next) :
    resume units next.frames next.order = resume units search.frames search.order := by
  cases moved with
  | finish top ended =>
    rw [top, resume, finishVisit_of_ended ended]
    rfl
  | skip top named found done =>
    rw [resume_of_named sound top named, takeUse_eq indexes sound, found]
    simp only [done]
    rfl
  | descend top named found new =>
    rw [resume_of_named sound top named, takeUse_eq indexes sound, found]
    simp only [new, enter]
    rw [resume, visitRecursively_eq, sound.path_eq, top]
    simp only [List.map_cons, List.reverse_cons]

/-- A step that ends the search with an error does what is left to do with that error. -/
theorem resume_refusal (indexes : Indexes program index (List.finRange units.length))
    (sound : Sound index search) {error : LinkError} (refused : Refusal index search error) :
    resume units search.frames search.order = .error error := by
  cases refused with
  | missing top named absent =>
    rw [resume_of_named sound top named, takeUse_eq indexes sound, absent]
    rfl
  | cycle top named found opened =>
    rw [resume_of_named sound top named, takeUse_eq indexes sound, found]
    simp only [opened]
    rfl

/-- A run does what is left to do. -/
theorem run_eq_resume (indexes : Indexes program index (List.finRange units.length))
    (sound : Sound index search) :
    (search.run index).map Search.order = resume units search.frames search.order := by
  fun_induction run index search with
  | case1 search error stepped =>
    rw [resume_refusal indexes sound (refusal_of_step stepped)]
    rfl
  | case2 search stepped =>
    rw [frames_eq_nil_of_step stepped]
    rfl
  | case3 search next stepped ih =>
    have moved := move_of_step stepped
    rw [ih (sound.move moved), resume_move indexes sound moved]

/-- A sound search in which no unit is open, and its order. -/
structure Idle (index : Index units) (search : Search units.length)
    (order : List (Fin units.length)) : Prop where
  sound : Sound index search
  frames : search.frames = []
  order_eq : search.order = order

theorem idle_start : Idle index (start units.length) [] := ⟨sound_start, rfl, rfl⟩

/-- A run that starts with one open unit is a recursive visit of it. -/
theorem Idle.run_enter (indexes : Indexes program index (List.finRange units.length))
    {order : List (Fin units.length)} (idle : Idle index search order)
    (new : search.marks.get position = .unvisited) :
    SameOutcome (Idle index) ((search.enter position).run index)
      (visitRecursively units [] order position) := by
  have entered : Sound index (search.enter position) := idle.sound.enter_root idle.frames new
  have recursion : visitRecursively units [] order position
      = ((search.enter position).run index).map Search.order := by
    rw [run_eq_resume indexes entered]
    simp only [enter, idle.frames, idle.order_eq, resume, visitRecursively_eq]
    exact (bind_pure _).symm
  rw [recursion]
  rcases run_cases (fun _ _ sound moved => Sound.move sound moved) _ entered with
    ⟨final, ran, sound, ended⟩ | ⟨last, error, ran, _, _⟩
  · rw [ran]
    exact .given ⟨sound, ended, rfl⟩
  · rw [ran]
    exact .refused error

/-- A root that is not in the order of an idle search was not visited. -/
theorem Idle.unvisited_iff {order : List (Fin units.length)} (idle : Idle index search order) :
    search.marks.get position = .unvisited ↔ order.contains position = false := by
  rw [← idle.order_eq, ← Bool.not_eq_true, List.contains_iff_mem, ← idle.sound.done_iff]
  constructor
  · intro new done
    rw [new] at done
    cases done
  · intro notDone
    by_contra visited
    exact notDone ((idle.sound.done_iff position).2
      (idle.sound.done_of_visited idle.frames visited))

/-- A visit between searches has the outcome of the recursive one. -/
theorem Idle.visit (indexes : Indexes program index (List.finRange units.length))
    {order : List (Fin units.length)} (idle : Idle index search order)
    (root : Fin units.length) :
    SameOutcome (Idle index) (search.visit index root)
      (if order.contains root then .ok order else visitRecursively units [] order root) := by
  unfold Search.visit
  by_cases new : search.marks.get root = .unvisited
  · rw [if_pos new, if_neg (Bool.eq_false_iff.1 (idle.unvisited_iff.1 new))]
    exact idle.run_enter indexes new
  · rw [if_neg new, if_pos (Bool.not_eq_false _ ▸ mt idle.unvisited_iff.2 new)]
    exact .given idle

/-- Visiting roots one after the other comes to the same end in both searches. -/
theorem visitAll_eq_searchRecursively
    (indexes : Indexes program index (List.finRange units.length))
    (roots : List (Fin units.length)) :
    SameOutcome (Idle index) (roots.foldlM (Search.visit index) (.start _))
      (searchRecursively units roots) := by
  have runs : SameOutcome (Idle index) (roots.foldlM (Search.visit index) (.start _))
      ((roots.map id).foldlM (fun order root =>
        if order.contains root then .ok order else visitRecursively units [] order root) []) := by
    apply SameOutcome.foldlM_map
    · intro search order root idle
      exact idle.visit indexes root
    · exact idle_start
  rwa [List.map_id] at runs

end Search

/-- Once the supplied units are indexed and the program's own uses are supplied, a program
is resolved to exactly what the recursive search finds from the units to link as roots, in
supplied order: the same order or the same error. What is not a program is refused. -/
theorem resolveOrder_eq_recursive (stripUnused : Bool)
    (indexed : indexUnits units program = .ok index)
    (supplied : ∀ name ∈ program.usedNames, name ∈ units.map ObjectUnit.name) :
    ∃ roots : List (Fin units.length), roots.SortedLT
      ∧ (∀ position, position ∈ roots ↔ Included units program stripUnused position)
      ∧ resolveOrder units program stripUnused
        = if program.kind = .program then searchRecursively units roots
          else .error (.notAProgram program.name) := by
  have indexes : Indexes program index (List.finRange units.length) := indexes_empty.addAll indexed
  refine ⟨included index program stripUnused, ClosedPart.sortedLT_included index program _,
    fun position => indexes.mem_included, ?_⟩
  by_cases isProgram : program.kind = .program
  · have prepared : prepare units program = .ok index :=
      prepare_eq_ok.2 ⟨isProgram, indexed, fun name named =>
        indexes.contains_iff.2 (supplied name named)⟩
    have same := Search.visitAll_eq_searchRecursively indexes (included index program stripUnused)
    rw [if_pos isProgram, resolveOrder, prepared]
    exact same.bind_pure_eq fun _ _ idle => idle.order_eq
  · rw [if_neg isProgram, resolveOrder, prepare, if_pos isProgram]
    rfl

section Parity

/-- A unit that uses another one. -/
def parityUnit (name other : String) : ObjectUnit :=
  (ObjectUnit.empty name .unit none).attemptAll [.use other (some (.zero (name ++ ".pas")))]

/-- Two units that use each other. -/
def parityUnits : List ObjectUnit := [parityUnit "Even" "Odd", parityUnit "Odd" "Even"]

/-- A program that uses the second of them. -/
def parityProgram : ObjectUnit :=
  (ObjectUnit.empty "Main" .program none).attemptAll [.use "Odd" none]

end Parity

/-- The search starts with the unit that was supplied first, and the recursion names the
same cycle with the position of the use that closes it. -/
theorem resolveOrder_eq_recursive_parity :
    ∃ index, indexUnits parityUnits parityProgram = .ok index
      ∧ (∀ name ∈ parityProgram.usedNames, name ∈ parityUnits.map ObjectUnit.name)
      ∧ ∃ roots : List (Fin parityUnits.length),
        (∀ position, position ∈ roots ↔ Included parityUnits parityProgram true position)
        ∧ searchRecursively parityUnits roots
          = .error (.cyclicDependency ["Even", "Odd", "Even"] (some (.zero "Odd.pas"))) := by
  have isOk : (indexUnits parityUnits parityProgram).isOk = true := by cbv
  obtain ⟨index, indexed⟩ := exists_ok_of_isOk isOk
  have supplied : ∀ name ∈ parityProgram.usedNames, name ∈ parityUnits.map ObjectUnit.name := by
    have clause : parityProgram.usedNames = ["Odd"] := by cbv
    have names : parityUnits.map ObjectUnit.name = ["Even", "Odd"] := by cbv
    simp [clause, names]
  obtain ⟨roots, _, rootsIff, resolved⟩ := resolveOrder_eq_recursive true indexed supplied
  have refused : resolveOrder parityUnits parityProgram true
      = .error (.cyclicDependency ["Even", "Odd", "Even"] (some (.zero "Odd.pas"))) := by cbv
  have isProgram : parityProgram.kind = .program := by cbv
  rw [refused, if_pos isProgram] at resolved
  exact ⟨index, indexed, supplied, roots, rootsIff, resolved.symm⟩

end UnitLinker.Dependency
