import Mathlib
import UnitLinker.Proofs.UsesGraph

/-!
# The state of the dependency search

What is true of the marks, the path, the frames and the order at every moment of
the search. `Move` and `Refusal` list what one step can do; every invariant is
shown for the moves, and a run keeps what moves keep.
-/

namespace UnitLinker.Dependency.Search

variable {units : List ObjectUnit} {index : Index units} {search next : Search units.length}

/-- One step of the search that does not end it. -/
inductive Move (index : Index units) (search : Search units.length) :
    Search units.length → Prop where
  /-- The clause of the current unit is used up. -/
  | finish {position : Fin units.length} {place : Nat} {rest : List (Fin units.length × Nat)}
      (top : search.frames = (position, place) :: rest)
      (ended : (units.get position).usedNames[place]? = none) :
      Move index search ⟨search.marks.set position .done position.isLt, search.path.dropLast, rest,
        search.order ++ [position]⟩
  /-- The next use is finished already. -/
  | skip {position needed : Fin units.length} {place : Nat} {rest : List (Fin units.length × Nat)}
      {used : String} (top : search.frames = (position, place) :: rest)
      (named : (units.get position).usedNames[place]? = some used)
      (found : index.get? used = some needed) (done : search.marks.get needed = .done) :
      Move index search ⟨search.marks, search.path, (position, place + 1) :: rest, search.order⟩
  /-- The next use is visited for the first time. -/
  | descend {position needed : Fin units.length} {place : Nat}
      {rest : List (Fin units.length × Nat)} {used : String}
      (top : search.frames = (position, place) :: rest)
      (named : (units.get position).usedNames[place]? = some used)
      (found : index.get? used = some needed) (new : search.marks.get needed = .unvisited) :
      Move index search (enter ⟨search.marks, search.path, (position, place + 1) :: rest,
        search.order⟩ needed)

/-- One step that ends the search with an error. -/
inductive Refusal (index : Index units) (search : Search units.length) : LinkError → Prop where
  | missing {position : Fin units.length} {place : Nat} {rest : List (Fin units.length × Nat)}
      {used : String} (top : search.frames = (position, place) :: rest)
      (named : (units.get position).usedNames[place]? = some used)
      (absent : index.get? used = none) :
      Refusal index search (.unresolvedUnit used (units.get position).name
        ((units.get position).useSpan used))
  | cycle {position needed : Fin units.length} {place : Nat}
      {rest : List (Fin units.length × Nat)} {used : String}
      (top : search.frames = (position, place) :: rest)
      (named : (units.get position).usedNames[place]? = some used)
      (found : index.get? used = some needed) (opened : search.marks.get needed = .inProgress) :
      Refusal index search (.cyclicDependency (search.cycleTo needed)
        ((units.get position).useSpan used))

/-- A search that has ended has nothing on its stack. -/
theorem frames_eq_nil_of_step (stepped : search.step index = .ok none) : search.frames = [] := by
  unfold step at stepped
  split at stepped
  · assumption
  · simp only at stepped
    split at stepped
    · cases stepped
    · split at stepped
      · cases stepped
      · split at stepped <;> cases stepped

/-- A step that goes on is one of the moves. -/
theorem move_of_step (stepped : search.step index = .ok (some next)) : Move index search next := by
  unfold step at stepped
  split at stepped
  · cases stepped
  · rename_i position place rest top
    simp only at stepped
    split at stepped
    · rename_i ended
      cases stepped
      exact .finish top ended
    · rename_i used named
      split at stepped
      · cases stepped
      · rename_i needed found
        split at stepped
        · rename_i done
          cases stepped
          exact .skip top named found done
        · rename_i new
          cases stepped
          exact .descend top named found new
        · cases stepped

/-- A step that fails is one of the refusals. -/
theorem refusal_of_step {error : LinkError} (stepped : search.step index = .error error) :
    Refusal index search error := by
  unfold step at stepped
  split at stepped
  · cases stepped
  · rename_i position place rest top
    simp only at stepped
    split at stepped
    · cases stepped
    · rename_i used named
      split at stepped
      · rename_i absent
        cases stepped
        exact .missing top named absent
      · rename_i needed found
        split at stepped
        · cases stepped
        · cases stepped
        · rename_i opened
          cases stepped
          exact .cycle top named found opened

/-- A run ends with nothing open or with a refusal, in a state that has every
property which moves keep. -/
theorem run_cases {property : Search units.length → Prop}
    (kept : ∀ search next, property search → Move index search next → property next)
    (search : Search units.length) (holds : property search) :
    (∃ final, search.run index = .ok final ∧ property final ∧ final.frames = [])
      ∨ ∃ last error, search.run index = .error error ∧ property last
        ∧ Refusal index last error := by
  fun_induction run index search with
  | case1 search error stepped =>
    exact Or.inr ⟨search, error, rfl, holds, refusal_of_step stepped⟩
  | case2 search stepped => exact Or.inl ⟨search, rfl, holds, frames_eq_nil_of_step stepped⟩
  | case3 search next stepped ih => exact ih (kept search next holds (move_of_step stepped))

/-- The uses of a unit before a place in its clause are finished. -/
def FinishedUpTo (index : Index units) (order : List (Fin units.length))
    (position : Fin units.length) (place : Nat) : Prop :=
  ∀ earlier < place, ∀ used, (units.get position).usedNames[earlier]? = some used →
    ∃ needed ∈ order, index.get? used = some needed

/-- Frames under an open unit. Each of them has taken one use more than are
finished, and that use is the unit above it. -/
def Awaits (index : Index units) (order : List (Fin units.length)) :
    Fin units.length → List (Fin units.length × Nat) → Prop
  | _, [] => True
  | above, (position, place) :: rest =>
    (∃ taken used, place = taken + 1 ∧ (units.get position).usedNames[taken]? = some used
      ∧ index.get? used = some above ∧ FinishedUpTo index order position taken)
      ∧ Awaits index order position rest

/-- The frames of a search: the uses that the current unit has taken are all
finished, and each other unit waits for the one above it. -/
def FramesSound (index : Index units) (order : List (Fin units.length)) :
    List (Fin units.length × Nat) → Prop
  | [] => True
  | (position, place) :: rest =>
    FinishedUpTo index order position place ∧ Awaits index order position rest

/-- All uses of a finished unit were finished before it. -/
def OrderClosed (index : Index units) (order : List (Fin units.length)) : Prop :=
  ∀ before position after, order = before ++ position :: after →
    ∀ used ∈ (units.get position).usedNames, ∃ needed ∈ before, index.get? used = some needed

/-- The invariant of the search. -/
structure Sound (index : Index units) (search : Search units.length) : Prop where
  path_eq : search.path = (search.frames.map Prod.fst).reverse
  path_nodup : search.path.Nodup
  open_iff : ∀ position, search.marks.get position = .inProgress ↔ position ∈ search.path
  done_iff : ∀ position, search.marks.get position = .done ↔ position ∈ search.order
  order_nodup : search.order.Nodup
  order_closed : OrderClosed index search.order
  frames_sound : FramesSound index search.order search.frames

/-- What was finished stays so when the order grows. -/
theorem FinishedUpTo.mono {order later : List (Fin units.length)} {position : Fin units.length}
    {place : Nat} (finished : FinishedUpTo index order position place) (grows : order ⊆ later) :
    FinishedUpTo index later position place := by
  intro earlier before used named
  obtain ⟨needed, member, found⟩ := finished earlier before used named
  exact ⟨needed, grows member, found⟩

/-- Taking one more use that is finished. -/
theorem FinishedUpTo.succ {order : List (Fin units.length)} {position needed : Fin units.length}
    {place : Nat} {used : String} (finished : FinishedUpTo index order position place)
    (named : (units.get position).usedNames[place]? = some used)
    (found : index.get? used = some needed) (member : needed ∈ order) :
    FinishedUpTo index order position (place + 1) := by
  intro earlier before other otherNamed
  rcases Nat.lt_succ_iff_lt_or_eq.1 before with lower | rfl
  · exact finished earlier lower other otherNamed
  · rw [named] at otherNamed
    cases otherNamed
    exact ⟨needed, member, found⟩

/-- What is awaited stays so when the order grows. -/
theorem Awaits.mono {order later : List (Fin units.length)} {above : Fin units.length}
    {rest : List (Fin units.length × Nat)} (awaits : Awaits index order above rest)
    (grows : order ⊆ later) : Awaits index later above rest := by
  induction rest generalizing above with
  | nil => trivial
  | cons frame rest ih =>
    obtain ⟨⟨taken, used, placeEq, named, found, finished⟩, others⟩ := awaits
    exact ⟨⟨taken, used, placeEq, named, found, finished.mono grows⟩, ih others⟩

/-- Once the unit above is finished, the frame under it is the current one. -/
theorem Awaits.resume {order : List (Fin units.length)} {above : Fin units.length}
    {rest : List (Fin units.length × Nat)} (awaits : Awaits index order above rest) :
    FramesSound index (order ++ [above]) rest := by
  cases rest with
  | nil => trivial
  | cons frame rest =>
    obtain ⟨⟨taken, used, placeEq, named, found, finished⟩, others⟩ := awaits
    have grows : order ⊆ order ++ [above] := List.subset_append_left _ _
    refine ⟨?_, others.mono grows⟩
    rw [placeEq]
    exact (finished.mono grows).succ named found (List.mem_append_right _ List.mem_cons_self)

/-- A unit may be put in order after all that it uses. -/
theorem OrderClosed.snoc {order : List (Fin units.length)} {position : Fin units.length}
    (closed : OrderClosed index order)
    (finished : ∀ used ∈ (units.get position).usedNames,
      ∃ needed ∈ order, index.get? used = some needed) :
    OrderClosed index (order ++ [position]) := by
  intro before other after orderEq
  rcases List.eq_nil_or_concat after with rfl | ⟨inner, last, rfl⟩
  · obtain ⟨rfl, same⟩ := List.append_inj' orderEq rfl
    cases same
    exact finished
  · have inside : order ++ [position] = (before ++ other :: inner) ++ [last] := by
      simpa using orderEq
    exact closed before other inner (List.append_inj' inside rfl).1

/-- The path leads to the unit on top of the stack. -/
theorem Sound.path_of_top {position : Fin units.length} {place : Nat}
    {rest : List (Fin units.length × Nat)} (sound : Sound index search)
    (top : search.frames = (position, place) :: rest) :
    search.path = (rest.map Prod.fst).reverse ++ [position] := by
  rw [sound.path_eq, top, List.map_cons, List.reverse_cons]

theorem Sound.top_mem {position : Fin units.length} {place : Nat}
    {rest : List (Fin units.length × Nat)} (sound : Sound index search)
    (top : search.frames = (position, place) :: rest) : position ∈ search.path := by
  rw [sound.path_of_top top]
  exact List.mem_append_right _ List.mem_cons_self

/-- A unit on the path is not in order yet. -/
theorem Sound.not_mem_order {position : Fin units.length} (sound : Sound index search)
    (opened : position ∈ search.path) : position ∉ search.order := by
  intro finished
  have isDone := (sound.done_iff position).2 finished
  rw [(sound.open_iff position).2 opened] at isDone
  cases isDone

/-- A unit all of whose uses are taken goes from the path to the order. -/
theorem Sound.finish {position : Fin units.length} {place : Nat}
    {rest : List (Fin units.length × Nat)} (sound : Sound index search)
    (top : search.frames = (position, place) :: rest)
    (ended : (units.get position).usedNames[place]? = none) :
    Sound index ⟨search.marks.set position .done position.isLt, search.path.dropLast, rest,
      search.order ++ [position]⟩ := by
  have pathEq := sound.path_of_top top
  have restEq : search.path.dropLast = (rest.map Prod.fst).reverse := by
    rw [pathEq, List.dropLast_concat]
  have notBelow : position ∉ (rest.map Prod.fst).reverse := by
    have nodup := sound.path_nodup
    rw [pathEq, List.nodup_append] at nodup
    intro below
    exact nodup.2.2 position below position List.mem_cons_self rfl
  have framesSound := sound.frames_sound
  rw [top] at framesSound
  obtain ⟨finished, awaits⟩ := framesSound
  refine ⟨restEq, ?_, ?_, ?_, ?_, ?_, awaits.resume⟩
  · exact sound.path_nodup.sublist (List.dropLast_sublist _)
  · intro other
    rw [get_set_mark, restEq]
    by_cases same : position = other
    · subst same
      simpa using notBelow
    · rw [if_neg same, sound.open_iff, pathEq, List.mem_append, List.mem_singleton]
      exact or_iff_left (Ne.symm same)
  · intro other
    rw [get_set_mark, List.mem_append, List.mem_singleton]
    by_cases same : position = other
    · simp [same]
    · rw [if_neg same, sound.done_iff]
      exact (or_iff_left (Ne.symm same)).symm
  · rw [List.nodup_append]
    refine ⟨sound.order_nodup, List.nodup_singleton _, ?_⟩
    intro first member second last
    rw [List.mem_singleton.1 last]
    rintro rfl
    exact sound.not_mem_order (sound.top_mem top) member
  · refine sound.order_closed.snoc fun used member => ?_
    -- the clause has no name at `place`, so every name of it stands before
    obtain ⟨earlier, inside, named⟩ := List.mem_iff_getElem.1 member
    have before : earlier < place := Nat.lt_of_lt_of_le inside (List.getElem?_eq_none_iff.1 ended)
    exact finished earlier before used (by rw [List.getElem?_eq_getElem inside, named])

/-- A use of a unit that is in order is passed over. -/
theorem Sound.skip {position needed : Fin units.length} {place : Nat}
    {rest : List (Fin units.length × Nat)} {used : String} (sound : Sound index search)
    (top : search.frames = (position, place) :: rest)
    (named : (units.get position).usedNames[place]? = some used)
    (found : index.get? used = some needed) (done : search.marks.get needed = .done) :
    Sound index ⟨search.marks, search.path, (position, place + 1) :: rest, search.order⟩ := by
  have framesSound := sound.frames_sound
  rw [top] at framesSound
  obtain ⟨finished, awaits⟩ := framesSound
  refine ⟨?_, sound.path_nodup, sound.open_iff, sound.done_iff, sound.order_nodup,
    sound.order_closed, ?_, awaits⟩
  · rw [sound.path_eq, top]
    rfl
  · exact finished.succ named found ((sound.done_iff needed).1 done)

/-- Opening a unit on top of the path, for the use that the frame below it took
last or as a root. -/
theorem Sound.enter {needed : Fin units.length} {frames : List (Fin units.length × Nat)}
    (sound : Sound index search) (new : search.marks.get needed = .unvisited)
    (samePath : frames.map Prod.fst = search.frames.map Prod.fst)
    (awaits : Awaits index search.order needed frames) :
    Sound index (Search.enter ⟨search.marks, search.path, frames, search.order⟩ needed) := by
  have notOpen : needed ∉ search.path := by
    intro opened
    rw [(sound.open_iff needed).2 opened] at new
    cases new
  refine ⟨?_, ?_, ?_, ?_, sound.order_nodup, sound.order_closed, ?_, awaits⟩
  · simp only [Search.enter, List.map_cons, List.reverse_cons, samePath]
    rw [sound.path_eq]
  · simp only [Search.enter]
    rw [List.nodup_append]
    refine ⟨sound.path_nodup, List.nodup_singleton _, ?_⟩
    intro first member second last
    rw [List.mem_singleton.1 last]
    rintro rfl
    exact notOpen member
  · intro other
    simp only [Search.enter]
    rw [get_set_mark, List.mem_append, List.mem_singleton]
    by_cases same : needed = other
    · simp [same]
    · rw [if_neg same, sound.open_iff]
      exact (or_iff_left (Ne.symm same)).symm
  · intro other
    simp only [Search.enter]
    rw [get_set_mark]
    by_cases same : needed = other
    · subst same
      have notDone : needed ∉ search.order := by
        intro finished
        rw [(sound.done_iff needed).2 finished] at new
        cases new
      simpa using notDone
    · rw [if_neg same, sound.done_iff]
  · intro earlier before
    exact absurd before (Nat.not_lt_zero _)

/-- Opening a root while nothing is open. -/
theorem Sound.enter_root {root : Fin units.length} (sound : Sound index search)
    (idle : search.frames = []) (new : search.marks.get root = .unvisited) :
    Sound index (search.enter root) := by
  apply sound.enter new rfl
  rw [idle]
  trivial

/-- Every move keeps a search sound. -/
theorem Sound.move (sound : Sound index search) (moved : Move index search next) :
    Sound index next := by
  cases moved with
  | finish top ended => exact sound.finish top ended
  | skip top named found done => exact sound.skip top named found done
  | descend top named found new =>
    have framesSound := sound.frames_sound
    rw [top] at framesSound
    refine sound.enter new (by rw [top]; rfl) ⟨⟨_, _, rfl, named, found, framesSound.1⟩, ?_⟩
    exact framesSound.2

/-- A search that has not started is sound. -/
theorem sound_start : Sound index (start units.length) where
  path_eq := rfl
  path_nodup := List.nodup_nil
  open_iff := by simp [start]
  done_iff := by simp [start]
  order_nodup := List.nodup_nil
  order_closed := by
    intro before position after orderEq
    simp [start] at orderEq
  frames_sound := trivial

/-- With nothing open, every unit is finished or was never visited. -/
theorem Sound.done_of_visited {position : Fin units.length} (sound : Sound index search)
    (idle : search.frames = []) (visited : search.marks.get position ≠ .unvisited) :
    position ∈ search.order := by
  rw [← sound.done_iff]
  cases mark : search.marks.get position with
  | unvisited => exact absurd mark visited
  | inProgress =>
    rw [sound.open_iff, sound.path_eq, idle] at mark
    cases mark
  | done => rfl

end UnitLinker.Dependency.Search
