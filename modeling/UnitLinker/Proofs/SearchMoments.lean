import Mathlib
import UnitLinker.Proofs.Cycles

/-!
# Moments of the search

A search is between two visits, or within one at the beginning of a turn of its loop. At
every such moment its marks, path, frames and order tell the same story: the open units are
those on the path and those of the frames, the finished ones are those in the order, and
what a frame has taken from its clause is finished, except for the use that the frame above
it was opened for. A use that closes a cycle is therefore always found on the path.
-/

namespace UnitLinker.Dependency.Search

variable {units : List ObjectUnit} {index : Index units} {search : Search units.length}

/-- The moments between visits: nothing was visited, or the last visit came to its end. -/
inductive Between (index : Index units) : Search units.length → Prop where
  | start : Between index (start units.length)
  | visited {search final : Search units.length} {root : Fin units.length}
      (before : Between index search) (ended : search.visit index root = .ok final) :
      Between index final

/-- The moments at which the loop of a visit begins a turn: the root was just opened, or the
turn before left something to do. -/
inductive During (index : Index units) : Search units.length → Prop where
  | entered {search : Search units.length} {root : Fin units.length}
      (before : Between index search) (new : search.marks.get root = .unvisited) :
      During index (search.enter root)
  | turned {search next : Search units.length} (earlier : During index search)
      (stepped : search.step index = .ok (some next)) : During index next

/-- The uses of a unit before a place in its clause are all supplied and finished. -/
def TakenDone (search : Search units.length) (position : Fin units.length) (place : Nat) : Prop :=
  ∀ earlier < place, ∀ used, (units.get position).usedNames[earlier]? = some used →
    ∃ needed, (units.get needed).name = used ∧ search.marks.get needed = .done

/-- The parts of a search agree with each other and with the uses clauses. -/
structure Consistent (search : Search units.length) : Prop where
  /-- The path begins with the root, the frames with the current unit. -/
  path_eq : search.path = (search.frames.map Prod.fst).reverse
  path_nodup : search.path.Nodup
  mem_path : ∀ position, position ∈ search.path ↔ search.marks.get position = .inProgress
  path_uses : search.path.IsChain (Uses units)
  order_nodup : search.order.Nodup
  mem_order : ∀ position, position ∈ search.order ↔ search.marks.get position = .done
  uses_before : ∀ before position after, search.order = before ++ position :: after →
    ∀ used ∈ (units.get position).usedNames, ∃ needed ∈ before, (units.get needed).name = used
  current_taken : ∀ position place rest, search.frames = (position, place) :: rest →
    TakenDone search position place
  /-- The last use that a lower frame has taken is the unit of the frame above it. -/
  waiting_taken : ∀ higher above position place rest,
    search.frames = higher ++ above :: (position, place) :: rest →
      ∃ taken, place = taken + 1
        ∧ (units.get position).usedNames[taken]? = some (units.get above.1).name
        ∧ TakenDone search position taken

/-- If the next use of the current unit is open, it has a place on the path, and the cycle
that is reported goes from there to the end of the path. -/
def FindsCycles (index : Index units) (search : Search units.length) : Prop :=
  ∀ position place rest used needed, search.frames = (position, place) :: rest →
    (units.get position).usedNames[place]? = some used → index.get? used = some needed →
    search.marks.get needed = .inProgress →
    ∃ first, search.path.idxOf? needed = some first
      ∧ search.step index = .error (.cyclicDependency
        ((search.path.drop first ++ [needed]).map fun position => (units.get position).name)
        ((units.get position).useSpan used))

/-- A visit that comes to its end leaves nothing open. -/
theorem Sound.visited {root : Fin units.length} {final : Search units.length}
    (sound : Sound index search) (idle : search.frames = [])
    (ended : search.visit index root = .ok final) : Sound index final ∧ final.frames = [] := by
  unfold visit at ended
  by_cases new : search.marks.get root = .unvisited
  · rw [if_pos new] at ended
    rcases run_cases (fun _ _ holds moved => Sound.move holds moved) _
        (sound.enter_root idle new) with ⟨last, ran, soundLast, idleLast⟩ | ⟨_, _, ran, _, _⟩
    · rw [ran] at ended
      cases ended
      exact ⟨soundLast, idleLast⟩
    · rw [ran] at ended
      cases ended
  · rw [if_neg new] at ended
    cases ended
    exact ⟨sound, idle⟩

/-- Between searches, the state is sound and nothing is open. -/
theorem Between.sound (between : Between index search) :
    Sound index search ∧ search.frames = [] := by
  induction between with
  | start => exact ⟨sound_start, rfl⟩
  | visited _ ended ih => exact ih.1.visited ih.2 ended

/-- During a search, the state is sound. -/
theorem During.sound (during : During index search) : Sound index search := by
  induction during with
  | entered before new => exact before.sound.1.enter_root before.sound.2 new
  | turned _ stepped ih => exact ih.move (move_of_step stepped)

/-- What waits under a unit also waits under every waiting unit. -/
theorem Awaits.below {order : List (Fin units.length)} {above : Fin units.length}
    {higher rest : List (Fin units.length × Nat)} {frame : Fin units.length × Nat}
    (awaits : Awaits index order above (higher ++ frame :: rest)) :
    Awaits index order frame.1 rest := by
  induction higher generalizing above with
  | nil => exact awaits.2
  | cons _ higher ih => exact ih awaits.2

/-- A unit that waits is waiting for the one above it. -/
theorem FramesSound.awaits {order : List (Fin units.length)}
    {higher rest : List (Fin units.length × Nat)} {above : Fin units.length × Nat}
    (sound : FramesSound index order (higher ++ above :: rest)) :
    Awaits index order above.1 rest := by
  cases higher with
  | nil => exact sound.2
  | cons current higher => exact sound.2.below

/-- Uses that were taken lead to units in order. -/
theorem Sound.takenDone (finds : FindsByName index) (sound : Sound index search)
    {position : Fin units.length} {place : Nat}
    (finished : FinishedUpTo index search.order position place) :
    TakenDone search position place := by
  intro earlier before used named
  obtain ⟨needed, member, found⟩ := finished earlier before used named
  exact ⟨needed, (finds _ _).1 found, (sound.done_iff needed).2 member⟩

/-- A sound state is consistent. -/
theorem Sound.consistent (finds : FindsByName index) (sound : Sound index search) :
    Consistent search where
  path_eq := sound.path_eq
  path_nodup := sound.path_nodup
  mem_path position := (sound.open_iff position).symm
  path_uses := sound.path_isChain finds
  order_nodup := sound.order_nodup
  mem_order position := (sound.done_iff position).symm
  uses_before := by
    intro before position after orderEq used member
    obtain ⟨needed, earlier, found⟩ := sound.order_closed before position after orderEq used member
    exact ⟨needed, earlier, (finds _ _).1 found⟩
  current_taken := by
    intro position place rest top
    have framesSound := sound.frames_sound
    rw [top] at framesSound
    exact sound.takenDone finds framesSound.1
  waiting_taken := by
    intro higher above position place rest framesEq
    have framesSound := sound.frames_sound
    rw [framesEq] at framesSound
    obtain ⟨⟨taken, used, placeEq, named, found, finished⟩, _⟩ := framesSound.awaits
    refine ⟨taken, placeEq, ?_, sound.takenDone finds finished⟩
    rw [named, (finds _ _).1 found]

/-- In a sound state, a use of an open unit closes a cycle. -/
theorem Sound.findsCycles (sound : Sound index search) : FindsCycles index search := by
  intro position place rest used needed top named found opened
  -- an open unit is on the path, so the look-up that `cycleTo` starts from finds it
  have onPath := (sound.open_iff needed).1 opened
  have isFirst : search.path.idxOf? needed = some (search.path.findIdx (· == needed)) :=
    List.findIdx?_eq_some_of_exists ⟨needed, onPath, beq_self_eq_true needed⟩
  refine ⟨_, isFirst, ?_⟩
  simp only [step, top, named, found, opened, cycleTo, isFirst, Option.getD_some]

/-- At every moment of a search over units that are found by their names, its parts agree,
and a use that closes a cycle is found on the path. Between visits nothing is open. -/
theorem search_state_consistent (finds : FindsByName index) :
    (∀ search, During index search → Consistent search ∧ FindsCycles index search)
      ∧ ∀ search, Between index search → Consistent search ∧ search.path = []
        ∧ ∀ position, search.marks.get position ≠ .inProgress := by
  refine ⟨fun search during => ?_, fun search between => ?_⟩
  · exact ⟨during.sound.consistent finds, during.sound.findsCycles⟩
  · obtain ⟨sound, idle⟩ := between.sound
    have pathEq : search.path = [] := by
      rw [sound.path_eq, idle]
      rfl
    refine ⟨sound.consistent finds, pathEq, fun position opened => ?_⟩
    rw [sound.open_iff, pathEq] at opened
    cases opened

section Detour

/-- A position among the units of the detour. -/
def detourAt (place : Fin 5) : Fin detourUnits.length := place

/-- Where the units of the detour stand. -/
def detourIndex : Index detourUnits :=
  .ofList [("Spare", detourAt 0), ("Base", detourAt 1), ("Top", detourAt 2), ("Left", detourAt 3),
    ("Right", detourAt 4)]

end Detour

/-- After a visit of the unit that all others use, a search from the unit above the cycle
comes to a moment with three open units. The next use is that of the second one. -/
theorem search_state_consistent_detour :
    indexUnits detourUnits detourProgram = .ok detourIndex
      ∧ ∃ search, During detourIndex search
        ∧ search.path.map (fun position => (detourUnits.get position).name)
          = ["Top", "Left", "Right"]
        ∧ search.order.map (fun position => (detourUnits.get position).name) = ["Base"]
        ∧ search.step detourIndex
          = .error (.cyclicDependency ["Left", "Right", "Left"] (some (.zero "Right.pas")))
        ∧ Consistent search ∧ FindsCycles detourIndex search := by
  have indexed : indexUnits detourUnits detourProgram = .ok detourIndex := by decide +kernel
  have finds : FindsByName detourIndex := (indexes_empty.addAll indexed).findsByName
  have visitBase : (start detourUnits.length).visit detourIndex (detourAt 1)
      = .ok ⟨#v[.unvisited, .done, .unvisited, .unvisited, .unvisited], [], [], [detourAt 1]⟩ := by
    cbv
  have enterTop : During detourIndex (enter
      ⟨#v[.unvisited, .done, .unvisited, .unvisited, .unvisited], [], [], [detourAt 1]⟩
      (detourAt 2)) := .entered (.visited .start visitBase) rfl
  have atLeft := During.turned (During.turned enterTop rfl) rfl
  have atRight := During.turned (During.turned atLeft rfl) rfl
  have atCycle := During.turned atRight rfl
  have holds := (search_state_consistent finds).1 _ atCycle
  exact ⟨indexed, _, atCycle, by decide +kernel, by decide +kernel, by decide +kernel, holds.1,
    holds.2⟩

end UnitLinker.Dependency.Search
