import UnitLinker.Dependency.Reach

/-!
# Dependency order

Units are put after all units that they use by a depth-first search with an
explicit stack. Roots are visited in the order in which units were supplied and
uses in the order of their clause, so equal inputs give equal orders. The search
stops at the first use of a unit that is missing or still open.
-/

namespace UnitLinker.Dependency

/-- How far the search is with a unit. -/
inductive Mark where
  | unvisited
  /-- On the current path. -/
  | inProgress
  /-- In the order, after all units it uses. -/
  | done
  deriving DecidableEq, Repr

/-- The state of the search. -/
structure Search (count : Nat) where
  marks : Vector Mark count
  /-- The open units from the root to the current one. -/
  path : List (Fin count)
  /-- The open units from the current one to the root, each with the position in
  its uses clause to go on from. -/
  frames : List (Fin count × Nat)
  /-- The finished units, first finished first. -/
  order : List (Fin count)
  deriving DecidableEq, Repr

namespace Search

/-- Nothing visited. -/
def start (count : Nat) : Search count := ⟨Vector.replicate count .unvisited, [], [], []⟩

/-- Opens a unit on top of the current path. -/
def enter {count : Nat} (search : Search count) (position : Fin count) : Search count :=
  ⟨search.marks.set position .inProgress position.isLt, search.path ++ [position],
    (position, 0) :: search.frames, search.order⟩

/-- How many units are unvisited. -/
def unvisited {count : Nat} (search : Search count) : Nat :=
  (List.finRange count).countP fun position => search.marks.get position = .unvisited

variable {units : List ObjectUnit}

/-- How many steps the open units can still take without opening another one. -/
def openWork (units : List ObjectUnit) (frames : List (Fin units.length × Nat)) : Nat :=
  frames.foldr (fun frame work => (units.get frame.1).usedNames.length - frame.2 + 1 + work) 0

/-- The names on the path from a unit to the current one, and that unit again. -/
def cycleTo (search : Search units.length) (position : Fin units.length) : List String :=
  let first := (search.path.idxOf? position).getD 0
  (search.path.drop first ++ [position]).map fun position => (units.get position).name

/-- The next state: the current unit follows its next use or is finished.
There is no next state when no unit is open. -/
def step (index : Index units) (search : Search units.length) :
    Except LinkError (Option (Search units.length)) :=
  match search.frames with
  | [] => .ok none
  | (position, next) :: rest =>
    let unit := units.get position
    match unit.usedNames[next]? with
    | none => .ok (some ⟨search.marks.set position .done position.isLt, search.path.dropLast, rest,
        search.order ++ [position]⟩)
    | some used =>
      match index.get? used with
      | none => .error (.unresolvedUnit used unit.name (unit.useSpan used))
      | some needed =>
        let advanced : Search units.length :=
          ⟨search.marks, search.path, (position, next + 1) :: rest, search.order⟩
        match search.marks.get needed with
        | .done => .ok (some advanced)
        | .unvisited => .ok (some (advanced.enter needed))
        | .inProgress => .error (.cyclicDependency (search.cycleTo needed) (unit.useSpan used))

/-- Setting a mark changes that mark alone. -/
theorem get_set_mark {count : Nat} (marks : Vector Mark count) (position other : Fin count)
    (mark : Mark) : (marks.set position mark position.isLt).get other
      = if position = other then mark else marks.get other := by
  have read : ∀ vector : Vector Mark count, vector.get other = vector[other.val] := fun _ => rfl
  rw [read, read, Vector.getElem_set]
  simp only [Fin.ext_iff]

/-- Marking a unit as visited leaves no more units unvisited. -/
theorem countP_set_le {count : Nat} (marks : Vector Mark count) (position : Fin count) (mark : Mark)
    (visited : mark ≠ .unvisited) :
    ((List.finRange count).countP fun other =>
        (marks.set position mark position.isLt).get other = .unvisited)
      ≤ (List.finRange count).countP fun other => marks.get other = .unvisited := by
  apply List.countP_mono_left
  intro other _ stays
  rw [get_set_mark] at stays
  by_cases same : position = other
  · simp [same, visited] at stays
  · simpa [same] using stays

/-- Opening an unvisited unit leaves fewer units unvisited. -/
theorem unvisited_enter_lt {count : Nat} {search : Search count} {position : Fin count}
    (new : search.marks.get position = .unvisited) :
    (search.enter position).unvisited < search.unvisited := by
  refine countP_lt_countP ?_ position (List.mem_finRange position) (by simpa using new) ?_
  · intro other stays
    by_cases same : position = other
    · simp [enter, get_set_mark, same] at stays
    · simpa [enter, get_set_mark, same] using stays
  · simp [enter, get_set_mark]

/-- A step opens a unit, or leaves the open units less work. -/
theorem step_decreases {index : Index units} {search next : Search units.length}
    (stepped : search.step index = .ok (some next)) :
    Prod.Lex (· < ·) (· < ·) (next.unvisited, openWork units next.frames)
      (search.unvisited, openWork units search.frames) := by
  unfold step at stepped
  split at stepped
  · cases stepped
  · rename_i position taken rest framesEq
    simp only at stepped
    split at stepped
    · cases stepped
      have le := countP_set_le search.marks position .done (by decide)
      rw [framesEq]
      rcases Nat.lt_or_eq_of_le le with lt | eq
      · exact Prod.Lex.left _ _ lt
      · simp only [unvisited] at eq ⊢
        rw [eq]
        apply Prod.Lex.right
        simp only [openWork, List.foldr_cons]
        omega
    · rename_i used usedEq
      split at stepped
      · cases stepped
      · split at stepped
        · cases stepped
          rw [framesEq]
          apply Prod.Lex.right
          have inside : taken < (units.get position).usedNames.length :=
            (List.getElem?_eq_some_iff.1 usedEq).1
          simp only [openWork, List.foldr_cons]
          omega
        · cases stepped
          exact Prod.Lex.left _ _ (unvisited_enter_lt ‹_›)
        · cases stepped

/-- Runs the search until no unit is open. -/
def run (index : Index units) (search : Search units.length) :
    Except LinkError (Search units.length) :=
  match _stepped : search.step index with
  | .error error => .error error
  | .ok none => .ok search
  | .ok (some next) => run index next
termination_by (search.unvisited, openWork units search.frames)
decreasing_by exact step_decreases _stepped

/-- Visits a root and all that it needs, unless it was visited before. -/
def visit (index : Index units) (search : Search units.length) (root : Fin units.length) :
    Except LinkError (Search units.length) :=
  if search.marks.get root = .unvisited then (search.enter root).run index else .ok search

end Search

/-- The indices of the units to link, each after all units that it uses. The
program is not among them: it always comes last. -/
def resolveOrder (units : List ObjectUnit) (program : ObjectUnit) (stripUnused : Bool) :
    Except LinkError (List (Fin units.length)) := do
  let index ← prepare units program
  let search ← (included index program stripUnused).foldlM (Search.visit index) (.start _)
  return search.order

end UnitLinker.Dependency
