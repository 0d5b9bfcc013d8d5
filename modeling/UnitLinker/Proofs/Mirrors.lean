import Mathlib
import UnitLinker.Proofs.DependencyOrder

/-!
# Searches in step

A search among all units that starts in a part of them that is closed under uses goes
the same way as a search among the units of the part alone. The search reads the
declarations of units, so the units of the part need not be the very units at their
places: the section that a builder works on may differ.
-/

namespace UnitLinker

/-- The unit with its builder back in the body. -/
def ObjectUnit.reset (unit : ObjectUnit) : ObjectUnit := { unit with active := .body }

namespace Dependency

variable {part whole : List ObjectUnit} {program : ObjectUnit} {index : Index part}
  {wholeIndex : Index whole}

/-- A part of some units, with the place of each of its units among all of them. It
contains all units that the program or one of its own units uses. -/
structure ClosedPart (part whole : List ObjectUnit) (program : ObjectUnit) where
  place : Fin part.length ↪o Fin whole.length
  reset_place : ∀ position, (whole.get (place position)).reset = (part.get position).reset
  closed : ∀ user ∈ program :: part, ∀ position, (whole.get position).name ∈ user.usedNames →
    ∃ inner, place inner = position

namespace ClosedPart

variable (within : ClosedPart part whole program)

/-- What does not depend on the section that a builder works on is the same at a place. -/
theorem view_place {α : Type} (view : ObjectUnit → α)
    (unaffected : ∀ unit, view unit.reset = view unit) (position : Fin part.length) :
    view (whole.get (within.place position)) = view (part.get position) := by
  rw [← unaffected, within.reset_place, unaffected]

theorem kind_place (position : Fin part.length) :
    (whole.get (within.place position)).kind = (part.get position).kind :=
  within.view_place ObjectUnit.kind (fun _ => rfl) position

theorem name_place (position : Fin part.length) :
    (whole.get (within.place position)).name = (part.get position).name :=
  within.view_place ObjectUnit.name (fun _ => rfl) position

theorem span_place (position : Fin part.length) :
    (whole.get (within.place position)).span = (part.get position).span :=
  within.view_place ObjectUnit.span (fun _ => rfl) position

theorem usedNames_place (position : Fin part.length) :
    (whole.get (within.place position)).usedNames = (part.get position).usedNames :=
  within.view_place ObjectUnit.usedNames (fun _ => rfl) position

theorem useSpan_place (position : Fin part.length) (used : String) :
    (whole.get (within.place position)).useSpan used = (part.get position).useSpan used :=
  within.view_place (·.useSpan used) (fun _ => rfl) position

/-- A name in a clause of the part is found among the units of the part or not at all. -/
theorem get?_eq (indexes : Indexes program index (List.finRange part.length))
    (wholeIndexes : Indexes program wholeIndex (List.finRange whole.length)) {user : ObjectUnit}
    (isUser : user ∈ program :: part) {used : String} (named : used ∈ user.usedNames) :
    wholeIndex.get? used = (index.get? used).map within.place := by
  cases found : index.get? used with
  | some inner =>
    refine wholeIndexes.get?_eq_some_iff.2 ?_
    rw [within.name_place]
    exact indexes.get?_eq_some_iff.1 found
  | none =>
    rw [Option.map_none, Option.eq_none_iff_forall_ne_some]
    intro position wholeFound
    have nameEq := wholeIndexes.get?_eq_some_iff.1 wholeFound
    rcases within.closed user isUser position (nameEq ▸ named) with ⟨inner, rfl⟩
    rw [within.name_place] at nameEq
    rw [indexes.get?_eq_some_iff.2 nameEq] at found
    cases found

end ClosedPart

namespace Search

/-- A search among all units that is where a search in a part of them is. -/
structure Mirrors (place : Fin part.length ↪o Fin whole.length) (search : Search part.length)
    (mirror : Search whole.length) : Prop where
  marks : ∀ position, mirror.marks.get (place position) = search.marks.get position
  path : mirror.path = search.path.map place
  frames : mirror.frames = search.frames.map (Prod.map place id)
  order : mirror.order = search.order.map place

/-- A run makes a step and goes on unless the search has ended. -/
theorem run_eq {units : List ObjectUnit} (index : Index units) (search : Search units.length) :
    search.run index = match search.step index with
      | .error error => .error error
      | .ok none => .ok search
      | .ok (some next) => next.run index := by
  rw [run]
  split <;> simp_all

namespace Mirrors

variable {within : ClosedPart part whole program} {place : Fin part.length ↪o Fin whole.length}
  {search : Search part.length} {mirror : Search whole.length}

/-- Searches that have not started mirror each other. -/
theorem start (place : Fin part.length ↪o Fin whole.length) :
    Mirrors place (.start part.length) (.start whole.length) where
  marks := by simp [Search.start]
  path := rfl
  frames := rfl
  order := rfl

/-- Setting the mark of a unit in both searches. -/
theorem marks_set (mirrors : Mirrors place search mirror) (position : Fin part.length) (mark : Mark)
    (other : Fin part.length) :
    (mirror.marks.set (place position) mark (place position).isLt).get (place other)
      = (search.marks.set position mark position.isLt).get other := by
  rw [get_set_mark, get_set_mark, mirrors.marks]
  simp only [place.injective.eq_iff]

/-- Entering corresponding units keeps the mirror. -/
theorem enter (mirrors : Mirrors place search mirror) (position : Fin part.length) :
    Mirrors place (search.enter position) (mirror.enter (place position)) where
  marks := mirrors.marks_set position .inProgress
  path := by simp [Search.enter, mirrors.path]
  frames := by simp [Search.enter, mirrors.frames]
  order := mirrors.order

/-- Mirrored searches report the same cycles. -/
theorem cycleTo (mirrors : Mirrors within.place search mirror) (position : Fin part.length) :
    mirror.cycleTo (within.place position) = search.cycleTo position := by
  have samePlace : mirror.path.idxOf? (within.place position) = search.path.idxOf? position := by
    rw [mirrors.path, List.idxOf?, List.findIdx?_map, List.idxOf?]
    congr 1
    funext other
    simp [within.place.injective.eq_iff]
  simp only [Search.cycleTo, samePlace]
  have moved : ∀ first, mirror.path.drop first ++ [within.place position]
      = (search.path.drop first ++ [position]).map within.place := by
    intro first
    rw [mirrors.path, List.map_append, List.map_singleton, List.map_drop]
  rw [moved, List.map_map]
  exact List.map_congr_left fun position _ => within.name_place position

/-- Both searches take the same step. -/
theorem step (indexes : Indexes program index (List.finRange part.length))
    (wholeIndexes : Indexes program wholeIndex (List.finRange whole.length))
    (mirrors : Mirrors within.place search mirror) :
    SameOutcome (Option.Rel (Mirrors within.place)) (search.step index)
      (mirror.step wholeIndex) := by
  have framesEq := mirrors.frames
  unfold Search.step
  rw [framesEq]
  cases search.frames with
  | nil => exact .given .none
  | cons frame rest =>
    obtain ⟨position, next⟩ := frame
    simp only [List.map_cons, Prod.map, id_eq, within.name_place, within.usedNames_place,
      within.useSpan_place]
    cases named : (part.get position).usedNames[next]? with
    | none =>
      refine .given (.some ⟨mirrors.marks_set position .done, ?_, rfl, ?_⟩)
      · rw [mirrors.path, List.map_dropLast]
      · rw [mirrors.order, List.map_append, List.map_singleton]
    | some used =>
      have isUser := List.mem_cons_of_mem program (List.get_mem part position)
      simp only [within.get?_eq indexes wholeIndexes isUser (List.mem_of_getElem? named)]
      cases index.get? used with
      | none => exact .refused _
      | some needed =>
        simp only [Option.map_some, mirrors.marks]
        have advanced : Mirrors within.place
            ⟨search.marks, search.path, (position, next + 1) :: rest, search.order⟩
            ⟨mirror.marks, mirror.path, (within.place position, next + 1)
              :: rest.map (Prod.map within.place id), mirror.order⟩ :=
          ⟨mirrors.marks, mirrors.path, rfl, mirrors.order⟩
        cases search.marks.get needed with
        | done => exact .given (.some advanced)
        | unvisited => exact .given (.some (advanced.enter needed))
        | inProgress =>
          simp only [mirrors.cycleTo]
          exact .refused _

/-- Both searches come to the same end. -/
theorem run (indexes : Indexes program index (List.finRange part.length))
    (wholeIndexes : Indexes program wholeIndex (List.finRange whole.length))
    (mirrors : Mirrors within.place search mirror) :
    SameOutcome (Mirrors within.place) (search.run index) (mirror.run wholeIndex) := by
  fun_induction Search.run index search generalizing mirror with
  | case1 search error stepped =>
    have same := mirrors.step indexes wholeIndexes
    rw [stepped] at same
    rw [run_eq, same.eq_error]
    exact .refused error
  | case2 search stepped =>
    have same := mirrors.step indexes wholeIndexes
    rw [stepped] at same
    obtain ⟨outcome, mirrorStepped, related⟩ := same.exists_ok
    cases related
    rw [run_eq, mirrorStepped]
    exact .given mirrors
  | case3 search next stepped ih =>
    have same := mirrors.step indexes wholeIndexes
    rw [stepped] at same
    obtain ⟨outcome, mirrorStepped, related⟩ := same.exists_ok
    cases related with
    | some mirrorsNext =>
      rw [run_eq wholeIndex, mirrorStepped]
      exact ih mirrorsNext

/-- Visits of corresponding units have the same outcome. -/
theorem visit (indexes : Indexes program index (List.finRange part.length))
    (wholeIndexes : Indexes program wholeIndex (List.finRange whole.length))
    (mirrors : Mirrors within.place search mirror) (root : Fin part.length) :
    SameOutcome (Mirrors within.place) (search.visit index root)
      (mirror.visit wholeIndex (within.place root)) := by
  unfold Search.visit
  rw [mirrors.marks]
  split
  · exact (mirrors.enter root).run indexes wholeIndexes
  · exact .given mirrors

end Mirrors

end Search

namespace ClosedPart

variable (within : ClosedPart part whole program)

/-- Both indices are accepted, or the program is refused in the same way. -/
theorem prepare (within : ClosedPart part whole program)
    (indexed : SameOutcome (fun _ _ => True) (indexUnits part program)
      (indexUnits whole program)) :
    SameOutcome (fun index wholeIndex => Indexes program index (List.finRange part.length)
        ∧ Indexes program wholeIndex (List.finRange whole.length))
      (Dependency.prepare part program) (Dependency.prepare whole program) := by
  unfold Dependency.prepare
  by_cases isProgram : program.kind = .program
  · rw [if_neg (not_not.2 isProgram), if_neg (not_not.2 isProgram)]
    refine indexed.attach.bind fun index wholeIndex indexed => ?_
    have indexes : Indexes program index (List.finRange part.length) :=
      indexes_empty.addAll indexed.1
    have wholeIndexes : Indexes program wholeIndex (List.finRange whole.length) :=
      indexes_empty.addAll indexed.2.1
    have sameMissing : program.usedNames.find? (fun used => !wholeIndex.contains used)
        = program.usedNames.find? fun used => !index.contains used := by
      refine List.find?_congr fun used named => ?_
      rw [Table.contains, Table.contains,
        within.get?_eq indexes wholeIndexes List.mem_cons_self named, Option.isSome_map]
    simp only [sameMissing]
    split
    · exact .refused _
    · exact .given ⟨indexes, wholeIndexes⟩
  · rw [if_pos isProgram, if_pos isProgram]
    exact .refused _

/-- A program reaches units of the part alone. -/
theorem exists_place_of_reachable {position : Fin whole.length}
    (reachable : Reachable whole program position) : ∃ inner, within.place inner = position := by
  induction reachable with
  | direct named => exact within.closed program List.mem_cons_self _ named
  | through _ named ih =>
    rcases ih with ⟨inner, rfl⟩
    rw [Uses, within.usedNames_place] at named
    exact within.closed _ (List.mem_cons_of_mem _ (List.get_mem part inner)) _ named

/-- The units of the part are reached in both. -/
theorem reachable_place_iff {inner : Fin part.length} :
    Reachable whole program (within.place inner) ↔ Reachable part program inner := by
  constructor
  · intro reachable
    generalize placeEq : within.place inner = position at reachable
    induction reachable generalizing inner with
    | direct named =>
      subst placeEq
      rw [within.name_place] at named
      exact .direct named
    | through reached named ih =>
      subst placeEq
      rcases within.exists_place_of_reachable reached with ⟨user, rfl⟩
      rw [Uses, within.name_place, within.usedNames_place] at named
      exact .through (ih rfl) named
  · intro reachable
    induction reachable with
    | direct named =>
      rw [← within.name_place] at named
      exact .direct named
    | through _ named ih =>
      rw [Uses, ← within.name_place, ← within.usedNames_place] at named
      exact .through ih named

/-- Included units are taken in the order in which they are supplied. -/
theorem sortedLT_included {units : List ObjectUnit} (index : Index units) (program : ObjectUnit)
    (stripUnused : Bool) : (included index program stripUnused).SortedLT := by
  cases stripUnused with
  | false => exact List.sortedLT_finRange _
  | true => exact ((List.sortedLT_finRange _).pairwise.filter _).sortedLT

/-- If the units to link correspond, so do the orders of linking them. -/
theorem resolveOrder {stripPart stripWhole : Bool}
    (indexed : SameOutcome (fun _ _ => True) (indexUnits part program) (indexUnits whole program))
    (sameUnits : ∀ position, Included whole program stripWhole position
      ↔ ∃ inner, Included part program stripPart inner ∧ within.place inner = position) :
    SameOutcome (fun order wholeOrder => wholeOrder = order.map within.place)
      (Dependency.resolveOrder part program stripPart)
      (Dependency.resolveOrder whole program stripWhole) := by
  refine (within.prepare indexed).bind fun index wholeIndex indexed => ?_
  rcases indexed with ⟨indexes, wholeIndexes⟩
  have placed : ((included index program stripPart).map within.place).SortedLT :=
    within.place.sortedLT_listMap.2 (sortedLT_included index program stripPart)
  have includedEq : included wholeIndex program stripWhole
      = (included index program stripPart).map within.place := by
    apply (sortedLT_included wholeIndex program stripWhole).eq_of_mem_iff placed
    intro position
    rw [wholeIndexes.mem_included, List.mem_map, sameUnits]
    simp only [indexes.mem_included]
  rw [includedEq]
  have visited := SameOutcome.foldlM_map (fun search mirror root mirrors =>
    Search.Mirrors.visit indexes wholeIndexes mirrors root) (Search.Mirrors.start within.place)
    (included index program stripPart)
  exact visited.bind fun search mirror mirrors => .given mirrors.order

end ClosedPart

end Dependency

end UnitLinker
