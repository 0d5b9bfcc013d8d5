import UnitLinker.Counting
import UnitLinker.Dependency.Index

/-!
# Reachable units

The units that a program needs, directly or through other units. A worklist
starts with the uses of the program; a unit that is taken from it for the first
time is reached and adds its own uses. The number of units not yet reached
bounds the work.
-/

namespace UnitLinker.Dependency

/-- How many positions are not in a list. -/
def unseen {count : Nat} (seen : List (Fin count)) : Nat :=
  (List.finRange count).countP fun position => !seen.contains position

theorem unseen_cons_lt {count : Nat} {seen : List (Fin count)} {position : Fin count}
    (new : seen.contains position = false) : unseen (position :: seen) < unseen seen := by
  refine countP_lt_countP ?_ position (List.mem_finRange position) ?_ ?_
  · intro item outside
    simp only [List.contains_cons, Bool.not_or, Bool.and_eq_true] at outside
    exact outside.2
  · rw [new]
    rfl
  · simp

/-- The worklist: its first element is taken next. -/
def reachFrom {count : Nat} (uses : Fin count → List (Fin count)) (pending reached : List (Fin count)) :
    List (Fin count) :=
  match pending with
  | [] => reached
  | position :: rest =>
    if reached.contains position then reachFrom uses rest reached
    else reachFrom uses ((uses position).reverse ++ rest) (position :: reached)
termination_by (unseen reached, pending.length)
decreasing_by
  · exact Prod.Lex.right _ (Nat.lt_succ_self _)
  · rename_i new
    exact Prod.Lex.left _ _ (unseen_cons_lt (by simpa using new))

variable {units : List ObjectUnit}

/-- The supplied units that a program reaches. -/
def reached (index : Index units) (program : ObjectUnit) : List (Fin units.length) :=
  reachFrom (fun position => suppliedUses index (units.get position))
    (suppliedUses index program).reverse []

/-- The units to link, in supplied order: all of them, or those the program reaches. -/
def included (index : Index units) (program : ObjectUnit) (stripUnused : Bool) :
    List (Fin units.length) :=
  if stripUnused then
    let reachable := reached index program
    (List.finRange units.length).filter fun position => reachable.contains position
  else List.finRange units.length

/-- The units that stripping leaves out, in supplied order. -/
def leftOut (index : Index units) (program : ObjectUnit) : List (Fin units.length) :=
  let reachable := reached index program
  (List.finRange units.length).filter fun position => !reachable.contains position

end UnitLinker.Dependency
