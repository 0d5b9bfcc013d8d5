import Mathlib
import UnitLinker.Proofs.SearchState

/-!
# The dependency order

The search visits the units to link and no other unit, and ends in an order of
them unless a name is missing or the uses form a cycle. So an order is found
exactly when there is one.
-/

namespace UnitLinker.Dependency

namespace Search

variable {units : List ObjectUnit} {index : Index units} {search next : Search units.length}

/-- A set of units that contains the supplied uses of its members. -/
def UsesClosed (index : Index units) (allowed : Fin units.length → Prop) : Prop :=
  ∀ user, allowed user → ∀ used ∈ (units.get user).usedNames,
    ∀ needed, index.get? used = some needed → allowed needed

/-- A sound search that has visited some units and never left a given set. -/
structure Explores (index : Index units) (allowed : Fin units.length → Prop)
    (visited : List (Fin units.length)) (search : Search units.length) : Prop where
  sound : Sound index search
  within : ∀ position, search.marks.get position ≠ .unvisited → allowed position
  covers : ∀ position ∈ visited, search.marks.get position ≠ .unvisited

variable {allowed : Fin units.length → Prop} {visited : List (Fin units.length)}

/-- The unit on top of the stack is an allowed one. -/
theorem Explores.allowed_top (explores : Explores index allowed visited search)
    {position : Fin units.length} {place : Nat} {rest : List (Fin units.length × Nat)}
    (top : search.frames = (position, place) :: rest) : allowed position := by
  apply explores.within
  rw [(explores.sound.open_iff position).2 (explores.sound.top_mem top)]
  decide

/-- Marking an allowed unit as visited. -/
theorem Explores.marked {position : Fin units.length} {mark : Mark}
    (explores : Explores index allowed visited search) (isAllowed : allowed position)
    (isVisited : mark ≠ .unvisited) {changed : Search units.length}
    (marksEq : changed.marks = search.marks.set position mark position.isLt)
    (sound : Sound index changed) :
    Explores index allowed (position :: visited) changed := by
  refine ⟨sound, ?_, ?_⟩
  · intro other otherVisited
    rw [marksEq, get_set_mark] at otherVisited
    by_cases same : position = other
    · rwa [← same]
    · rw [if_neg same] at otherVisited
      exact explores.within other otherVisited
  · intro other member
    rw [marksEq, get_set_mark]
    by_cases same : position = other
    · rwa [if_pos same]
    · rw [if_neg same]
      rcases List.mem_cons.1 member with rfl | earlier
      · exact absurd rfl same
      · exact explores.covers other earlier

/-- A search that has visited units has visited some of them. -/
theorem Explores.weaken {fewer : List (Fin units.length)}
    (explores : Explores index allowed visited search) (sub : fewer ⊆ visited) :
    Explores index allowed fewer search :=
  ⟨explores.sound, explores.within, fun position member => explores.covers position (sub member)⟩

/-- A move leads to allowed units only and leaves what is visited. -/
theorem Explores.move (closed : UsesClosed index allowed)
    (explores : Explores index allowed visited search) (moved : Move index search next) :
    Explores index allowed visited next := by
  have sound := explores.sound.move moved
  cases moved with
  | finish top ended =>
    exact (explores.marked (explores.allowed_top top) (by decide) rfl sound).weaken
      (List.subset_cons_self _ _)
  | skip top named found done => exact ⟨sound, explores.within, explores.covers⟩
  | descend top named found new =>
    have isAllowed := closed _ (explores.allowed_top top) _ (List.mem_of_getElem? named) _ found
    exact (explores.marked isAllowed (by decide) rfl sound).weaken (List.subset_cons_self _ _)

/-- A search may start at any allowed unit that is not visited. -/
theorem Explores.enter {root : Fin units.length} (explores : Explores index allowed visited search)
    (idle : search.frames = []) (isAllowed : allowed root)
    (new : search.marks.get root = .unvisited) :
    Explores index allowed (root :: visited) (search.enter root) := by
  refine explores.marked isAllowed (by decide) rfl ?_
  exact explores.sound.enter_root idle new

/-- Visiting one root, from a state with nothing open. -/
theorem Explores.visit_cases (closed : UsesClosed index allowed) {root : Fin units.length}
    (isAllowed : allowed root) (explores : Explores index allowed visited search)
    (idle : search.frames = []) :
    (∃ final, search.visit index root = .ok final
        ∧ Explores index allowed (root :: visited) final ∧ final.frames = [])
      ∨ ∃ last error, search.visit index root = .error error
        ∧ Explores index allowed visited last ∧ Refusal index last error := by
  unfold visit
  by_cases new : search.marks.get root = .unvisited
  · rw [if_pos new]
    rcases run_cases (fun _ _ holds moved => Explores.move closed holds moved) _
        (explores.enter idle isAllowed new) with
      ⟨final, ran, explored, ended⟩ | ⟨last, error, ran, explored, refusal⟩
    · exact Or.inl ⟨final, ran, explored, ended⟩
    · exact Or.inr ⟨last, error, ran, explored.weaken (List.subset_cons_self _ _), refusal⟩
  · rw [if_neg new]
    refine Or.inl ⟨search, rfl, ⟨explores.sound, explores.within, ?_⟩, idle⟩
    intro position member
    rcases List.mem_cons.1 member with rfl | earlier
    · exact new
    · exact explores.covers position earlier

/-- Visiting all roots one after the other. -/
theorem Explores.visitAll_cases (closed : UsesClosed index allowed)
    {roots : List (Fin units.length)} (areAllowed : ∀ root ∈ roots, allowed root)
    (explores : Explores index allowed visited search) (idle : search.frames = []) :
    (∃ final, roots.foldlM (visit index) search = .ok final
        ∧ Explores index allowed (roots ++ visited) final ∧ final.frames = [])
      ∨ ∃ last error, roots.foldlM (visit index) search = .error error
        ∧ Explores index allowed visited last ∧ Refusal index last error := by
  induction roots generalizing search visited with
  | nil => exact Or.inl ⟨search, rfl, explores, idle⟩
  | cons root rest ih =>
    rw [List.foldlM_cons]
    rcases explores.visit_cases closed (areAllowed root List.mem_cons_self) idle with
      ⟨middle, ran, explored, ended⟩ | ⟨last, error, ran, explored, refusal⟩
    · rw [ran]
      rcases ih (fun other member => areAllowed other (List.mem_cons_of_mem _ member)) explored
          ended with ⟨final, ranAll, exploredAll, endedAll⟩
          | ⟨last, error, ranAll, exploredAll, refusal⟩
      · refine Or.inl ⟨final, ranAll, exploredAll.weaken ?_, endedAll⟩
        intro position member
        simp only [List.cons_append, List.mem_cons, List.mem_append] at member ⊢
        tauto
      · exact Or.inr ⟨last, error, ranAll, exploredAll.weaken (List.subset_cons_self _ _), refusal⟩
    · rw [ran]
      exact Or.inr ⟨last, error, rfl, explored, refusal⟩

end Search

section Order

variable {units : List ObjectUnit} {program : ObjectUnit} {stripUnused : Bool} {index : Index units}

/-- The unit that is found under a used name is used. -/
theorem FindsByName.uses_of_found (finds : FindsByName index) {user needed : Fin units.length}
    {used : String} (member : used ∈ (units.get user).usedNames)
    (found : index.get? used = some needed) : Uses units user needed := by
  rw [Uses, (finds _ _).1 found]
  exact member

theorem Indexes.uses_of_found (indexes : Indexes program index (List.finRange units.length))
    {user needed : Fin units.length} {used : String}
    (member : used ∈ (units.get user).usedNames) (found : index.get? used = some needed) :
    Uses units user needed :=
  indexes.findsByName.uses_of_found member found

/-- Units in an index are told apart by their names. -/
theorem Indexes.eq_of_name_eq (indexes : Indexes program index (List.finRange units.length))
    {first second : Fin units.length} (same : (units.get first).name = (units.get second).name) :
    first = second :=
  indexes.findsByName.eq_of_name_eq same

/-- What included units use is included. -/
theorem Indexes.included_closed (indexes : Indexes program index (List.finRange units.length)) :
    Search.UsesClosed index (Included units program stripUnused) :=
  fun _ isIncluded _ member _ found => isIncluded.through (indexes.uses_of_found member found)

/-- Following uses never leaves the units to link. -/
theorem Included.transGen {user used : Fin units.length}
    (isIncluded : Included units program stripUnused user)
    (chain : Relation.TransGen (Uses units) user used) :
    Included units program stripUnused used
      ∧ Relation.TransGen (IncludedUses units program stripUnused) user used := by
  induction chain with
  | single named =>
    have usedIncluded := isIncluded.through named
    exact ⟨usedIncluded, .single ⟨isIncluded, usedIncluded, named⟩⟩
  | tail _ named ih =>
    have usedIncluded := ih.1.through named
    exact ⟨usedIncluded, ih.2.tail ⟨ih.1, usedIncluded, named⟩⟩

/-- A unit that waits reaches the unit on top of it through uses clauses. -/
theorem Search.Awaits.reaches (indexes : Indexes program index (List.finRange units.length))
    {order : List (Fin units.length)} {above : Fin units.length}
    {rest : List (Fin units.length × Nat)} (awaits : Search.Awaits index order above rest)
    {position : Fin units.length} (member : position ∈ rest.map Prod.fst) :
    Relation.TransGen (Uses units) position above := by
  induction rest generalizing above with
  | nil => cases member
  | cons frame rest ih =>
    obtain ⟨⟨taken, used, placeEq, named, found, finished⟩, others⟩ := awaits
    have last := indexes.uses_of_found (List.mem_of_getElem? named) found
    rcases List.mem_cons.1 member with rfl | below
    · exact .single last
    · exact (ih others below).tail last

/-- A use of an open unit closes a cycle. -/
theorem Search.Sound.cycle_of_open (indexes : Indexes program index (List.finRange units.length))
    {search : Search units.length} (sound : Search.Sound index search)
    {position needed : Fin units.length} {place : Nat} {rest : List (Fin units.length × Nat)}
    (top : search.frames = (position, place) :: rest) (named : Uses units position needed)
    (opened : search.marks.get needed = .inProgress) :
    Relation.TransGen (Uses units) needed needed := by
  have onPath := (sound.open_iff needed).1 opened
  rw [sound.path_of_top top, List.mem_append, List.mem_reverse, List.mem_singleton] at onPath
  have framesSound := sound.frames_sound
  rw [top] at framesSound
  rcases onPath with below | rfl
  · exact (framesSound.2.reaches indexes below).tail named
  · exact .single named

/-- Units that can be ordered give the search no reason to stop. -/
theorem Orderable.not_refused (orderable : Orderable units program stripUnused)
    (indexes : Indexes program index (List.finRange units.length))
    {visited : List (Fin units.length)} {search : Search units.length} {error : LinkError}
    (explores : Search.Explores index (Included units program stripUnused) visited search) :
    ¬ Search.Refusal index search error := by
  intro refusal
  cases refusal with
  | missing top named absent =>
    have supplied := orderable.includedUsesSupplied _ (explores.allowed_top top) _
      (List.mem_of_getElem? named)
    rw [← indexes.contains_iff, Table.contains, absent] at supplied
    cases supplied
  | cycle top named found opened =>
    have uses := indexes.uses_of_found (List.mem_of_getElem? named) found
    have chain := explores.sound.cycle_of_open indexes top uses opened
    have isIncluded := (explores.allowed_top top).through uses
    exact orderable.acyclic _ (isIncluded.transGen chain).2

/-- Units are put in order by an index and a search from every included unit. -/
theorem resolveOrder_eq_ok {order : List (Fin units.length)} :
    resolveOrder units program stripUnused = .ok order
      ↔ ∃ index search, prepare units program = .ok index
        ∧ (included index program stripUnused).foldlM (Search.visit index) (.start _) = .ok search
        ∧ search.order = order := by
  unfold resolveOrder
  constructor
  · intro resolved
    obtain ⟨index, prepared, chained⟩ := bind_eq_ok.1 resolved
    obtain ⟨search, visited, given⟩ := bind_eq_ok.1 chained
    exact ⟨index, search, prepared, visited, pure_eq_ok.1 given⟩
  · rintro ⟨index, search, prepared, visited, rfl⟩
    exact bind_eq_ok.2 ⟨index, prepared, bind_eq_ok.2 ⟨search, visited, rfl⟩⟩

/-- What is prepared is an index of all units. -/
theorem indexes_of_prepare (prepared : prepare units program = .ok index) :
    Indexes program index (List.finRange units.length) :=
  indexes_empty.addAll (prepare_eq_ok.1 prepared).2.1

/-- A search that has not started has explored nothing. -/
theorem explores_start (allowed : Fin units.length → Prop) :
    Search.Explores index allowed [] (.start _) where
  sound := Search.sound_start
  within := by
    intro position visited
    exact absurd (by simp [Search.start]) visited
  covers := by simp

/-- The searches from all included units visit them all, or one of them is refused. -/
theorem visitAll_cases (indexes : Indexes program index (List.finRange units.length)) :
    (∃ final, (included index program stripUnused).foldlM (Search.visit index) (.start _) = .ok final
        ∧ Search.Explores index (Included units program stripUnused)
          (included index program stripUnused) final ∧ final.frames = [])
      ∨ ∃ last error,
        (included index program stripUnused).foldlM (Search.visit index) (.start _) = .error error
          ∧ Search.Explores index (Included units program stripUnused) [] last
          ∧ Search.Refusal index last error := by
  have allowed : ∀ root ∈ included index program stripUnused,
      Included units program stripUnused root := fun root => indexes.mem_included.1
  have cases := (explores_start _).visitAll_cases indexes.included_closed allowed rfl
  rwa [List.append_nil] at cases

/-- Units that can be put in order are. -/
theorem exists_order_of_orderable (orderable : Orderable units program stripUnused) :
    ∃ order, resolveOrder units program stripUnused = .ok order := by
  obtain ⟨index, indexed⟩ := exists_indexUnits_iff.2
    ⟨orderable.noOtherProgram, orderable.namesDistinct, orderable.programNameNew⟩
  have indexes := indexes_empty.addAll indexed
  have prepared := prepare_eq_ok.2 ⟨orderable.isProgram, indexed, fun name member =>
    indexes.contains_iff.2 (orderable.programUsesSupplied name member)⟩
  rcases visitAll_cases indexes with ⟨final, visited, explored, ended⟩
    | ⟨last, error, _, explored, refusal⟩
  · exact ⟨final.order, resolveOrder_eq_ok.2 ⟨index, final, prepared, visited, rfl⟩⟩
  · exact absurd refusal (orderable.not_refused indexes explored)

/-- In an order whose members have all their uses before them, a place splits
the order into what comes before and after. -/
theorem Search.OrderClosed.exists_earlier {order : List (Fin units.length)}
    (closed : Search.OrderClosed index order) {place : Nat} (inside : place < order.length)
    {used : String} (member : used ∈ (units.get order[place]).usedNames) :
    ∃ earlier needed, earlier < place ∧ order[earlier]? = some needed
      ∧ index.get? used = some needed := by
  have split : order = order.take place ++ order[place] :: order.drop (place + 1) := by
    rw [← List.drop_eq_getElem_cons inside, List.take_append_drop]
  obtain ⟨needed, earlierMember, found⟩ := closed _ _ _ split used member
  obtain ⟨earlier, earlierFound⟩ := List.getElem?_of_mem earlierMember
  rw [List.getElem?_take] at earlierFound
  split at earlierFound
  · exact ⟨earlier, needed, ‹_›, earlierFound, found⟩
  · cases earlierFound

/-- The order has all included units, each after those that it uses. -/
theorem isDependencyOrder_of_resolveOrder {order : List (Fin units.length)}
    (resolved : resolveOrder units program stripUnused = .ok order) :
    IsDependencyOrder units program stripUnused order := by
  obtain ⟨index, search, prepared, visited, rfl⟩ := resolveOrder_eq_ok.1 resolved
  have indexes := indexes_of_prepare prepared
  rcases visitAll_cases indexes with ⟨final, ran, explored, ended⟩ | ⟨last, error, ran, _, _⟩
  · rw [visited] at ran
    cases ran
    refine ⟨explored.sound.order_nodup, ?_, ?_⟩
    · intro position
      constructor
      · intro member
        apply explored.within
        rw [(explored.sound.done_iff position).2 member]
        decide
      · intro isIncluded
        have covered := explored.covers position (indexes.mem_included.2 isIncluded)
        exact explored.sound.done_of_visited ended covered
    · intro place inside name member
      obtain ⟨earlier, needed, before, standsAt, found⟩ :=
        explored.sound.order_closed.exists_earlier inside member
      refine ⟨earlier, before, ?_⟩
      rw [(List.getElem?_eq_some_iff.1 standsAt).2]
      exact indexes.get?_eq_some_iff.1 found
  · rw [visited] at ran
    cases ran

/-- Along uses the place in an order goes down. -/
theorem IsDependencyOrder.idxOf_lt (indexes : Indexes program index (List.finRange units.length))
    {order : List (Fin units.length)} (ordered : IsDependencyOrder units program stripUnused order)
    {user used : Fin units.length}
    (named : IncludedUses units program stripUnused user used) :
    order.idxOf used < order.idxOf user := by
  have inside : order.idxOf user < order.length :=
    List.idxOf_lt_length_iff.2 ((ordered.mem_iff user).2 named.1)
  have userEq : order[order.idxOf user] = user := List.getElem_idxOf inside
  obtain ⟨earlier, before, sameName⟩ := ordered.usesBefore _ inside (units.get used).name
    (by rw [userEq]; exact named.2.2)
  have usedEq : order[earlier] = used := indexes.eq_of_name_eq sameName
  have place : order.idxOf used = earlier := by
    rw [← usedEq]
    exact ordered.nodup.idxOf_getElem _ _
  omega

/-- Units that are put in order can be. -/
theorem orderable_of_resolveOrder {order : List (Fin units.length)}
    (resolved : resolveOrder units program stripUnused = .ok order) :
    Orderable units program stripUnused := by
  have ordered := isDependencyOrder_of_resolveOrder resolved
  obtain ⟨index, search, prepared, _, _⟩ := resolveOrder_eq_ok.1 resolved
  have indexes := indexes_of_prepare prepared
  obtain ⟨isProgram, indexed, contained⟩ := prepare_eq_ok.1 prepared
  obtain ⟨areUnits, distinct, isNew⟩ := exists_indexUnits_iff.1 ⟨index, indexed⟩
  refine ⟨isProgram, areUnits, distinct, isNew, ?_, ?_, ?_⟩
  · intro name member
    exact indexes.contains_iff.1 (contained name member)
  · intro position isIncluded name member
    obtain ⟨place, inside, rfl⟩ := List.mem_iff_getElem.1 ((ordered.mem_iff position).2 isIncluded)
    obtain ⟨earlier, before, named⟩ := ordered.usesBefore place inside name member
    exact mem_names_iff.2 ⟨_, named⟩
  · intro position chain
    have descends : ∀ user used,
        Relation.TransGen (IncludedUses units program stripUnused) user used →
        order.idxOf used < order.idxOf user := by
      intro user used chain
      induction chain with
      | single named => exact ordered.idxOf_lt indexes named
      | tail _ named ih => exact Nat.lt_trans (ordered.idxOf_lt indexes named) ih
    exact Nat.lt_irrefl _ (descends position position chain)

/-- An order is found exactly when the units can be ordered, and what is found
is an order of the units to link. -/
theorem resolveOrder_sound_complete (units : List ObjectUnit) (program : ObjectUnit)
    (stripUnused : Bool) :
    ((∃ order, resolveOrder units program stripUnused = .ok order)
        ↔ Orderable units program stripUnused)
      ∧ ∀ order, resolveOrder units program stripUnused = .ok order →
        IsDependencyOrder units program stripUnused order := by
  refine ⟨⟨?_, exists_order_of_orderable⟩, ?_⟩
  · rintro ⟨order, resolved⟩
    exact orderable_of_resolveOrder resolved
  · intro order resolved
    exact isDependencyOrder_of_resolveOrder resolved

end Order

end UnitLinker.Dependency
