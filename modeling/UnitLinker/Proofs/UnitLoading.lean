import Mathlib
import UnitLinker.Command.Loading
import UnitLinker.Proofs.LinkedUnits
import UnitLinker.Proofs.OrderRefusals

/-!
# Loading closes the uses

Loading takes pending names one after the other. `Move` lists what taking a name can do,
and `Halt` how it can fail. No sequence of moves is endless, since every unit that is
loaded leaves fewer files with new units. What moves keep is true at the end: every name
in a uses clause is that of a loaded unit or known to be missing.
-/

namespace UnitLinker.Command

open Files (Tree)

/-- A directory is there, and a file in it. -/
def HoldsFile (tree : Tree) (directory file : String) : Prop :=
  tree.isDirectory directory = true ∧ tree.exists? (Path.join directory file) = true

/-- A file is not found exactly if no directory holds it. -/
theorem findFile?_eq_none_iff {tree : Tree} {directories : List String} {file : String} :
    findFile? tree directories file = none
      ↔ ∀ directory ∈ directories, ¬ HoldsFile tree directory file := by
  simp [findFile?, HoldsFile, List.findSome?_eq_none_iff]

namespace Collection

variable {tree : Tree} {directories : List String} {collection next : Collection}
  {path file : String} {unit : ObjectUnit}

/-- Every unit of a collection is stored under its own name. -/
def OwnNames (collection : Collection) : Prop :=
  ∀ entry ∈ collection.units.entries, entry.2.2.name = entry.1

/-- The names of the loaded units are the names they are stored under. -/
theorem OwnNames.map_name_loaded (own : collection.OwnNames) :
    collection.loaded.map ObjectUnit.name = collection.units.names := by
  simp only [loaded, Table.values, Table.names, List.map_map]
  exact List.map_congr_left own

/-- A unit with a new name is added after all others. -/
theorem add_of_new (new : unit.name ∉ collection.units.names) :
    collection.add tree path unit
      = .ok ⟨collection.units.insert unit.name (path, unit), collection.missing⟩ := by
  rw [add, Table.get?_eq_none_iff.2 new]

/-- A file that is added again changes nothing, and a new unit comes last. -/
theorem cases_of_add (added : collection.add tree path unit = .ok next) :
    next = collection ∨ unit.name ∉ collection.units.names
      ∧ next = ⟨collection.units.insert unit.name (path, unit), collection.missing⟩ := by
  by_cases new : unit.name ∈ collection.units.names
  · left
    obtain ⟨⟨existing, held⟩, found⟩ :=
      Option.isSome_iff_exists.1 (Table.contains_iff_mem_names.2 new)
    simp only [add, found] at added
    split at added
    · exact (Except.ok.inj added).symm
    · cases added
  · rw [add_of_new new] at added
    exact .inr ⟨new, (Except.ok.inj added).symm⟩

/-- A file that is added adds the unit in it. -/
theorem exists_add_of_addFile (added : collection.addFile tree directories file = .ok next) :
    ∃ path unit, collection.add tree path unit = .ok next := by
  have stored {path : String}
      (loading : (loadUnit tree path >>= collection.add tree path) = .ok next) :
      ∃ path unit, collection.add tree path unit = .ok next := by
    obtain ⟨unit, _, added⟩ := bind_eq_ok.1 loading
    exact ⟨path, unit, added⟩
  rw [addFile] at added
  split at added
  · exact stored added
  · split at added
    · exact stored added
    · cases added

/-- A unit that is added under its own name keeps all names right. -/
theorem OwnNames.insert (own : collection.OwnNames) (new : unit.name ∉ collection.units.names)
    (path : String) (missing : List String) :
    OwnNames ⟨collection.units.insert unit.name (path, unit), missing⟩ := by
  intro entry member
  rw [Table.entries_insert_of_new new, List.mem_append, List.mem_singleton] at member
  rcases member with earlier | rfl
  · exact own entry earlier
  · rfl

/-- A unit that is added is loaded last. -/
theorem loaded_insert (new : unit.name ∉ collection.units.names) (path : String)
    (missing : List String) :
    loaded ⟨collection.units.insert unit.name (path, unit), missing⟩
      = collection.loaded ++ [unit] := by
  simp [loaded, Table.values, Table.entries_insert_of_new new]

/-- Files that are given one after the other are stored under the names of their units, and
nothing is looked for in vain. -/
theorem ownNames_of_addFiles {files : List String} {given : Collection} (own : collection.OwnNames)
    (noneMissing : collection.missing = [])
    (added : files.foldlM (fun collection file => collection.addFile tree directories file)
      collection = .ok given) : given.OwnNames ∧ given.missing = [] := by
  induction files generalizing collection with
  | nil =>
    cases added
    exact ⟨own, noneMissing⟩
  | cons file rest ih =>
    obtain ⟨middle, first, others⟩ := foldlM_cons_eq_ok.1 added
    obtain ⟨path, unit, stored⟩ := exists_add_of_addFile first
    rcases cases_of_add stored with rfl | ⟨new, rfl⟩
    · exact ih own noneMissing others
    · exact ih (own.insert new path _) noneMissing others

end Collection

namespace Loading

/-- A moment of loading: the names to look for, the next one first, and what was loaded so
far. -/
abbrev Moment := List String × Loading

/-- A name that is looked for no more. -/
def Knows (loading : Loading) (name : String) : Prop :=
  name ∈ loading.collection.units.names ∨ name ∈ loading.collection.missing

/-- The state once no file was found for a name. -/
def missed (loading : Loading) (name : String) : Loading :=
  ⟨⟨loading.collection.units, loading.collection.missing ++ [name]⟩,
    (loading.noting s!"unit {name} not found in search dirs").notes, loading.failure⟩

/-- The state once a unit was found. -/
def adding (loading : Loading) (path : String) (unit : ObjectUnit) : Loading :=
  ⟨⟨loading.collection.units.insert unit.name (path, unit), loading.collection.missing⟩,
    (loading.noting s!"unit {unit.name} loaded from {path}").notes, loading.failure⟩

/-- What taking a pending name does. -/
inductive Move (tree : Tree) (directories : List String) : Moment → Moment → Prop where
  | skip {name : String} {rest : List String} {loading : Loading} (known : loading.Knows name) :
      Move tree directories (name :: rest, loading) (rest, loading)
  | miss {name : String} {rest : List String} {loading : Loading} (new : ¬ loading.Knows name)
      (absent : findFile? tree directories (name ++ unitSuffix) = none) :
      Move tree directories (name :: rest, loading) (rest, loading.missed name)
  | load {rest : List String} {loading : Loading} {path : String} {unit : ObjectUnit}
      (new : ¬ loading.Knows unit.name)
      (found : findFile? tree directories (unit.name ++ unitSuffix) = some path)
      (loaded : loadUnit tree path = .ok unit) :
      Move tree directories (unit.name :: rest, loading)
        (unit.usedNames.reverse ++ rest, loading.adding path unit)

/-- How taking a pending name fails. -/
inductive Halt (tree : Tree) (directories : List String) : Moment → Failure → Prop where
  | unreadable {name : String} {rest : List String} {loading : Loading} {path : String}
      {failure : Failure} (found : findFile? tree directories (name ++ unitSuffix) = some path)
      (failed : loadUnit tree path = .error failure) :
      Halt tree directories (name :: rest, loading) failure
  | misnamed {name : String} {rest : List String} {loading : Loading} {path : String}
      {unit : ObjectUnit} (found : findFile? tree directories (name ++ unitSuffix) = some path)
      (loaded : loadUnit tree path = .ok unit) (differs : unit.name ≠ name) :
      Halt tree directories (name :: rest, loading) (.unexpectedUnit path name unit.name)

/-- How loading ends in a moment: with nothing pending, or because taking a name fails. -/
inductive Ends (tree : Tree) (directories : List String) (last : Moment) (result : Loading) :
    Prop where
  | finished (nothing : last.1 = []) (same : result = last.2) : Ends tree directories last result
  | failed {failure : Failure} (halt : Halt tree directories last failure)
      (reported : result.failure = some failure)
      (collected : result.collection = last.2.collection) : Ends tree directories last result

variable {tree : Tree} {directories : List String} {loading : Loading} {name : String}

/-- What is known is what the loop tests for. -/
theorem knows_iff : loading.Knows name ↔ (loading.collection.units.contains name
    || loading.collection.missing.contains name) = true := by
  rw [Bool.or_eq_true, Table.contains_iff_mem_names, List.contains_iff_mem]
  rfl

/-- A name that is not known is not that of a loaded unit. -/
theorem not_stored_of_unknown (unknown : ¬ loading.Knows name) :
    name ∉ loading.collection.units.names :=
  fun stored => unknown (.inl stored)

/-- A unit whose name is not known is never refused. -/
theorem add_of_unknown {unit : ObjectUnit} (unknown : ¬ loading.Knows unit.name)
    (path : String) :
    loading.collection.add tree path unit = .ok (loading.adding path unit).collection :=
  Collection.add_of_new (not_stored_of_unknown unknown)

/-- Every move loads a unit from a file that held a new one, or leaves fewer names. -/
theorem wellFounded_move (tree : Tree) (directories : List String) :
    WellFounded fun later now => Move tree directories now later := by
  have measured : WellFounded (Prod.Lex (fun left right : Nat => left < right)
      fun left right : Nat => left < right) := Nat.lt_wfRel.wf.prod_lex Nat.lt_wfRel.wf
  refine Subrelation.wf ?_
    (InvImage.wf (fun moment : Moment => (unloaded tree moment.2.collection, moment.1.length))
      measured)
  intro later now moved
  cases moved with
  | skip known => exact Prod.Lex.right _ (Nat.lt_succ_self _)
  | miss new absent => exact Prod.Lex.right _ (Nat.lt_succ_self _)
  | @load rest loading path unit new found loaded =>
    apply Prod.Lex.left
    apply unloaded_add_lt loaded
    · exact Table.contains_eq_false_iff.2 (not_stored_of_unknown new)
    · exact add_of_unknown new path

/-- Loading follows the moves until it ends. -/
theorem exists_end (tree : Tree) (directories pending : List String) (loading : Loading) :
    ∃ last, Relation.ReflTransGen (Move tree directories) (pending, loading) last
      ∧ Ends tree directories last (loadPending tree directories pending loading) := by
  fun_induction loadPending tree directories pending loading with
  | case1 loading => exact ⟨_, .refl, .finished rfl rfl⟩
  | case2 loading name rest known ih =>
    obtain ⟨last, moves, ended⟩ := ih
    exact ⟨last, moves.head (.skip (knows_iff.2 known)), ended⟩
  | case3 loading name rest new absent noted ih =>
    obtain ⟨last, moves, ended⟩ := ih
    exact ⟨last, moves.head (.miss (mt knows_iff.1 new) absent), ended⟩
  | case4 loading name rest new path found failure failed =>
    exact ⟨_, .refl, .failed (.unreadable found failed) rfl rfl⟩
  | case5 loading name rest new path found unit loaded differs =>
    exact ⟨_, .refl, .failed (.misnamed found loaded differs) rfl rfl⟩
  | case6 loading name rest new path found unit loaded same failure refused =>
    cases not_not.1 same
    rw [add_of_unknown (mt knows_iff.1 new)] at refused
    cases refused
  | case7 loading name rest new path found unit loaded same collection added ih =>
    cases not_not.1 same
    have unknown : ¬ loading.Knows unit.name := mt knows_iff.1 new
    rw [add_of_unknown unknown] at added
    cases added
    obtain ⟨last, moves, ended⟩ := ih
    exact ⟨last, moves.head (.load unknown found loaded), ended⟩

/-- A move leaves what loading comes to. -/
theorem loadPending_of_move {now later : Moment} (moved : Move tree directories now later) :
    loadPending tree directories now.1 now.2 = loadPending tree directories later.1 later.2 := by
  rw [loadPending.eq_def]
  cases moved with
  | skip known => exact dif_pos (knows_iff.1 known)
  | miss new absent =>
    simp only [dif_neg (mt knows_iff.2 new), absent]
    rfl
  | @load rest loading path unit new found loaded =>
    simp only [dif_neg (mt knows_iff.2 new), found]
    split
    · rename_i failure failed
      rw [loaded] at failed
      cases failed
    · rename_i other again
      cases loaded.symm.trans again
      rw [dif_neg (not_not.2 rfl)]
      split
      · rename_i failure refused
        rw [add_of_unknown new] at refused
        cases refused
      · rename_i collection added
        rw [add_of_unknown new] at added
        cases added
        rfl

/-- Moves do not change what loading comes to. -/
theorem loadPending_of_moves {now later : Moment}
    (moved : Relation.ReflTransGen (Move tree directories) now later) :
    loadPending tree directories now.1 now.2 = loadPending tree directories later.1 later.2 := by
  induction moved with
  | refl => rfl
  | tail _ last ih => exact ih.trans (loadPending_of_move last)

/-- What the program or a given unit is, or uses through loaded units. -/
def Reached (given : Collection) (program : ObjectUnit) (units : List ObjectUnit)
    (unit : ObjectUnit) : Prop :=
  ∃ start ∈ program :: given.loaded, Relation.ReflTransGen (Link.UsesSupplied units) start unit

/-- A collection holds the given units first, as they were, and after them only units that
are stored under their own names and that the program or a given unit uses through loaded
units. -/
def Enlarges (given : Collection) (program : ObjectUnit) (collection : Collection) : Prop :=
  ∃ added, collection.units.entries = given.units.entries ++ added
    ∧ ∀ entry ∈ added, entry.2.2.name = entry.1 ∧ ∃ start ∈ program :: given.loaded,
      Relation.TransGen (Link.UsesSupplied collection.loaded) start entry.2.2

/-- What is true at every moment of loading. -/
structure Progress (tree : Tree) (directories : List String) (given : Collection)
    (program : ObjectUnit) (now : Moment) : Prop where
  notFailed : now.2.failure = none
  ownNames : now.2.collection.OwnNames
  enlarges : Enlarges given program now.2.collection
  absent : ∀ name ∈ now.2.collection.missing,
    findFile? tree directories (name ++ unitSuffix) = none
  /-- No name in a uses clause is forgotten. -/
  awaited : ∀ user ∈ program :: now.2.collection.loaded, ∀ name ∈ user.usedNames,
    name ∈ now.1 ∨ now.2.Knows name
  /-- No name is looked for without a use. -/
  wanted : ∀ name ∈ now.1, ∃ user, name ∈ user.usedNames
    ∧ Reached given program now.2.collection.loaded user

section Steps

variable {given : Collection} {program user unit : ObjectUnit} {units more : List ObjectUnit}
  {rest : List String} {path : String} {now later : Moment}

/-- More units do not take away uses. -/
theorem usesSupplied_append (units more : List ObjectUnit) :
    Link.UsesSupplied units ≤ Link.UsesSupplied (units ++ more) :=
  fun _ _ named => ⟨List.mem_append_left more named.1, named.2⟩

/-- More units do not take away what is reached. -/
theorem Reached.append (reached : Reached given program units user) :
    Reached given program (units ++ more) user := by
  obtain ⟨start, member, chain⟩ := reached
  exact ⟨start, member, Relation.ReflTransGen.mono (usesSupplied_append _ _) _ _ chain⟩

theorem loaded_adding (new : ¬ loading.Knows unit.name) :
    (loading.adding path unit).collection.loaded = loading.collection.loaded ++ [unit] :=
  Collection.loaded_insert (not_stored_of_unknown new) path _

/-- After a unit is added, its name is known and no other one is new. -/
theorem knows_adding (new : ¬ loading.Knows unit.name) :
    (loading.adding path unit).Knows name ↔ loading.Knows name ∨ name = unit.name := by
  have names : (loading.adding path unit).collection.units.names
      = loading.collection.units.names ++ [unit.name] :=
    Table.names_insert_of_new (not_stored_of_unknown new) _
  rw [Knows, names, List.mem_append, List.mem_singleton]
  exact or_right_comm

/-- A unit that is loaded for a use is reached by that use. -/
theorem Enlarges.adding (enlarges : Enlarges given program loading.collection)
    (new : ¬ loading.Knows unit.name) (path : String) (named : unit.name ∈ user.usedNames)
    (reached : Reached given program loading.collection.loaded user) :
    Enlarges given program (loading.adding path unit).collection := by
  obtain ⟨added, entries, kept⟩ := enlarges
  refine ⟨added ++ [(unit.name, path, unit)], ?_, ?_⟩
  · rw [← List.append_assoc, ← entries]
    exact Table.entries_insert_of_new (not_stored_of_unknown new) _
  · rw [loaded_adding new]
    intro entry member
    rcases List.mem_append.1 member with earlier | last
    · obtain ⟨own, start, isStart, chain⟩ := kept entry earlier
      exact ⟨own, start, isStart, Relation.TransGen.mono (usesSupplied_append _ _) _ _ chain⟩
    · cases List.mem_singleton.1 last
      obtain ⟨start, isStart, chain⟩ := reached.append
      exact ⟨rfl, start, isStart, .tail' chain ⟨List.mem_append_right _ List.mem_cons_self, named⟩⟩

namespace Progress

/-- Before any move, the names of all uses clauses are pending. -/
theorem start (own : given.OwnNames) (noneMissing : given.missing = []) :
    Progress tree directories given program (pendingNames given program, ⟨given, [], none⟩) where
  notFailed := rfl
  ownNames := own
  enlarges := ⟨[], (List.append_nil _).symm, fun entry member => (List.not_mem_nil member).elim⟩
  absent name member := by
    rw [noneMissing] at member
    cases member
  awaited user member name named := by
    left
    rw [pendingNames, List.mem_reverse, List.mem_append]
    rcases List.mem_cons.1 member with rfl | isGiven
    · exact .inl named
    · exact .inr (List.mem_flatMap.2 ⟨user, isGiven, named⟩)
  wanted name pending := by
    rw [pendingNames, List.mem_reverse, List.mem_append] at pending
    rcases pending with named | named
    · exact ⟨program, named, program, List.mem_cons_self, .refl⟩
    · obtain ⟨user, isGiven, named⟩ := List.mem_flatMap.1 named
      exact ⟨user, named, user, List.mem_cons_of_mem _ isGiven, .refl⟩

/-- Taking a name that is known keeps all that was achieved. -/
theorem skip (progress : Progress tree directories given program (name :: rest, loading))
    (known : loading.Knows name) : Progress tree directories given program (rest, loading) where
  notFailed := progress.notFailed
  ownNames := progress.ownNames
  enlarges := progress.enlarges
  absent := progress.absent
  awaited user member used named := by
    rcases progress.awaited user member used named with pending | knows
    · rcases List.mem_cons.1 pending with rfl | later
      · exact .inr known
      · exact .inl later
    · exact .inr knows
  wanted used pending := progress.wanted used (List.mem_cons_of_mem _ pending)

/-- A name without a file joins the names that are missing. -/
theorem miss (progress : Progress tree directories given program (name :: rest, loading))
    (absent : findFile? tree directories (name ++ unitSuffix) = none) :
    Progress tree directories given program (rest, loading.missed name) where
  notFailed := progress.notFailed
  ownNames := progress.ownNames
  enlarges := progress.enlarges
  absent used member := by
    rcases List.mem_append.1 member with earlier | last
    · exact progress.absent used earlier
    · rw [List.mem_singleton.1 last]
      exact absent
  awaited user member used named := by
    rcases progress.awaited user member used named with pending | stored | missing
    · rcases List.mem_cons.1 pending with rfl | later
      · exact .inr (.inr (List.mem_append_right _ List.mem_cons_self))
      · exact .inl later
    · exact .inr (.inl stored)
    · exact .inr (.inr (List.mem_append_left _ missing))
  wanted used pending := progress.wanted used (List.mem_cons_of_mem _ pending)

/-- A unit that is loaded is used by what was there, and what it uses becomes pending. -/
theorem load (progress : Progress tree directories given program (unit.name :: rest, loading))
    (new : ¬ loading.Knows unit.name) (path : String) :
    Progress tree directories given program
      (unit.usedNames.reverse ++ rest, loading.adding path unit) := by
  obtain ⟨user, named, reached⟩ := progress.wanted unit.name List.mem_cons_self
  have unitReached : Reached given program (loading.collection.loaded ++ [unit]) unit := by
    obtain ⟨start, isStart, chain⟩ := reached.append
    exact ⟨start, isStart, chain.tail ⟨List.mem_append_right _ List.mem_cons_self, named⟩⟩
  refine ⟨progress.notFailed, progress.ownNames.insert (not_stored_of_unknown new) path _,
    progress.enlarges.adding new path named reached, progress.absent, ?_, ?_⟩
  · intro other member used usedHere
    simp only [knows_adding new, List.mem_append, List.mem_reverse]
    rw [loaded_adding new, ← List.cons_append, List.mem_append, List.mem_singleton] at member
    rcases member with earlier | rfl
    · rcases progress.awaited other earlier used usedHere with pending | knows
      · rcases List.mem_cons.1 pending with same | later
        · exact .inr (.inr same)
        · exact .inl (.inr later)
      · exact .inr (.inl knows)
    · exact .inl (.inl usedHere)
  · intro used pending
    rw [loaded_adding new]
    rcases List.mem_append.1 pending with usedHere | later
    · exact ⟨unit, List.mem_reverse.1 usedHere, unitReached⟩
    · obtain ⟨other, usedThere, otherReached⟩ := progress.wanted used (List.mem_cons_of_mem _ later)
      exact ⟨other, usedThere, otherReached.append⟩

/-- Every move keeps what was achieved. -/
theorem move (progress : Progress tree directories given program now)
    (moved : Move tree directories now later) : Progress tree directories given program later := by
  cases moved with
  | skip known => exact progress.skip known
  | miss new absent => exact progress.miss absent
  | load new found loaded => exact progress.load new _

/-- Any number of moves keep what was achieved. -/
theorem moves (progress : Progress tree directories given program now)
    (moved : Relation.ReflTransGen (Move tree directories) now later) :
    Progress tree directories given program later := by
  induction moved with
  | refl => exact progress
  | tail _ last ih => exact ih.move last

end Progress

/-- Loading stops for a file without a unit or with another one, never for two units of one
name. -/
theorem Halt.ne_duplicateUnit {failure : Failure} (halt : Halt tree directories now failure)
    (name path existing : String) : failure ≠ .duplicateUnit name path existing := by
  rintro rfl
  cases halt with
  | unreadable found failed =>
    unfold loadUnit at failed
    split at failed
    · cases failed
    · split at failed <;> cases failed

end Steps

end Loading

/-- What loading has done when it reports no failure. -/
structure ClosesUses (tree : Tree) (directories : List String) (given : Collection)
    (program : ObjectUnit) (result : Collection) : Prop where
  enlarges : Loading.Enlarges given program result
  resolved : ∀ user ∈ program :: result.loaded, ∀ name ∈ user.usedNames,
    name ∈ result.loaded.map ObjectUnit.name ∨ name ∈ result.missing
  absent : ∀ name ∈ result.missing, ∀ directory ∈ directories,
    ¬ HoldsFile tree directory (name ++ unitSuffix)
  /-- The linker finds every unit, except those that are missing. -/
  unresolved : ∀ options used usedBy span,
    link result.loaded program options = .error (.refused (.unresolvedUnit used usedBy span))
      → used ∈ result.missing
  /-- The linker finds no two units of one name. -/
  duplicate : ∀ options name span,
    link result.loaded program options = .error (.refused (.duplicateUnit name span))
      → name = program.name ∧ name ∈ result.loaded.map ObjectUnit.name

section Closing

variable {tree : Tree} {directories : List String} {given : Collection} {program : ObjectUnit}
  {loading : Loading}

/-- With nothing pending, progress is all that there is to do. -/
theorem closesUses_of_progress
    (progress : Loading.Progress tree directories given program ([], loading)) :
    ClosesUses tree directories given program loading.collection := by
  have names := progress.ownNames.map_name_loaded
  have resolved : ∀ user ∈ program :: loading.collection.loaded, ∀ name ∈ user.usedNames,
      name ∈ loading.collection.loaded.map ObjectUnit.name ∨ name ∈ loading.collection.missing := by
    intro user member name named
    rw [names]
    exact (progress.awaited user member name named).resolve_left List.not_mem_nil
  refine ⟨progress.enlarges, resolved, ?_, ?_, ?_⟩
  · intro name missing
    exact findFile?_eq_none_iff.1 (progress.absent name missing)
  · intro options used usedBy span refused
    obtain ⟨notSupplied, user, member, named⟩ := (Link.unordered_of_link refused rfl).exists_user
    exact (resolved user member used named).resolve_left notSupplied
  · intro options name span refused
    have distinct : (loading.collection.loaded.map ObjectUnit.name).Nodup :=
      names ▸ loading.collection.units.distinct
    exact (Link.unordered_of_link refused rfl).eq_program_name distinct

/-- Loading the used units after any files were given ends: it makes moves, none of which can
be repeated for ever, until nothing is pending or a file cannot be taken. It never finds two
units of one name, and without a failure the uses are closed. The tree is a snapshot without
links, in which the stored name of a file is the name that it is found by; with links, a file
could be found by one name and loaded by another. -/
theorem addUsedUnits_closes_uses {files : List String} (program : ObjectUnit)
    (gathered : files.foldlM (fun collection file => collection.addFile tree directories file)
      Collection.empty = .ok given) :
    (WellFounded fun later now => Loading.Move tree directories now later)
      ∧ (∃ last, Relation.ReflTransGen (Loading.Move tree directories)
          (pendingNames given program, ⟨given, [], none⟩) last
        ∧ Loading.Ends tree directories last (addUsedUnits tree directories given program))
      ∧ (∀ name path existing, (addUsedUnits tree directories given program).failure
          ≠ some (.duplicateUnit name path existing))
      ∧ ((addUsedUnits tree directories given program).failure = none
        → ClosesUses tree directories given program
          (addUsedUnits tree directories given program).collection) := by
  have noUnits : Collection.empty.OwnNames := fun entry member => (List.not_mem_nil member).elim
  obtain ⟨own, noneMissing⟩ := Collection.ownNames_of_addFiles noUnits rfl gathered
  obtain ⟨last, moved, ended⟩ :=
    Loading.exists_end tree directories (pendingNames given program) ⟨given, [], none⟩
  have progress := (Loading.Progress.start own noneMissing).moves moved
  refine ⟨Loading.wellFounded_move tree directories, ⟨last, moved, ended⟩, ?_⟩
  cases ended with
  | finished nothing same =>
    obtain ⟨pending, loading⟩ := last
    cases nothing
    rw [addUsedUnits, same, progress.notFailed]
    refine ⟨?_, fun _ => closesUses_of_progress progress⟩
    intro name path existing failed
    cases failed
  | failed halt reported collected =>
    rw [addUsedUnits, reported]
    constructor
    · intro name path existing failed
      exact halt.ne_duplicateUnit name path existing (Option.some.inj failed)
    · intro succeeded
      cases succeeded

end Closing

section Relay

/-- A unit that uses another one. -/
def relayUnit (name other : String) : ObjectUnit :=
  (ObjectUnit.empty name .unit none).attemptAll [.use other none]

/-- A directory with the files of two units that use each other. -/
def relayTree : Tree :=
  ⟨.directory [("lib", .directory [("Even.unit", .file (relayUnit "Even" "Odd").encode),
    ("Odd.unit", .file (relayUnit "Odd" "Even").encode)])], []⟩

/-- A program that uses a unit that no file holds. -/
def relayProgram : ObjectUnit :=
  (ObjectUnit.empty "Main" .program none).attemptAll [.use "Even" none, .use "Ghost" none]

/-- The collection once one of the two units is given. -/
def relayGiven : Collection :=
  ⟨Table.empty.insert "Odd" ("/lib/Odd.unit", relayUnit "Odd" "Even"), []⟩

/-- The state once the other one is loaded. -/
def relayLoaded : Loading :=
  (⟨relayGiven, [], none⟩ : Loading).adding "/lib/Even.unit" (relayUnit "Even" "Odd")

/-- The pending names are taken one by one; those of loaded units are passed over. -/
theorem addUsedUnits_relay :
    addUsedUnits relayTree ["/lib"] relayGiven relayProgram = relayLoaded.missed "Ghost" := by
  have even : Loading.Move relayTree ["/lib"] (["Even", "Ghost", "Even"], ⟨relayGiven, [], none⟩)
      (["Odd", "Ghost", "Even"], relayLoaded) :=
    @Loading.Move.load relayTree ["/lib"] ["Ghost", "Even"] ⟨relayGiven, [], none⟩ "/lib/Even.unit"
      (relayUnit "Even" "Odd") (mt Loading.knows_iff.1 (by decide +kernel)) (by decide +kernel)
      (by decide +kernel)
  have odd : Loading.Move relayTree ["/lib"] (["Odd", "Ghost", "Even"], relayLoaded)
      (["Ghost", "Even"], relayLoaded) := .skip (Loading.knows_iff.2 (by decide +kernel))
  have ghost : Loading.Move relayTree ["/lib"] (["Ghost", "Even"], relayLoaded)
      (["Even"], relayLoaded.missed "Ghost") :=
    .miss (mt Loading.knows_iff.1 (by decide +kernel)) (by decide +kernel)
  have again : Loading.Move relayTree ["/lib"] (["Even"], relayLoaded.missed "Ghost")
      ([], relayLoaded.missed "Ghost") := .skip (Loading.knows_iff.2 (by decide +kernel))
  have moved := (((Relation.ReflTransGen.single even).tail odd).tail ghost).tail again
  have pending : pendingNames relayGiven relayProgram = ["Even", "Ghost", "Even"] := by cbv
  have ended : Loading.loadPending relayTree ["/lib"] [] (relayLoaded.missed "Ghost")
      = relayLoaded.missed "Ghost" := by rw [Loading.loadPending]
  rw [addUsedUnits, pending]
  exact (Loading.loadPending_of_moves moved).trans ended

end Relay

/-- One of two units that use each other is given. The other one is loaded after it, once, and
the unit without a file is missing. -/
theorem addUsedUnits_closes_uses_relay :
    ["Odd.unit"].foldlM
        (fun collection file => Collection.addFile collection relayTree ["/lib"] file)
        Collection.empty = .ok relayGiven
      ∧ (addUsedUnits relayTree ["/lib"] relayGiven relayProgram).failure = none
      ∧ (addUsedUnits relayTree ["/lib"] relayGiven relayProgram).collection.units.names
        = ["Odd", "Even"]
      ∧ (addUsedUnits relayTree ["/lib"] relayGiven relayProgram).collection.missing = ["Ghost"]
      ∧ ClosesUses relayTree ["/lib"] relayGiven relayProgram
        (addUsedUnits relayTree ["/lib"] relayGiven relayProgram).collection := by
  have gathered : ["Odd.unit"].foldlM
      (fun collection file => Collection.addFile collection relayTree ["/lib"] file)
      Collection.empty = .ok relayGiven := by decide +kernel
  obtain ⟨_, _, _, closes⟩ := addUsedUnits_closes_uses relayProgram gathered
  rw [addUsedUnits_relay] at closes ⊢
  exact ⟨gathered, rfl, by decide +kernel, by decide +kernel, closes rfl⟩

end UnitLinker.Command
