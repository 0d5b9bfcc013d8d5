import UnitLinker.Binary.UnitFormat
import UnitLinker.Command.Failure
import UnitLinker.Counting
import UnitLinker.Files.Lemmas
import UnitLinker.Journal

/-!
# Loading units

Units are named on the command line, or found by the names in uses clauses in a
list of directories. Loading follows the uses clauses of what it finds until
nothing new is named. Names that no directory has are left to the linker.
-/

namespace UnitLinker.Command

open Files (Tree)
open Journal (Record)

/-- The suffix of the files that hold units. -/
def unitSuffix : String := ".unit"

/-- The path with the name that the file system has for its last segment. -/
def withStoredName (tree : Tree) (path : String) : String :=
  match tree.resolve path with
  | .ok position => match position.names.head? with
    | some name => Path.withFileName path name
    | none => path
  | .error _ => path

/-- A file in the first of several directories that has it. -/
def findFile? (tree : Tree) (directories : List String) (file : String) : Option String :=
  directories.findSome? fun directory =>
    let path := Path.join directory file
    if tree.isDirectory directory && tree.exists? path then some (withStoredName tree path)
    else none

/-- The unit in a file. -/
def loadUnit (tree : Tree) (path : String) : Except Failure ObjectUnit :=
  match tree.read path with
  | .error error => .error (.readFailed path error.text)
  | .ok content =>
    match ObjectUnit.decode content with
    | .error error => .error (.readFailed path error.text)
    | .ok unit => .ok unit

/-- The units to link, by name and in the order of loading. -/
structure Collection where
  /-- Each unit with the path of its file. -/
  units : Table (String × ObjectUnit)
  /-- Names that were looked for in vain. -/
  missing : List String
  deriving DecidableEq, Repr

namespace Collection

/-- Nothing loaded. -/
def empty : Collection := ⟨.empty, []⟩

/-- Adds a unit with the path of its file. The same file may be added again, but
two files cannot hold units of one name. -/
def add (collection : Collection) (tree : Tree) (path : String) (unit : ObjectUnit) :
    Except Failure Collection :=
  match collection.units.get? unit.name with
  | some (existing, _) =>
    if tree.samePlace existing path then .ok collection
    else .error (.duplicateUnit unit.name path existing)
  | none => .ok ⟨collection.units.insert unit.name (path, unit), collection.missing⟩

/-- Adds a unit file that is given as a path or as a name in the search directories. -/
def addFile (collection : Collection) (tree : Tree) (directories : List String) (file : String) :
    Except Failure Collection := do
  let path ← if tree.exists? file then pure file
    else match findFile? tree directories file with
      | some path => pure path
      | none => throw (.fileNotFound file)
  let unit ← loadUnit tree path
  collection.add tree path unit

/-- The units in the order of loading. -/
def loaded (collection : Collection) : List ObjectUnit := collection.units.values.map Prod.snd

end Collection

/-- How loading went: what was collected and noted, up to a failure if there is one. -/
structure Loading where
  collection : Collection
  notes : List Record
  failure : Option Failure
  deriving DecidableEq, Repr

/-- Whether the content of a file is a unit that a collection does not have; a
directory has no content. -/
def holdsNew (collection : Collection) : Option Binary.Bytes → Bool
  | none => false
  | some content => match ObjectUnit.decode content with
    | .ok unit => !collection.units.contains unit.name
    | .error _ => false

/-- How many files of a tree hold units that a collection does not have. -/
def unloaded (tree : Tree) (collection : Collection) : Nat :=
  tree.listing.countP fun item => holdsNew collection item.2

theorem decode_of_loadUnit {tree : Tree} {path : String} {unit : ObjectUnit}
    (loaded : loadUnit tree path = .ok unit) :
    ∃ content, tree.read path = .ok content ∧ ObjectUnit.decode content = .ok unit := by
  unfold loadUnit at loaded
  split at loaded
  · cases loaded
  · rename_i content readEq
    split at loaded
    · cases loaded
    · rename_i stored decodeEq
      cases loaded
      exact ⟨content, readEq, decodeEq⟩

/-- Adding a unit adds its name and keeps all others. -/
theorem Collection.contains_add {collection changed : Collection} {tree : Tree} {path : String}
    {unit : ObjectUnit} (added : collection.add tree path unit = .ok changed) (name : String) :
    changed.units.contains name = (decide (name = unit.name) || collection.units.contains name) := by
  unfold Collection.add at added
  split at added
  · rename_i existing found
    split at added
    · cases added
      by_cases same : name = unit.name
      · subst same
        simp [Table.contains, found]
      · simp [same]
    · cases added
  · cases added
    exact Table.contains_insert _ _ _ _

/-- Loading a unit that a collection does not have leaves fewer such files. -/
theorem unloaded_add_lt {collection changed : Collection} {tree : Tree} {path : String}
    {unit : ObjectUnit} (loaded : loadUnit tree path = .ok unit)
    (new : collection.units.contains unit.name = false)
    (added : collection.add tree path unit = .ok changed) :
    unloaded tree changed < unloaded tree collection := by
  obtain ⟨content, readEq, decodeEq⟩ := decode_of_loadUnit loaded
  obtain ⟨place, member⟩ := Tree.mem_listing_of_read readEq
  refine countP_lt_countP ?_ (place, some content) member ?_ ?_
  · intro item outside
    cases held : item.2 with
    | none => simp [holdsNew, held] at outside
    | some stored =>
      simp only [holdsNew, held] at outside ⊢
      split at outside
      · rename_i other otherEq
        rw [Collection.contains_add added] at outside
        simp only [Bool.not_or, Bool.and_eq_true] at outside
        exact outside.2
      · cases outside
  · simp [holdsNew, decodeEq, new]
  · simp [holdsNew, decodeEq, Collection.contains_add added]

namespace Loading

/-- The state with one more note. -/
def noting (loading : Loading) (text : String) : Loading :=
  ⟨loading.collection, loading.notes ++ [⟨.debug, .unitFiles, text⟩], loading.failure⟩

/-- The state with a failure. -/
def failing (loading : Loading) (failure : Failure) : Loading :=
  ⟨loading.collection, loading.notes, some failure⟩

/-- Loads the units with pending names and all units that they name; the first
pending name is taken next. Every loaded unit makes the files with new units
fewer, so loading ends also when units name each other. -/
def loadPending (tree : Tree) (directories : List String) (pending : List String)
    (loading : Loading) : Loading :=
  match pending with
  | [] => loading
  | name :: rest =>
    if _known : loading.collection.units.contains name || loading.collection.missing.contains name then
      loadPending tree directories rest loading
    else match findFile? tree directories (name ++ unitSuffix) with
      | none =>
        let loading := loading.noting s!"unit {name} not found in search dirs"
        loadPending tree directories rest
          ⟨⟨loading.collection.units, loading.collection.missing ++ [name]⟩, loading.notes,
            loading.failure⟩
      | some path =>
        match _loadedEq : loadUnit tree path with
        | .error failure => loading.failing failure
        | .ok unit =>
          if _named : unit.name ≠ name then
            loading.failing (.unexpectedUnit path name unit.name)
          else
            match _addedEq : loading.collection.add tree path unit with
            | .error failure =>
              (loading.noting s!"unit {name} loaded from {path}").failing failure
            | .ok collection =>
              loadPending tree directories (unit.usedNames.reverse ++ rest)
                ⟨collection, (loading.noting s!"unit {name} loaded from {path}").notes,
                  loading.failure⟩
termination_by (unloaded tree loading.collection, pending.length)
decreasing_by
  · exact Prod.Lex.right _ (Nat.lt_succ_self _)
  · exact Prod.Lex.right _ (Nat.lt_succ_self _)
  · apply Prod.Lex.left
    have new : loading.collection.units.contains unit.name = false := by
      simp only [ne_eq, Decidable.not_not] at _named
      simp only [Bool.or_eq_true, not_or, Bool.not_eq_true] at _known
      rw [_named]
      exact _known.1
    exact unloaded_add_lt _loadedEq new _addedEq

end Loading

/-- The names that loading starts with, the last one first: those that the program
uses, and those that the units given on the command line use. -/
def pendingNames (collection : Collection) (program : ObjectUnit) : List String :=
  (program.usedNames ++ collection.loaded.flatMap ObjectUnit.usedNames).reverse

/-- Adds the units that a program and the units of a collection name. -/
def addUsedUnits (tree : Tree) (directories : List String) (collection : Collection)
    (program : ObjectUnit) : Loading :=
  Loading.loadPending tree directories (pendingNames collection program) ⟨collection, [], none⟩

end UnitLinker.Command
