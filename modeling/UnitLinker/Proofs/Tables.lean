import Mathlib.Data.List.Forall2
import Mathlib.Data.List.Nodup
import UnitLinker.Table

/-!
# Looking up in tables

Since no name occurs twice, a look-up finds exactly the entries of a table, at
whatever place they stand.
-/

namespace UnitLinker.Table

variable {α β : Type}

/-- An entry is what a look-up of its name finds. -/
theorem lookup_of_mem {entries : List (String × α)} (distinct : (entries.map Prod.fst).Nodup)
    {name : String} {value : α} (member : (name, value) ∈ entries) :
    entries.lookup name = some value := by
  induction entries with
  | nil => cases member
  | cons head tail ih =>
    rw [List.map_cons, List.nodup_cons] at distinct
    rcases List.mem_cons.1 member with rfl | later
    · exact List.lookup_cons_self
    · have differs : (name == head.1) = false := by
        refine beq_eq_false_iff_ne.2 fun same => distinct.1 ?_
        exact List.mem_map.2 ⟨(name, value), later, same⟩
      rw [List.lookup_cons, differs]
      exact ih distinct.2 later

/-- A look-up finds exactly the entries of the table. -/
theorem get?_eq_some_iff {table : Table α} {name : String} {value : α} :
    table.get? name = some value ↔ (name, value) ∈ table.entries :=
  ⟨mem_of_lookup_eq_some, lookup_of_mem table.distinct⟩

/-- A look-up fails exactly for names that the table does not have. -/
theorem get?_eq_none_iff {table : Table α} {name : String} :
    table.get? name = none ↔ name ∉ table.names := by
  rw [Option.eq_none_iff_forall_ne_some]
  constructor
  · intro absent member
    obtain ⟨entry, entryMember, rfl⟩ := List.mem_map.1 member
    exact absent entry.2 (get?_eq_some_iff.2 entryMember)
  · intro absent value found
    exact absent (List.mem_map.2 ⟨(name, value), get?_eq_some_iff.1 found, rfl⟩)

theorem contains_iff_mem_names {table : Table α} {name : String} :
    table.contains name = true ↔ name ∈ table.names := by
  rw [contains, Option.isSome_iff_ne_none, ne_eq, get?_eq_none_iff, not_not]

theorem contains_eq_false_iff {table : Table α} {name : String} :
    table.contains name = false ↔ name ∉ table.names := by
  rw [← contains_iff_mem_names, Bool.not_eq_true]

@[simp] theorem length_names (table : Table α) : table.names.length = table.size :=
  List.length_map _

/-- The names stand in the order of the entries. -/
theorem getElem?_names_eq_some {table : Table α} {place : Nat} {name : String} :
    table.names[place]? = some name ↔ ∃ value, table.entries[place]? = some (name, value) := by
  rw [names, List.getElem?_map, Option.map_eq_some_iff]
  constructor
  · rintro ⟨⟨_, value⟩, found, rfl⟩
    exact ⟨value, found⟩
  · rintro ⟨value, found⟩
    exact ⟨(name, value), found, rfl⟩

/-- Names and values stand in the same order. -/
theorem forall₂_get? (table : Table α) :
    List.Forall₂ (fun name value => table.get? name = some value) table.names table.values := by
  rw [names, values, List.forall₂_map_left_iff, List.forall₂_map_right_iff, List.forall₂_same]
  intro entry member
  exact get?_eq_some_iff.2 member

@[simp] theorem get?_empty (name : String) : (empty : Table α).get? name = none := rfl

/-- A new name goes to the end and moves no other entry. -/
theorem entries_insert_of_new {table : Table α} {name : String} (new : name ∉ table.names)
    (value : α) : (table.insert name value).entries = table.entries ++ [(name, value)] := by
  have all : table.entries.filter (fun entry => entry.1 ≠ name) = table.entries := by
    rw [List.filter_eq_self]
    intro entry member
    have differs : entry.1 ≠ name := fun same => new (List.mem_map.2 ⟨entry, member, same⟩)
    simpa using differs
  simp only [insert, all]

/-- A new name comes last. -/
theorem names_insert_of_new {table : Table α} {name : String} (new : name ∉ table.names)
    (value : α) : (table.insert name value).names = table.names ++ [name] := by
  rw [names, entries_insert_of_new new, List.map_append]
  rfl

@[simp] theorem names_map (table : Table α) (change : String → α → β) :
    (table.map change).names = table.names := by
  simp [names, map]

/-- Two changes of all values are one. -/
theorem map_map {γ : Type} (table : Table α) (change : String → α → β)
    (other : String → β → γ) :
    (table.map change).map other = table.map fun name value => other name (change name value) := by
  simp [map]

/-- Changing the values of a table changes what look-ups find. -/
@[simp] theorem get?_map (table : Table α) (change : String → α → β) (name : String) :
    (table.map change).get? name = (table.get? name).map (change name) := by
  cases found : table.get? name with
  | none =>
    rw [get?_eq_none_iff] at found
    rw [Option.map_none, get?_eq_none_iff, names_map]
    exact found
  | some value =>
    rw [get?_eq_some_iff] at found
    rw [Option.map_some, get?_eq_some_iff]
    exact List.mem_map.2 ⟨(name, value), found, rfl⟩

end UnitLinker.Table
