/-!
# Tables in insertion order

A `Table` maps names to values and remembers the order of insertion. No name
occurs twice: inserting a name that is already there replaces its value and
moves it to the end.
-/

namespace UnitLinker

universe u

/-- A finite map from names to values with an order of its entries. -/
structure Table (α : Type u) where
  /-- The entries, oldest first. -/
  entries : List (String × α)
  /-- Names are pairwise distinct. -/
  distinct : (entries.map Prod.fst).Nodup
  deriving DecidableEq

namespace Table

variable {α β : Type u}

/-- The table without entries. -/
def empty : Table α := ⟨[], List.nodup_nil⟩

instance : Inhabited (Table α) := ⟨empty⟩

instance [Repr α] : Repr (Table α) := ⟨fun table => reprPrec table.entries⟩

/-- The names of a table, oldest first. -/
def names (table : Table α) : List String := table.entries.map Prod.fst

/-- The values of a table, oldest first. -/
def values (table : Table α) : List α := table.entries.map Prod.snd

/-- The number of entries. -/
def size (table : Table α) : Nat := table.entries.length

/-- Whether a table has no entries. -/
def isEmpty (table : Table α) : Bool := table.entries.isEmpty

/-- The value under a name. -/
def get? (table : Table α) (name : String) : Option α := table.entries.lookup name

/-- Whether a name has a value. -/
def contains (table : Table α) (name : String) : Bool := (table.get? name).isSome

theorem distinct_move {entries : List (String × α)} (distinct : (entries.map Prod.fst).Nodup)
    (name : String) (value : α) :
    ((entries.filter (fun entry => entry.1 ≠ name) ++ [(name, value)]).map Prod.fst).Nodup := by
  rw [List.map_append, List.nodup_append]
  refine ⟨?_, by simp, ?_⟩
  · exact distinct.sublist ((List.filter_sublist).map _)
  · intro left leftMember right rightMember equal
    obtain ⟨entry, member, rfl⟩ := List.mem_map.1 leftMember
    have differs := (List.mem_filter.1 member).2
    simp at rightMember differs
    exact differs (equal.trans rightMember)

/-- Puts a value under a name, at the end of the order. -/
def insert (table : Table α) (name : String) (value : α) : Table α :=
  ⟨table.entries.filter (fun entry => entry.1 ≠ name) ++ [(name, value)],
    distinct_move table.distinct name value⟩

/-- Changes the value under a name in place, if there is one. -/
def adjust (table : Table α) (name : String) (change : α → α) : Table α :=
  ⟨table.entries.map (fun entry => if entry.1 = name then (entry.1, change entry.2) else entry), by
    have same : (table.entries.map
        (fun entry => if entry.1 = name then (entry.1, change entry.2) else entry)).map Prod.fst
        = table.entries.map Prod.fst := by
      rw [List.map_map]
      apply List.map_congr_left
      intro entry _
      simp only [Function.comp_apply]
      split <;> rfl
    rw [same]
    exact table.distinct⟩

/-- Applies a function to every value and keeps names and order. -/
def map (table : Table α) (change : String → α → β) : Table β :=
  ⟨table.entries.map (fun entry => (entry.1, change entry.1 entry.2)), by
    have same : (table.entries.map (fun entry => (entry.1, change entry.1 entry.2))).map Prod.fst
        = table.entries.map Prod.fst := by
      rw [List.map_map]
      apply List.map_congr_left
      intro entry _
      rfl
    rw [same]
    exact table.distinct⟩

/-- What a look-up finds is an entry. -/
theorem mem_of_lookup_eq_some {γ : Type u} [BEq γ] [LawfulBEq γ] {entries : List (γ × α)} {key : γ}
    {value : α} (found : entries.lookup key = some value) : (key, value) ∈ entries := by
  induction entries with
  | nil => cases found
  | cons head tail ih =>
    rw [List.lookup_cons] at found
    split at found
    · rename_i same
      cases found
      rw [eq_of_beq same]
      exact List.mem_cons_self
    · exact List.mem_cons_of_mem _ (ih found)

/-- Entries of another name do not matter to a look-up. -/
theorem lookup_filter_ne {name other : String} (differs : other ≠ name) (entries : List (String × α)) :
    (entries.filter fun entry => entry.1 ≠ name).lookup other = entries.lookup other := by
  induction entries with
  | nil => rfl
  | cons head tail ih =>
    obtain ⟨key, value⟩ := head
    by_cases same : key = name
    · have skips : (other == name) = false := by simpa using differs
      subst same
      rw [List.filter_cons_of_neg (by simp), ih, List.lookup_cons, skips]
    · rw [List.filter_cons_of_pos (by simpa using same), List.lookup_cons, List.lookup_cons, ih]

@[simp] theorem get?_insert_self (table : Table α) (name : String) (value : α) :
    (table.insert name value).get? name = some value := by
  have absent : (table.entries.filter fun entry => entry.1 ≠ name).lookup name = none := by
    rw [List.lookup_eq_none_iff]
    intro entry member
    have differs := (List.mem_filter.1 member).2
    simp only [ne_eq, decide_not, Bool.not_eq_eq_eq_not, Bool.not_true, decide_eq_false_iff_not] at differs
    simpa using fun equal : name = entry.1 => differs equal.symm
  simp only [get?, insert, List.lookup_append, absent]
  simp

theorem get?_insert_of_ne (table : Table α) {name other : String} (differs : other ≠ name) (value : α) :
    (table.insert name value).get? other = table.get? other := by
  simp only [get?, insert, List.lookup_append, lookup_filter_ne differs]
  have skips : (other == name) = false := by simpa using differs
  simp [List.lookup_cons, skips]

/-- Inserting keeps every name and adds one. -/
theorem contains_insert (table : Table α) (name other : String) (value : α) :
    (table.insert name value).contains other = (decide (other = name) || table.contains other) := by
  by_cases same : other = name
  · subst same
    simp [contains]
  · simp [contains, get?_insert_of_ne table same, same]

/-- Inserts entries one after another, so the last of two equal names stays. -/
def ofList (entries : List (String × α)) : Table α :=
  entries.foldl (fun table entry => table.insert entry.1 entry.2) empty

end Table

end UnitLinker
