/-
**Values by name.**

A `Table` maps names to values and lists them in the order of the names. That the names increase
strictly is part of the type, so two tables with the same entries are equal and no name occurs
twice.

* `Table.insert`: sets the value of a name, and `get?_insert` says what it changes;
* `Table.ofList`: sets the values of a list one after the other, so the last one of a name stays.
-/

namespace MetricRelay

/-- Values by name, in the order of the names. -/
structure Table (α : Type) where
  entries : List (String × α)
  increasing : entries.Pairwise (fun first second => first.1 < second.1)

namespace Table

variable {α β : Type}

/-- Tables with the same entries are equal. -/
theorem ext {first second : Table α} (same : first.entries = second.entries) : first = second := by
  cases first; cases second; simp_all

/-- The table without entries. -/
def empty : Table α := ⟨[], .nil⟩

instance : Inhabited (Table α) := ⟨empty⟩

instance : EmptyCollection (Table α) := ⟨empty⟩

/-- How many entries there are. -/
def size (table : Table α) : Nat := table.entries.length

/-- The value of a name. -/
def get? (table : Table α) (name : String) : Option α :=
  table.entries.lookup name

/-- Sets the value of a name in a list of entries that increases. -/
def insertEntry (name : String) (value : α) : List (String × α) → List (String × α)
  | [] => [(name, value)]
  | (other, held) :: rest =>
    if name < other then (name, value) :: (other, held) :: rest
    else if name = other then (name, value) :: rest
    else (other, held) :: insertEntry name value rest

/-- The names after setting a value. -/
theorem mem_insertEntry {name : String} {value : α} {entries : List (String × α)}
    {entry : String × α} (member : entry ∈ insertEntry name value entries) :
    entry.1 = name ∨ entry ∈ entries := by
  induction entries with
  | nil => simp_all [insertEntry]
  | cons head rest ih =>
    obtain ⟨other, held⟩ := head
    simp only [insertEntry] at member
    split at member
    · rcases List.mem_cons.mp member with rfl | member
      · exact .inl rfl
      · exact .inr member
    · split at member
      · rcases List.mem_cons.mp member with rfl | member
        · exact .inl rfl
        · exact .inr (List.mem_cons_of_mem _ member)
      · rcases List.mem_cons.mp member with rfl | member
        · exact .inr List.mem_cons_self
        · exact (ih member).imp id (List.mem_cons_of_mem _)

/-- Setting a value keeps the names increasing. -/
theorem insertEntry_increasing (name : String) (value : α) {entries : List (String × α)}
    (increasing : entries.Pairwise (fun first second => first.1 < second.1)) :
    (insertEntry name value entries).Pairwise (fun first second => first.1 < second.1) := by
  induction entries with
  | nil => exact List.pairwise_singleton _ _
  | cons head rest ih =>
    obtain ⟨other, held⟩ := head
    obtain ⟨above, tail⟩ := List.pairwise_cons.mp increasing
    simp only [insertEntry]
    split
    next below =>
      refine List.pairwise_cons.mpr ⟨fun entry member => ?_, increasing⟩
      rcases List.mem_cons.mp member with rfl | member
      · exact below
      · exact String.lt_trans below (above entry member)
    next notBelow =>
      split
      next same =>
        exact List.pairwise_cons.mpr ⟨fun entry member => same ▸ above entry member, tail⟩
      next different =>
        refine List.pairwise_cons.mpr ⟨fun entry member => ?_, ih tail⟩
        rcases mem_insertEntry member with named | member
        · exact named ▸ Std.lt_of_le_of_ne (String.not_lt.mp notBelow) (Ne.symm different)
        · exact above entry member

/-- Sets the value of a name. -/
def insert (table : Table α) (name : String) (value : α) : Table α :=
  ⟨insertEntry name value table.entries, insertEntry_increasing name value table.increasing⟩

/-- A lookup in entries with a first one. -/
theorem lookup_cons (name other : String) (value : α) (rest : List (String × α)) :
    ((name, value) :: rest).lookup other =
      if other = name then some value else rest.lookup other := by
  rw [List.lookup_cons]
  by_cases same : other = name
  · simp [same]
  · rw [if_neg same, beq_eq_false_iff_ne.mpr same]

/-- A lookup after setting a value in a list of entries. -/
theorem lookup_insertEntry (name other : String) (value : α) (entries : List (String × α)) :
    (insertEntry name value entries).lookup other =
      if other = name then some value else entries.lookup other := by
  induction entries with
  | nil => exact lookup_cons name other value []
  | cons head rest ih =>
    obtain ⟨key, held⟩ := head
    simp only [insertEntry]
    split
    next => exact lookup_cons name other value _
    next =>
      split
      next equal => subst equal; rw [lookup_cons, lookup_cons]; split <;> rfl
      next different =>
        rw [lookup_cons, lookup_cons, ih]
        by_cases same : other = key
        · rw [if_pos same, if_pos same, if_neg (same ▸ Ne.symm different)]
        · rw [if_neg same, if_neg same]

/-- **Setting the value of a name changes the value of that name only.** -/
theorem get?_insert (table : Table α) (name other : String) (value : α) :
    (table.insert name value).get? other =
      if other = name then some value else table.get? other :=
  lookup_insertEntry name other value table.entries

/-- Sets the values of a list, from the first to the last. -/
def ofList (entries : List (String × α)) : Table α :=
  entries.foldl (fun table entry => table.insert entry.1 entry.2) empty

end Table

end MetricRelay
