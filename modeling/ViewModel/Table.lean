/-!
# Tables

Entries under distinct names, in the order in which the names were first put. Putting a name again
replaces its entry where it stands.

* `get?_put`: a put is seen under its own name and changes no other;
* `names_put`: a new name comes last, and a known one moves nothing;
* `get?_eq_some_iff`: what is found under a name is the entry of that name.
-/

namespace ViewModel

structure Table (α : Type u) where
  entries : List (String × α)
  distinct : (entries.map (·.1)).Nodup := by simp

namespace Table

variable {α : Type u}

instance : Inhabited (Table α) := ⟨{ entries := [] }⟩

def empty : Table α := { entries := [] }

def names (table : Table α) : List String := table.entries.map (·.1)

/-- The entries in order of their names. -/
def values (table : Table α) : List α := table.entries.map (·.2)

def size (table : Table α) : Nat := table.entries.length

def get? (table : Table α) (name : String) : Option α := table.entries.lookup name

def contains (table : Table α) (name : String) : Bool := table.names.contains name

/-- The entries with `name` replaced where it stands, or put last. -/
def putEntries (entries : List (String × α)) (name : String) (value : α) : List (String × α) :=
  match entries with
  | [] => [(name, value)]
  | (key, old) :: rest =>
    if key = name then (key, value) :: rest else (key, old) :: putEntries rest name value

theorem map_putEntries (entries : List (String × α)) (name : String) (value : α) :
    (putEntries entries name value).map (·.1) =
      if name ∈ entries.map (·.1) then entries.map (·.1) else entries.map (·.1) ++ [name] := by
  induction entries with
  | nil => simp [putEntries]
  | cons entry rest ih =>
    obtain ⟨key, old⟩ := entry
    by_cases same : key = name
    · simp [putEntries, same]
    · have other : ¬ name = key := fun h => same h.symm
      simp only [putEntries, same, if_false, List.map_cons, ih, List.mem_cons, other, false_or]
      split <;> simp

theorem lookup_putEntries (entries : List (String × α)) (name other : String) (value : α) :
    (putEntries entries name value).lookup other =
      if other = name then some value else entries.lookup other := by
  induction entries with
  | nil =>
    by_cases same : other = name
    · simp [putEntries, same]
    · have apart : (other == name) = false := by simpa using same
      simp [putEntries, List.lookup_cons, apart, same]
  | cons entry rest ih =>
    obtain ⟨key, old⟩ := entry
    by_cases here : other = key
    · by_cases same : key = name
      · simp [putEntries, here, same]
      · simp [putEntries, here, same]
    · have apart : (other == key) = false := by simpa using here
      by_cases same : key = name
      · subst same
        simp [putEntries, List.lookup_cons, apart, here]
      · simp [putEntries, List.lookup_cons, apart, same, ih]

def put (table : Table α) (name : String) (value : α) : Table α where
  entries := putEntries table.entries name value
  distinct := by
    rw [map_putEntries]
    split
    · exact table.distinct
    · rename_i absent
      rw [List.nodup_append]
      refine ⟨table.distinct, by simp, ?_⟩
      intro a ha b hb
      rw [List.mem_singleton] at hb
      subst hb
      exact fun same => absent (same ▸ ha)

/-- The entries put one after the other. -/
def ofList (entries : List (String × α)) : Table α :=
  entries.foldl (fun table entry => table.put entry.1 entry.2) empty

theorem get?_put (table : Table α) (name other : String) (value : α) :
    (table.put name value).get? other = if other = name then some value else table.get? other :=
  lookup_putEntries table.entries name other value

theorem names_put (table : Table α) (name : String) (value : α) :
    (table.put name value).names =
      if name ∈ table.names then table.names else table.names ++ [name] :=
  map_putEntries table.entries name value

theorem contains_iff {table : Table α} {name : String} :
    table.contains name = true ↔ name ∈ table.names := by
  simp [contains]

theorem get?_eq_some_iff {table : Table α} {name : String} {value : α} :
    table.get? name = some value ↔ (name, value) ∈ table.entries := by
  obtain ⟨entries, distinct⟩ := table
  simp only [get?]
  induction entries with
  | nil => simp
  | cons entry rest ih =>
    obtain ⟨key, old⟩ := entry
    rw [List.map_cons, List.nodup_cons] at distinct
    rw [List.mem_cons, Prod.mk.injEq]
    by_cases same : name = key
    · subst same
      have absent : (name, value) ∉ rest := fun mem => distinct.1 (List.mem_map.2 ⟨_, mem, rfl⟩)
      simp [absent, eq_comm]
    · have apart : (name == key) = false := by simpa using same
      rw [List.lookup_cons, apart]
      simp only [same, false_and, false_or]
      exact ih distinct.2

end Table

end ViewModel
