import ViewModel.Schema.Registry

/-!
# What a registry holds

Membership in tables and registries, and how it changes as entries are put and structures added.

* `Table.mem_of_mem_ofList`: nothing stands in a table but what was put;
* `mem_structures_iff`, `lookup?_eq_some_iff`: a structure is in a registry if it is found under its name;
* `mem_structures_add`: adding a structure takes away only the one of its name;
* `declarations_add_of_new`: a structure of a new name is declared last;
* `forall_mem_foldl_add`: what holds of a registry and of all that is added holds in the end;
* `exists_mem_foldl_add`: the name of an added structure stays taken.
-/

namespace ViewModel

namespace Table

variable {α : Type u}

theorem mem_of_mem_putEntries {entries : List (String × α)} {name : String} {value : α}
    {entry : String × α} (h : entry ∈ putEntries entries name value) :
    entry = (name, value) ∨ entry ∈ entries := by
  induction entries with
  | nil => exact .inl (List.mem_singleton.1 h)
  | cons first rest ih =>
    simp only [putEntries] at h
    split at h
    · rename_i same
      rcases List.mem_cons.1 h with rfl | h
      · exact .inl (by rw [same])
      · exact .inr (List.mem_cons_of_mem _ h)
    · rcases List.mem_cons.1 h with rfl | h
      · exact .inr List.mem_cons_self
      · exact (ih h).imp_right (List.mem_cons_of_mem _)

theorem mem_of_mem_foldl_put {entries : List (String × α)} {table : Table α} {entry : String × α}
    (h : entry ∈ (entries.foldl (fun table entry => table.put entry.1 entry.2) table).entries) :
    entry ∈ entries ∨ entry ∈ table.entries := by
  induction entries generalizing table with
  | nil => exact .inr h
  | cons first rest ih =>
    rcases ih h with mem | mem
    · exact .inl (List.mem_cons_of_mem _ mem)
    · rcases mem_of_mem_putEntries mem with rfl | mem
      · exact .inl List.mem_cons_self
      · exact .inr mem

theorem mem_of_mem_ofList {entries : List (String × α)} {entry : String × α}
    (h : entry ∈ (ofList entries).entries) : entry ∈ entries := by
  rcases mem_of_mem_foldl_put h with mem | mem
  · exact mem
  · cases mem

theorem putEntries_of_not_mem {entries : List (String × α)} {name : String}
    (absent : name ∉ entries.map (·.1)) (value : α) :
    putEntries entries name value = entries ++ [(name, value)] := by
  induction entries with
  | nil => rfl
  | cons first rest ih =>
    rw [List.map_cons, List.mem_cons, not_or] at absent
    obtain ⟨apart, later⟩ := absent
    rw [putEntries, if_neg (Ne.symm apart), ih later]
    rfl

end Table

namespace Schema.Registry

variable {registry : Registry} {added found : Structure}

theorem mem_structures_iff : found ∈ registry.structures ↔ registry.table.get? found.name = some found := by
  rw [Table.get?_eq_some_iff]
  constructor
  · intro h
    obtain ⟨entry, mem, rfl⟩ := List.mem_map.1 h
    have same := registry.named entry mem
    rw [same]
    exact mem
  · exact fun h => List.mem_map.2 ⟨_, h, rfl⟩

theorem lookup?_eq_some_iff {typeName : String} :
    registry.lookup? typeName = some found ↔
      found ∈ registry.structures ∧ found.name = finalSegment typeName := by
  constructor
  · intro h
    have mem := Table.get?_eq_some_iff.1 h
    exact ⟨List.mem_map.2 ⟨_, mem, rfl⟩, registry.named _ mem⟩
  · rintro ⟨mem, named⟩
    rw [mem_structures_iff, named] at mem
    exact mem

theorem mem_structures_of_lookup? {typeName : String} (h : registry.lookup? typeName = some found) :
    found ∈ registry.structures :=
  (lookup?_eq_some_iff.1 h).1

theorem mem_structures_add :
    found ∈ (registry.add added).structures ↔
      found = added ∨ found ∈ registry.structures ∧ found.name ≠ added.name := by
  rw [mem_structures_iff, mem_structures_iff]
  change (registry.table.put added.name added).get? found.name = some found ↔ _
  rw [Table.get?_put]
  by_cases same : found.name = added.name
  · simp only [same, if_true, Option.some.injEq, ne_eq, not_true, and_false, or_false]
    exact eq_comm
  · have apart : found ≠ added := fun h => same (h ▸ rfl)
    simp [same, apart]

/-- A structure of a new name comes last. -/
theorem structures_add_of_new (fresh : added.name ∉ registry.names) :
    (registry.add added).structures = registry.structures ++ [added] := by
  change (Table.putEntries registry.table.entries added.name added).map (·.2) = _
  rw [Table.putEntries_of_not_mem fresh, List.map_append]
  rfl

theorem mem_structures_add_of_new (fresh : added.name ∉ registry.names) (mem : found ∈ registry.structures) :
    found ∈ (registry.add added).structures := by
  rw [structures_add_of_new fresh]
  exact List.mem_append_left _ mem

theorem declarations_add_of_new (fresh : added.name ∉ registry.names) (declared : added.isDeclared = true) :
    (registry.add added).declarations = registry.declarations ++ [added] := by
  unfold declarations
  have kept : [added].filter Structure.isDeclared = [added] := List.filter_cons_of_pos declared
  rw [structures_add_of_new fresh, List.filter_append, kept]

theorem forall_mem_foldl_add {P : Structure → Prop} {additions : List Structure}
    (start : ∀ found ∈ registry.structures, P found) (h : ∀ added ∈ additions, P added) :
    ∀ found ∈ (additions.foldl add registry).structures, P found := by
  induction additions generalizing registry with
  | nil => exact start
  | cons first rest ih =>
    refine ih ?_ fun added mem => h added (List.mem_cons_of_mem _ mem)
    intro found mem
    rcases mem_structures_add.1 mem with rfl | ⟨mem, -⟩
    · exact h _ List.mem_cons_self
    · exact start found mem

theorem exists_mem_foldl_add_of_mem {P : Structure → Prop} {name : String} {additions : List Structure}
    (start : ∃ found ∈ registry.structures, found.name = name ∧ P found)
    (h : ∀ added ∈ additions, added.name = name → P added) :
    ∃ found ∈ (additions.foldl add registry).structures, found.name = name ∧ P found := by
  induction additions generalizing registry with
  | nil => exact start
  | cons first rest ih =>
    refine ih ?_ fun added mem => h added (List.mem_cons_of_mem _ mem)
    by_cases same : first.name = name
    · exact ⟨first, mem_structures_add.2 (.inl rfl), same, h first List.mem_cons_self same⟩
    · obtain ⟨found, mem, rfl, holds⟩ := start
      exact ⟨found, mem_structures_add.2 (.inr ⟨mem, Ne.symm same⟩), rfl, holds⟩

/-- The name of an added structure stays taken, by a structure that was added under it. -/
theorem exists_mem_foldl_add {P : Structure → Prop} {additions : List Structure} (mem : added ∈ additions)
    (h : ∀ other ∈ additions, other.name = added.name → P other) :
    ∃ found ∈ (additions.foldl add registry).structures, found.name = added.name ∧ P found := by
  induction additions generalizing registry with
  | nil => cases mem
  | cons first rest ih =>
    have later : ∀ other ∈ rest, other.name = added.name → P other :=
      fun other mem => h other (List.mem_cons_of_mem _ mem)
    rw [List.foldl_cons]
    rcases List.mem_cons.1 mem with rfl | mem
    · have here := h added List.mem_cons_self rfl
      exact exists_mem_foldl_add_of_mem ⟨added, mem_structures_add.2 (.inl rfl), rfl, here⟩ later
    · exact ih mem later

end Schema.Registry

end ViewModel
