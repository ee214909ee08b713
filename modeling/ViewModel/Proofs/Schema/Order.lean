import Mathlib.Data.List.Nodup
import ViewModel.Proofs.Schema.Builder
import ViewModel.Proofs.Schema.Contribution

/-!
# The order of the sources

Sources whose structures have distinct names load to the same entries in every order, whether they replace
built-in structures or not. Only where the entries stand depends on the order.

* `lastNamed?_perm`: among structures of distinct names the last one of a name is the only one;
* `get?_foldl_add`: what is found in a registry of additions to the built-in one;
* `SameEntries.structures_perm`: registries of the same entries hold the same structures;
* `load_of_perm`: permuted sources load to the same entries.
-/

namespace ViewModel.Schema

variable {added other : List Structure} {name : String} {found : Structure}

theorem lastNamed?_append (added later : List Structure) (name : String) :
    lastNamed? (added ++ later) name = (lastNamed? later name).or (lastNamed? added name) := by
  unfold lastNamed?
  rw [List.reverse_append, List.find?_append]

theorem lastNamed?_eq_some_iff (distinct : (added.map Structure.name).Nodup) :
    lastNamed? added name = some found ↔ found ∈ added ∧ found.name = name := by
  unfold lastNamed?
  constructor
  · intro looked
    have named := List.find?_some looked
    exact ⟨List.mem_reverse.1 (List.mem_of_find?_eq_some looked), by simpa using named⟩
  · rintro ⟨mem, rfl⟩
    have some : (added.reverse.find? (·.name == found.name)).isSome := by
      rw [List.find?_isSome]
      exact ⟨found, List.mem_reverse.2 mem, by simp⟩
    obtain ⟨last, looked⟩ := Option.isSome_iff_exists.1 some
    have held := List.mem_reverse.1 (List.mem_of_find?_eq_some looked)
    have named : last.name = found.name := by simpa using List.find?_some looked
    rw [looked, List.inj_on_of_nodup_map distinct held mem named]

theorem lastNamed?_perm (perm : added.Perm other) (distinct : (added.map Structure.name).Nodup)
    (name : String) : lastNamed? added name = lastNamed? other name := by
  have distinct' : (other.map Structure.name).Nodup := (perm.map _).nodup_iff.1 distinct
  apply Option.ext
  intro found
  rw [lastNamed?_eq_some_iff distinct, lastNamed?_eq_some_iff distinct', perm.mem_iff]

namespace Registry

/-- The registries have the same entries, in whatever order. -/
def SameEntries (registry other : Registry) : Prop :=
  ∀ name, registry.table.get? name = other.table.get? name

theorem get?_foldl_add (additions : List Structure) (name : String) :
    (additions.foldl add empty.seed).table.get? name =
      (lastNamed? additions name).or (lastNamed? builtIns name) := by
  have tracks := tracks_foldl_add tracks_empty (builtIns ++ additions)
  rw [List.foldl_append] at tracks
  rw [← lastNamed?_append]
  exact tracks.get? name

theorem map_name_structures (registry : Registry) : registry.structures.map Structure.name = registry.names := by
  unfold structures names Table.values Table.names
  rw [List.map_map]
  exact List.map_congr_left registry.named

theorem nodup_structures (registry : Registry) : registry.structures.Nodup := by
  apply List.Nodup.of_map Structure.name
  rw [map_name_structures]
  exact registry.table.distinct

theorem nodup_declared (registry : Registry) : (registry.declarations.map Structure.name).Nodup := by
  have distinct : (registry.structures.map Structure.name).Nodup := by
    rw [map_name_structures]
    exact registry.table.distinct
  exact distinct.sublist (List.filter_sublist.map _)

namespace SameEntries

variable {registry other : Registry} (same : registry.SameEntries other)
include same

theorem lookup? (typeName : String) : registry.lookup? typeName = other.lookup? typeName := same _

theorem structures_perm : registry.structures.Perm other.structures := by
  apply (List.perm_ext_iff_of_nodup registry.nodup_structures other.nodup_structures).2
  intro found
  rw [mem_structures_iff, mem_structures_iff, same]

theorem declarations_perm : registry.declarations.Perm other.declarations :=
  same.structures_perm.filter _

end SameEntries

end Registry

/-- Sources whose structures have distinct names load to the same entries in every order. -/
theorem load_of_perm {sources permuted : List Source} (perm : sources.Perm permuted)
    (distinct : ((sources.filterMap Source.loaded?).map Structure.name).Nodup) {registry : Registry}
    (loaded : (load sources).outcome = .ok registry) :
    ∃ other, (load permuted).outcome = .ok other ∧ registry.SameEntries other := by
  obtain ⟨each, rfl⟩ := outcome_load_eq_ok_iff.1 loaded
  refine ⟨_, outcome_load_eq_ok_iff.2 ⟨fun source mem => each source (perm.mem_iff.2 mem), rfl⟩, ?_⟩
  intro name
  have added := perm.filterMap Source.loaded?
  rw [Registry.get?_foldl_add, Registry.get?_foldl_add, lastNamed?_perm added distinct]

end ViewModel.Schema
