import ViewModel.Proofs.Schema.Contribution
import ViewModel.Proofs.Schema.Registry

/-!
# What loaded registries keep

A registry that comes from sources holds the built-in structures, some of them replaced, and structures that
sources declare. What holds of both kinds, and is not lost by replacing, holds of every loaded registry.

* `loadable_of_contribution`: a source declares a named class or enum whose properties refer to
  unqualified names;
* `IsLoaded`, `isLoaded_of_load`: the invariant of loading, and that every loaded registry has it.
-/

namespace ViewModel

namespace Number

theorem Decimal.written_ne_empty (d : Decimal) : d.written ≠ "" := by
  unfold Decimal.written
  simp only
  split
  · split <;> simp
  · simp

theorem Binary.written_ne_empty (x : Binary) : x.written ≠ "" := by
  cases x with
  | undefined => simp [written]
  | infinite negative => cases negative <;> simp [written]
  | finite negative significand exponent =>
    rw [written, ne_eq, String.append_eq_empty_iff, not_and]
    intro _
    split
    · decide
    · exact Decimal.written_ne_empty _

end Number

theorem Tree.written_ne_empty {tree : Tree} (h : tree ≠ .text "") : tree.written ≠ "" := by
  cases tree with
  | nothing => simp [written, quoted]
  | flag value => cases value <;> simp [written, quoted]
  | integer value =>
    change toString value ≠ ""
    cases value with
    | ofNat n => exact Nat.repr_ne_empty
    | negSucc n => exact fun h => absurd (String.append_eq_empty_iff.1 h).1 (by decide)
  | decimal value => exact Number.Binary.written_ne_empty _
  | text value => exact fun empty => h (congrArg Tree.text empty)
  | list items => simp [written, quoted]
  | element fields => simp [written, quoted]

namespace Schema

theorem written_ne_empty_of_declared? {decl value : Tree} {name : String}
    (h : declared? decl name = .ok (some value)) : value.written ≠ "" := by
  refine Tree.written_ne_empty ?_
  rintro rfl
  exact absurd (isGiven_of_declared? h) (by decide)

/-- The types that the properties of a structure refer to. -/
def Structure.references : Structure → List String
  | .classType _ properties => properties.entries.filterMap (·.2.reference?)
  | _ => []

/-- What a sub-type is read as carries no qualification. -/
theorem unqualified_of_subTypeOf {decl : Tree} {type subType : String} (h : subTypeOf decl type = .ok subType) :
    '.' ∉ subType.toList := by
  unfold subTypeOf at h
  split at h
  · cases h
  · cases h
  · rename_i found declared
    cases h
    simp only [finalSegment, Text.lastSegment, String.toList_ofList]
    exact Text.mark_not_mem_afterLast '.' _

theorem unqualified_of_classify {decl : Tree} {kind : PropertyKind} {subType : String}
    (h : (classify decl).outcome = .ok kind) (refers : kind.reference? = some subType) :
    '.' ∉ subType.toList := by
  -- Only objects, enums and collections refer to a type; in all other cases `refers` is absurd.
  unfold classify at h
  obtain ⟨type, -, h⟩ := Attempt.outcome_bind_eq_ok h
  dsimp only at h
  split at h
  · obtain ⟨found, read, h⟩ := Attempt.outcome_bind_eq_ok h
    split at h
    · cases h; cases refers
    · obtain ⟨path, -, h⟩ := Attempt.outcome_bind_eq_ok h
      cases h; cases refers
    · cases h; cases refers
    · cases h; cases refers
      exact unqualified_of_subTypeOf read
  · obtain ⟨found, read, h⟩ := Attempt.outcome_bind_eq_ok h
    cases h; cases refers
    exact unqualified_of_subTypeOf read
  · obtain ⟨found, read, h⟩ := Attempt.outcome_bind_eq_ok h
    cases h; cases refers
    exact unqualified_of_subTypeOf read
  · obtain ⟨_, -, h⟩ := Attempt.outcome_bind_eq_ok h
    obtain ⟨_, -, h⟩ := Attempt.outcome_bind_eq_ok h
    obtain ⟨_, -, h⟩ := Attempt.outcome_bind_eq_ok h
    obtain ⟨_, -, h⟩ := Attempt.outcome_bind_eq_ok h
    obtain ⟨_, -, h⟩ := Attempt.outcome_bind_eq_ok h
    cases h; cases refers
  · obtain ⟨_, -, h⟩ := Attempt.outcome_bind_eq_ok h
    obtain ⟨_, -, h⟩ := Attempt.outcome_bind_eq_ok h
    obtain ⟨_, -, h⟩ := Attempt.outcome_bind_eq_ok h
    obtain ⟨_, -, h⟩ := Attempt.outcome_bind_eq_ok h
    obtain ⟨_, -, h⟩ := Attempt.outcome_bind_eq_ok h
    obtain ⟨_, -, h⟩ := Attempt.outcome_bind_eq_ok h
    obtain ⟨_, -, h⟩ := Attempt.outcome_bind_eq_ok h
    cases h; cases refers
  · cases h; cases refers
  · cases h; cases refers
  · cases h

theorem exists_of_mem_membersOf {member : Tree → Except Misfit (Option (String × α))} {decl : Tree}
    {tag : String} {table : Table α} (h : membersOf member decl tag = .ok table) {entry : String × α}
    (mem : entry ∈ table.entries) : ∃ child, member child = .ok (some entry) := by
  unfold membersOf at h
  cases read : childrenOf decl tag with
  | error misfit => rw [read] at h; cases h
  | ok children =>
    cases loaded : children.mapM member with
    | error misfit =>
      rw [read] at h
      change (children.mapM member >>= _) = _ at h
      rw [loaded] at h
      cases h
    | ok members =>
      rw [read] at h
      change (children.mapM member >>= _) = _ at h
      rw [loaded] at h
      cases h
      have kept := Table.mem_of_mem_ofList mem
      obtain ⟨found, inside, rfl⟩ := List.mem_filterMap.1 kept
      obtain ⟨child, -, ended⟩ := Attempt.exists_of_mem_mapM loaded inside
      exact ⟨child, ended⟩

theorem classify_of_propertyOf {decl : Tree} {name : String} {kind : PropertyKind}
    (h : propertyOf decl = .ok (some (name, kind))) : (classify decl).outcome = .ok kind := by
  unfold propertyOf at h
  split at h
  · cases h
  · cases h
  · split at h
    · rename_i classified
      cases h
      exact classified
    · cases h
    · cases h

/-- What a source may declare: a class or an enum with a name, whose properties refer to no qualified
type. -/
structure Structure.IsLoadable (loaded : Structure) : Prop where
  declared : loaded.isDeclared = true
  named : loaded.name ≠ ""
  unqualified : ∀ subType ∈ loaded.references, '.' ∉ subType.toList

theorem exists_of_structureOf {member : Tree → Except Misfit (Option (String × α))} {tag : String}
    {build : String → Table α → Structure} {decl : Tree} {loaded : Structure}
    (h : structureOf member tag build decl = .ok (some loaded)) :
    ∃ name members, loaded = build name members ∧ name ≠ "" ∧ membersOf member decl tag = .ok members := by
  unfold structureOf at h
  split at h
  · cases h
  · cases h
  · rename_i name declared
    cases loadedMembers : membersOf member decl tag with
    | error misfit => rw [loadedMembers] at h; cases h
    | ok members =>
      rw [loadedMembers] at h
      cases h
      exact ⟨name.written, members, rfl, written_ne_empty_of_declared? declared, rfl⟩

theorem loadable_of_contribution {source : Source} {loaded : Structure}
    (h : source.contribution = .ok (some loaded)) : loaded.IsLoadable := by
  by_cases isClass : source.rootTag = "Class"
  · rw [contribution_class isClass] at h
    obtain ⟨name, properties, rfl, named, loadedMembers⟩ := exists_of_structureOf h
    refine ⟨rfl, named, ?_⟩
    intro subType mem
    obtain ⟨entry, mem, refers⟩ := List.mem_filterMap.1 mem
    obtain ⟨child, read⟩ := exists_of_mem_membersOf loadedMembers mem
    exact unqualified_of_classify (classify_of_propertyOf read) refers
  · by_cases isEnum : source.rootTag = "Enum"
    · rw [contribution_enum isEnum] at h
      obtain ⟨name, items, rfl, named, -⟩ := exists_of_structureOf h
      exact ⟨rfl, named, fun subType mem => absurd mem List.not_mem_nil⟩
    · rw [contribution_other isClass isEnum] at h
      cases h

namespace Registry

theorem eq_builtIn_or_enumOf {seeded : Structure} (h : seeded ∈ builtIns) :
    (∃ name ∈ builtInTypes, seeded = .builtIn name) ∨ ∃ name items, seeded = .enumType name items := by
  rcases List.mem_append.1 h with mem | mem
  · obtain ⟨name, known, rfl⟩ := List.mem_map.1 mem
    exact .inl ⟨name, known, rfl⟩
  · obtain ⟨⟨name, members⟩, -, rfl⟩ := List.mem_map.1 mem
    exact .inr ⟨name, _, rfl⟩

theorem builtIns_named : ∀ seeded ∈ builtIns, seeded.name ≠ "" := by decide

theorem builtIns_apart : ∀ seeded ∈ builtIns, ∀ other ∈ builtIns, other.name = seeded.name →
    seeded.isDeclared = true → other.isDeclared = true := by decide

end Registry

/-- What holds of every registry that comes from sources. -/
structure Registry.IsLoaded (registry : Registry) : Prop where
  /-- The built-in types left are those of the seed. -/
  builtIn : ∀ name, .builtIn name ∈ registry.structures → name ∈ builtInTypes
  named : ∀ found ∈ registry.structures, found.name ≠ ""
  unqualified : ∀ found ∈ registry.structures, ∀ subType ∈ found.references, '.' ∉ subType.toList
  /-- A seeded name stays taken, and that of an enum by a structure that is declared. -/
  seeded : ∀ seeded ∈ builtIns, ∃ found ∈ registry.structures,
    found.name = seeded.name ∧ (seeded.isDeclared = true → found.isDeclared = true)

theorem isLoaded_of_load {sources : List Source} {registry : Registry}
    (h : (load sources).outcome = .ok registry) : registry.IsLoaded := by
  obtain ⟨additions, rfl, loaded⟩ := exists_of_load h
  have loadable : ∀ added ∈ additions, added.IsLoadable := by
    intro added mem
    obtain ⟨source, -, ended⟩ := loaded added mem
    exact loadable_of_contribution ended
  rw [Registry.seed, ← List.foldl_append]
  have keeps {P : Structure → Prop} (seeded : ∀ found ∈ Registry.builtIns, P found)
      (added : ∀ found, found.IsLoadable → P found) :
      ∀ found ∈ ((Registry.builtIns ++ additions).foldl Registry.add Registry.empty).structures,
        P found := by
    refine Registry.forall_mem_foldl_add (fun found mem => absurd mem List.not_mem_nil) ?_
    intro found mem
    rcases List.mem_append.1 mem with mem | mem
    · exact seeded found mem
    · exact added found (loadable found mem)
  refine ⟨?_, ?_, ?_, ?_⟩
  · intro name mem
    refine keeps (P := fun found => ∀ name, found = .builtIn name → name ∈ Registry.builtInTypes)
      ?_ ?_ _ mem name rfl
    · rintro found mem name rfl
      rcases Registry.eq_builtIn_or_enumOf mem with ⟨known, inside, same⟩ | ⟨_, _, same⟩
      · cases same; exact inside
      · cases same
    · rintro found loadable name rfl
      cases loadable.declared
  · exact keeps Registry.builtIns_named fun found loadable => loadable.named
  · refine keeps ?_ fun found loadable => loadable.unqualified
    intro found mem subType refers
    rcases Registry.eq_builtIn_or_enumOf mem with ⟨_, _, rfl⟩ | ⟨_, _, rfl⟩ <;> cases refers
  · intro seeded mem
    refine Registry.exists_mem_foldl_add (List.mem_append_left _ mem) ?_
    intro other found same declared
    rcases List.mem_append.1 found with found | found
    · exact Registry.builtIns_apart seeded mem other found same declared
    · exact (loadable other found).declared

end Schema

end ViewModel
