import ViewModel.Proofs.Literal.Resolution

/-!
# Which structures are found under their own names

A structure is registered under the whole name that it declares, but a type name is looked up by its last
segment. So a structure with a qualified name is in the registry and is found under no type name at all.

* `resolve_ne_of_qualified`: no type name refers to a structure with a qualified name;
* `reaches_iff`, `reaches_as_subType_iff`: which structures are found under their own name, and which by the
  elements of a property that names them as its sub-type;
* `forall_reaches_iff`: in a loaded registry all are, unless a source declares a qualified name;
* `reachable_iff_unqualified`: all of it, for every registry that comes from sources.
-/

namespace ViewModel.Schema

namespace Registry

/-- The structure is found under its own name. -/
def Reaches (registry : Registry) (found : Structure) : Prop :=
  registry.contains found.name = true ∧ registry.resolve found.name = .ok found

/-- The structure is what the elements of a property are encoded as if the property names it as its
sub-type. -/
def ReachesAsSubType (registry : Registry) (found : Structure) : Prop :=
  registry.resolve (dataTag (finalSegment found.name)) = .ok found

variable {registry : Registry} {found : Structure} {typeName : String}

theorem resolve_eq_ok_iff : registry.resolve typeName = .ok found ↔ registry.lookup? typeName = some found := by
  unfold resolve
  cases registry.lookup? typeName <;> simp

/-- What a type name refers to has an unqualified name. -/
theorem unqualified_of_resolve (h : registry.resolve typeName = .ok found) : '.' ∉ found.name.toList := by
  obtain ⟨-, named⟩ := lookup?_eq_some_iff.1 (resolve_eq_ok_iff.1 h)
  rw [named, finalSegment, Text.lastSegment, String.toList_ofList]
  exact Text.mark_not_mem_afterLast '.' _

theorem resolve_ne_of_qualified (qualified : '.' ∈ found.name.toList) (typeName : String) :
    registry.resolve typeName ≠ .ok found :=
  fun h => unqualified_of_resolve h qualified

theorem resolve_name (mem : found ∈ registry.structures) (unqualified : '.' ∉ found.name.toList) :
    registry.resolve found.name = .ok found := by
  apply resolve_eq_ok_iff.2
  apply lookup?_eq_some_iff.2
  exact ⟨mem, (TypesModule.finalSegment_of_unqualified unqualified).symm⟩

theorem reaches_iff (mem : found ∈ registry.structures) :
    registry.Reaches found ↔ '.' ∉ found.name.toList := by
  constructor
  · rintro ⟨-, resolved⟩
    exact unqualified_of_resolve resolved
  · intro unqualified
    have resolved := resolve_name mem unqualified
    refine ⟨?_, resolved⟩
    rw [contains, resolve_eq_ok_iff.1 resolved]
    rfl

/-- A sub-type is its own tag only if it is in no row of the table of tags. -/
theorem dataTag_eq_self_iff {subType : String} : dataTag subType = subType ↔ dataTags.lookup subType = none := by
  unfold dataTag
  constructor
  · intro same
    cases tagged : dataTags.lookup subType with
    | none => rfl
    | some tag =>
      have apart : ∀ entry ∈ dataTags, entry.2 ≠ entry.1 := by decide
      obtain ⟨before, after, split, -⟩ := List.lookup_eq_some_iff.1 tagged
      rw [tagged] at same
      have mem : (subType, tag) ∈ dataTags := by rw [split]; exact List.mem_append_right _ List.mem_cons_self
      exact absurd same (apart _ mem)
  · intro untagged
    rw [untagged]
    rfl

theorem reaches_as_subType_iff (mem : found ∈ registry.structures) :
    registry.ReachesAsSubType found ↔ '.' ∉ found.name.toList ∧ dataTags.lookup found.name = none := by
  unfold ReachesAsSubType
  constructor
  · intro resolved
    have unqualified := unqualified_of_resolve resolved
    rw [TypesModule.finalSegment_of_unqualified unqualified] at resolved
    obtain ⟨-, named⟩ := lookup?_eq_some_iff.1 (resolve_eq_ok_iff.1 resolved)
    rw [TypesModule.finalSegment_of_unqualified (dataTag_unqualified unqualified)] at named
    exact ⟨unqualified, dataTag_eq_self_iff.1 named.symm⟩
  · rintro ⟨unqualified, untagged⟩
    rw [TypesModule.finalSegment_of_unqualified unqualified, dataTag_eq_self_iff.2 untagged]
    exact resolve_name mem unqualified

theorem builtIns_unqualified : ∀ seeded ∈ builtIns, '.' ∉ seeded.name.toList := by decide

/-- Adding structures to the built-in ones leaves all within reach if none that is added has a qualified
name; otherwise that one, or the last one of its name, is out of reach. -/
theorem forall_reaches_iff (additions : List Structure) :
    (∀ found ∈ (additions.foldl add empty.seed).structures,
        (additions.foldl add empty.seed).Reaches found) ↔
      ∀ added ∈ additions, '.' ∉ added.name.toList := by
  constructor
  · intro reached added mem
    obtain ⟨found, held, same, -⟩ : ∃ found ∈ (additions.foldl add empty.seed).structures,
        found.name = added.name ∧ True :=
      exists_mem_foldl_add mem fun _ _ _ => trivial
    rw [← same]
    exact (reaches_iff held).1 (reached found held)
  · intro unqualified found held
    apply (reaches_iff held).2
    rw [seed, ← List.foldl_append] at held
    revert found
    apply forall_mem_foldl_add (P := fun found => '.' ∉ found.name.toList)
    · exact fun found mem => absurd mem List.not_mem_nil
    · intro added mem
      rcases List.mem_append.1 mem with mem | mem
      · exact builtIns_unqualified added mem
      · exact unqualified added mem

end Registry

/-- **Structures with unqualified names are reachable.** A structure of a loaded registry is found under its
own name unless that is qualified; then no type name refers to it. Elements are encoded as it where a
property names it as its sub-type, unless the elements of that name stand under another tag. So every
structure is reachable if and only if no source declares a qualified name. -/
theorem reachable_iff_unqualified {sources : List Source} {registry : Registry}
    (loaded : (load sources).outcome = .ok registry) :
    (∀ found ∈ registry.structures,
      (registry.Reaches found ↔ '.' ∉ found.name.toList) ∧
      ('.' ∈ found.name.toList → ∀ typeName, registry.resolve typeName ≠ .ok found) ∧
      (registry.ReachesAsSubType found ↔
        '.' ∉ found.name.toList ∧ dataTags.lookup found.name = none)) ∧
    ((∀ found ∈ registry.structures, registry.Reaches found) ↔
      ∀ source ∈ sources, ∀ added, source.contribution = .ok (some added) → '.' ∉ added.name.toList) := by
  constructor
  · intro found mem
    exact ⟨Registry.reaches_iff mem, Registry.resolve_ne_of_qualified, Registry.reaches_as_subType_iff mem⟩
  · obtain ⟨-, rfl⟩ := outcome_load_eq_ok_iff.1 loaded
    rw [Registry.forall_reaches_iff]
    constructor
    · intro unqualified source mem added contributed
      exact unqualified added (List.mem_filterMap.2 ⟨source, mem, Source.loaded?_eq_some_iff.2 contributed⟩)
    · intro unqualified added mem
      obtain ⟨source, inside, contributed⟩ := List.mem_filterMap.1 mem
      exact unqualified source inside added (Source.loaded?_eq_some_iff.1 contributed)

def qualifiedSources : List Source :=
  [⟨"card.xml", "Class", .element [("Name", .list [.text "My.Card"])]⟩]

def qualifiedRegistry : Registry := Registry.empty.seed.add (.classType "My.Card" (Table.ofList []))

/-- The built-in enums are reachable beside a class that is not. -/
theorem reachable_iff_unqualified_card :
    (load qualifiedSources).outcome = .ok qualifiedRegistry ∧
      (∃ found ∈ qualifiedRegistry.structures, found.name = "Visibility" ∧
        qualifiedRegistry.Reaches found) ∧
      ¬ ∀ found ∈ qualifiedRegistry.structures, qualifiedRegistry.Reaches found := by
  have loaded : (load qualifiedSources).outcome = .ok qualifiedRegistry := rfl
  obtain ⟨each, all⟩ := reachable_iff_unqualified loaded
  refine ⟨loaded, ?_, ?_⟩
  · have held : Registry.enumOf "Visibility" ["Collapsed", "Visible", "Hidden"] ∈
        qualifiedRegistry.structures :=
      Registry.mem_structures_iff.2 rfl
    exact ⟨_, held, rfl, (each _ held).1.2 (by decide)⟩
  · intro reached
    exact all.1 reached _ List.mem_cons_self _ rfl (by decide)

/-- A class with a qualified name is registered under it, but is no known type under that name, neither for
the registry nor for the data that are encoded as it. -/
theorem qualified_out_of_reach :
    (load qualifiedSources).outcome = .ok qualifiedRegistry ∧
      .classType "My.Card" (Table.ofList []) ∈ qualifiedRegistry.structures ∧
      qualifiedRegistry.contains "My.Card" = false ∧
      qualifiedRegistry.resolve "My.Card" = .error ⟨"Card"⟩ ∧
      ((Literal.Encoder.mk qualifiedRegistry 2 "Bangers").encode "My.Card" (.text "")).outcome =
        .error (.unknown ⟨"Card"⟩) := by
  refine ⟨rfl, Registry.mem_structures_add.2 (.inl rfl), rfl, rfl, ?_⟩
  rw [Literal.Encoder.encode, Literal.Encoder.value]
  rfl

end ViewModel.Schema
