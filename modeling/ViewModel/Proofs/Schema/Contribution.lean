import ViewModel.Proofs.Schema.Members

/-!
# What sources contribute

Loading adds the structures of the sources that declare one, in order, to the built-in structures; a
source that declares none adds nothing. Only a misfit keeps a schema from loading.

* `contribution_class`, `contribution_enum`, `contribution_other`: a source goes by the tag of its root;
* `outcome_addTo`: one source;
* `outcome_load`: all sources;
* `exists_of_load`: every loaded registry is the built-in one with loaded structures added;
* `outcome_load_eq_ok_iff`: which sources load, and to which registry.
-/

namespace ViewModel.Schema

/-- The structure that a source adds to the registry, if it adds any. -/
def Source.contribution (source : Source) : Except Misfit (Option Structure) :=
  match source.load.outcome with
  | .ok loaded => .ok (some loaded)
  | .error (.declaration (.misfit misfit)) => .error misfit
  | .error _ => .ok none

/-- The structure that an element declares, if it has a name: with the name and the table of the members
under a tag. -/
def structureOf (member : Tree → Except Misfit (Option (String × α))) (tag : String)
    (build : String → Table α → Structure) (decl : Tree) : Except Misfit (Option Structure) :=
  match declared? decl "Name" with
  | .error misfit => .error misfit
  | .ok none => .ok none
  | .ok (some name) => (membersOf member decl tag).map fun members => some (build name.written members)

section

variable {source : Source}

theorem contribution_class (h : source.rootTag = "Class") :
    source.contribution = structureOf propertyOf "Property" .classType source.node := by
  unfold Source.contribution structureOf
  rw [load_class h, outcome_loadClass, nameOf]
  cases declared? source.node "Name" with
  | error misfit => rfl
  | ok name? =>
    cases name? with
    | none => rfl
    | some name => cases membersOf propertyOf source.node "Property" <;> rfl

theorem contribution_enum (h : source.rootTag = "Enum") :
    source.contribution = structureOf itemOf "Item" .enumType source.node := by
  unfold Source.contribution structureOf
  rw [load_enum h, outcome_loadEnum, nameOf]
  cases declared? source.node "Name" with
  | error misfit => rfl
  | ok name? =>
    cases name? with
    | none => rfl
    | some name => cases membersOf itemOf source.node "Item" <;> rfl

theorem contribution_other (notClass : source.rootTag ≠ "Class") (notEnum : source.rootTag ≠ "Enum") :
    source.contribution = .ok none := by
  rw [Source.contribution, load_other notClass notEnum]

end

def Registry.addContribution (registry : Registry) (contribution : Option Structure) : Registry :=
  contribution.elim registry registry.add

theorem outcome_addTo (registry : Registry) (source : Source) :
    (Source.addTo registry source).outcome = source.contribution.map registry.addContribution := by
  unfold Source.addTo Source.contribution
  rw [Attempt.outcome_bind_ok (Attempt.outcome_lift_run _)]
  cases source.load.outcome with
  | ok loaded =>
    dsimp only
    cases registry.insertion loaded <;> rfl
  | error error =>
    cases error with
    | unknownRoot => rfl
    | declaration error => cases error <;> rfl

theorem outcome_load (sources : List Source) :
    (load sources).outcome =
      ((sources.mapM Source.contribution).map (·.filterMap id)).map
        fun additions => additions.foldl Registry.add Registry.empty.seed := by
  unfold load
  rw [Attempt.outcome_bind, Attempt.outcome_foldlM]
  simp only [outcome_addTo]
  generalize Registry.empty.seed = registry
  induction sources generalizing registry with
  | nil => rfl
  | cons source rest ih =>
    rw [List.foldlM_cons, List.mapM_cons]
    cases source.contribution with
    | error misfit => rfl
    | ok contribution =>
      have later := ih (registry.addContribution contribution)
      change (rest.foldlM _ (registry.addContribution contribution) >>= _) = _
      rw [later]
      change _ = Except.map _ (Except.map _ (rest.mapM Source.contribution >>= fun contributions => _))
      cases rest.mapM Source.contribution with
      | error misfit => rfl
      | ok contributions => cases contribution <;> rfl

/-- Every loaded registry is the built-in one with loaded structures added. -/
theorem exists_of_load {sources : List Source} {registry : Registry}
    (h : (load sources).outcome = .ok registry) :
    ∃ additions : List Structure, registry = additions.foldl Registry.add Registry.empty.seed ∧
      ∀ added ∈ additions, ∃ source ∈ sources, source.contribution = .ok (some added) := by
  rw [outcome_load] at h
  cases ended : sources.mapM Source.contribution with
  | error misfit => rw [ended] at h; cases h
  | ok contributions =>
    rw [ended] at h
    cases h
    refine ⟨contributions.filterMap id, rfl, ?_⟩
    intro added mem
    obtain ⟨contribution, mem, rfl⟩ := List.mem_filterMap.1 mem
    exact Attempt.exists_of_mem_mapM ended mem

def Source.loaded? (source : Source) : Option Structure := source.contribution.toOption.join

theorem Source.loaded?_eq_some_iff {source : Source} {loaded : Structure} :
    source.loaded? = some loaded ↔ source.contribution = .ok (some loaded) := by
  unfold Source.loaded?
  cases source.contribution with
  | error misfit => exact iff_of_false nofun nofun
  | ok contribution => simp [Except.toOption]

/-- Sources load unless one of them is a misfit, and then to the built-in registry with the structures that
they declare added in order. -/
theorem outcome_load_eq_ok_iff {sources : List Source} {registry : Registry} :
    (load sources).outcome = .ok registry ↔
      (∀ source ∈ sources, ∃ contribution, source.contribution = .ok contribution) ∧
        registry = (sources.filterMap Source.loaded?).foldl Registry.add Registry.empty.seed := by
  have additions {contributions : List (Option Structure)}
      (each : sources.map Source.contribution = contributions.map .ok) :
      sources.filterMap Source.loaded? = contributions.filterMap id := by
    have whole : sources.filterMap Source.loaded? =
        (sources.map Source.contribution).filterMap (·.toOption.join) := by
      rw [List.filterMap_map]
      rfl
    rw [whole, each, List.filterMap_map]
    rfl
  rw [outcome_load]
  constructor
  · intro h
    cases ended : sources.mapM Source.contribution with
    | error misfit => rw [ended] at h; cases h
    | ok contributions =>
      rw [ended] at h
      cases h
      have each := Attempt.mapM_eq_ok_iff.1 ended
      refine ⟨?_, by rw [additions each]⟩
      intro source mem
      have made : source.contribution ∈ contributions.map .ok := each ▸ List.mem_map_of_mem mem
      obtain ⟨contribution, -, same⟩ := List.mem_map.1 made
      exact ⟨contribution, same.symm⟩
  · rintro ⟨each, rfl⟩
    obtain ⟨contributions, ended⟩ := Attempt.exists_mapM_eq_ok each
    rw [ended, additions (Attempt.mapM_eq_ok_iff.1 ended)]
    rfl

end ViewModel.Schema
