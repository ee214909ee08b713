import Mathlib.Data.List.Induction
import ViewModel.Proofs.Schema.Loaded
import ViewModel.Proofs.Schema.Order

/-!
# Which members a structure lists

A declared structure lists its accepted members once each: a member that is declared again keeps its place
and takes the later declaration. Of several sources that declare a structure of one name the last one counts.

* `listedOnce_ofList`: a table lists what was put into it;
* `membersOf_eq_ofList`: the members of a declaration are those that are accepted;
* `get?_of_lastDeclaring`: what a registry holds under a name comes from the last source of the name.
-/

namespace ViewModel

namespace Table

variable {α : Type u}

/-- The entries are one for each given name, in the order in which the names first come, and each with what
its name comes with last. -/
structure ListedOnce (entries given : List (String × α)) : Prop where
  names : entries.map (·.1) = (given.map (·.1)).eraseDups
  last : ∀ entry ∈ entries, given.reverse.lookup entry.1 = some entry.2

theorem ofList_concat (given : List (String × α)) (next : String × α) :
    ofList (given ++ [next]) = (ofList given).put next.1 next.2 := by
  unfold ofList
  rw [List.foldl_append]
  rfl

theorem get?_ofList (given : List (String × α)) (name : String) :
    (ofList given).get? name = given.reverse.lookup name := by
  -- By the last entry, which is the one that counts.
  induction given using List.reverseRecOn with
  | nil => rfl
  | append_singleton given next ih =>
    obtain ⟨key, value⟩ := next
    rw [ofList_concat, get?_put, ih, List.reverse_concat, List.lookup_cons]
    by_cases same : name = key
    · have here : (name == key) = true := beq_iff_eq.2 same
      rw [if_pos same, here]
    · have apart : (name == key) = false := beq_false_of_ne same
      rw [if_neg same, apart]

theorem names_ofList (given : List (String × α)) :
    (ofList given).names = (given.map (·.1)).eraseDups := by
  induction given using List.reverseRecOn with
  | nil => rfl
  | append_singleton given next ih =>
    rw [ofList_concat, names_put, ih, List.map_append, List.map_singleton, eraseDups_concat]
    simp only [List.mem_eraseDups]

/-- A table lists what was put into it. -/
theorem listedOnce_ofList (given : List (String × α)) : ListedOnce (ofList given).entries given where
  names := names_ofList given
  last entry mem := by
    rw [← get?_ofList]
    exact get?_eq_some_iff.2 mem

end Table

namespace Schema

/-- The property that a child declares, if it has a name and is of a known kind. -/
def acceptedProperty? (child : Tree) : Option (String × PropertyKind) := do
  let name ← (declared? child "Name").toOption.join
  let kind ← (classify child).outcome.toOption
  return (name.written, kind)

/-- The item that a child declares, if it has a name and an integer for a value. -/
def acceptedItem? (child : Tree) : Option (String × Int) := do
  let name ← (declared? child "Name").toOption.join
  let ordinal ← ordinal? (declared? child "Value").toOption.join
  return (name.written, ordinal)

/-- The accepted properties of a class, as often as they are declared. -/
def acceptedProperties (decl : Tree) : List (String × PropertyKind) :=
  ((childrenOf decl "Property").toOption.getD []).filterMap acceptedProperty?

/-- The accepted items of an enum, as often as they are declared. -/
def acceptedItems (decl : Tree) : List (String × Int) :=
  ((childrenOf decl "Item").toOption.getD []).filterMap acceptedItem?

theorem accepted_of_propertyOf {child : Tree} {found : Option (String × PropertyKind)}
    (h : propertyOf child = .ok found) : acceptedProperty? child = found := by
  unfold propertyOf at h
  unfold acceptedProperty?
  cases named : declared? child "Name" with
  | error misfit => rw [named] at h; cases h
  | ok name? =>
    cases name? with
    | none => rw [named] at h; cases h; rfl
    | some name =>
      rw [named] at h
      dsimp only at h
      cases classified : (classify child).outcome with
      | ok kind => rw [classified] at h; cases h; rfl
      | error error =>
        rw [classified] at h
        cases error with
        | misfit misfit => cases h
        | rejected error => cases h; rfl

theorem accepted_of_itemOf {child : Tree} {found : Option (String × Int)} (h : itemOf child = .ok found) :
    acceptedItem? child = found := by
  unfold itemOf at h
  unfold acceptedItem?
  cases named : declared? child "Name" with
  | error misfit => rw [named] at h; cases h
  | ok name? =>
    cases valued : declared? child "Value" with
    | error misfit => rw [named, valued] at h; cases h
    | ok value? =>
      rw [named, valued] at h
      cases h
      cases name? with
      | none => rfl
      | some name =>
        change ((ordinal? value?).bind fun ordinal => some (name.written, ordinal)) = (ordinal? value?).map _
        cases ordinal? value? <;> rfl

/-- The members of a declaration that loads are the accepted ones. -/
theorem membersOf_eq_ofList {member : Tree → Except Misfit (Option (String × α))}
    {accepted : Tree → Option (String × α)}
    (accepts : ∀ child found, member child = .ok found → accepted child = found) {decl : Tree} {tag : String}
    {table : Table α} (h : membersOf member decl tag = .ok table) :
    table = Table.ofList (((childrenOf decl tag).toOption.getD []).filterMap accepted) := by
  unfold membersOf at h
  cases read : childrenOf decl tag with
  | error misfit => rw [read] at h; cases h
  | ok children =>
    rw [read] at h
    change (children.mapM member >>= _) = _ at h
    cases ended : children.mapM member with
    | error misfit => rw [ended] at h; cases h
    | ok members =>
      rw [ended] at h
      cases h
      have each := Attempt.mapM_eq_ok_iff.1 ended
      have same : children.map accepted = members := by
        apply List.map_injective_iff.2 (fun _ _ => Except.ok.inj)
        rw [← each, List.map_map]
        refine List.map_congr_left ?_
        intro child mem
        obtain ⟨found, -, made⟩ := List.mem_map.1 (each ▸ List.mem_map_of_mem mem)
        rw [Function.comp_apply, accepts child found made.symm, made]
      change Table.ofList _ = Table.ofList (children.filterMap accepted)
      rw [← same, List.filterMap_map]
      rfl

/-- The last source that declares a structure of the name. -/
def lastDeclaring? (sources : List Source) (name : String) : Option Source :=
  sources.reverse.find? fun source => source.loaded?.any (·.name == name)

section

variable {sources : List Source} {source : Source} {name : String} {registry : Registry}

theorem lastNamed?_loaded (sources : List Source) (name : String) :
    lastNamed? (sources.filterMap Source.loaded?) name = (lastDeclaring? sources name).bind Source.loaded? := by
  unfold lastNamed? lastDeclaring?
  rw [← List.filterMap_reverse]
  induction sources.reverse with
  | nil => rfl
  | cons source rest ih =>
    cases loads : source.loaded? with
    | none =>
      rw [List.filterMap_cons_none loads, ih, List.find?_cons_of_neg]
      simp [loads]
    | some loaded =>
      rw [List.filterMap_cons_some loads, List.find?_cons, List.find?_cons, loads, Option.any_some]
      cases loaded.name == name with
      | true => exact loads.symm
      | false => exact ih

theorem loaded?_of_lastDeclaring (last : lastDeclaring? sources name = some source) :
    ∃ declared, source.loaded? = some declared ∧ declared.name = name := by
  have declares := List.find?_some last
  obtain ⟨declared, loads, named⟩ := (Option.any_eq_true _ _).1 declares
  exact ⟨declared, loads, by simpa using named⟩

/-- Under a name stands what the last source of the name declares. -/
theorem get?_of_lastDeclaring (loaded : (load sources).outcome = .ok registry)
    (last : lastDeclaring? sources name = some source) : registry.table.get? name = source.loaded? := by
  obtain ⟨-, rfl⟩ := outcome_load_eq_ok_iff.1 loaded
  obtain ⟨declared, loads, -⟩ := loaded?_of_lastDeclaring last
  rw [Registry.get?_foldl_add, lastNamed?_loaded, last, Option.bind_some, loads]
  rfl

/-- Under a name that no source declares stands what is built in. -/
theorem get?_of_undeclared (loaded : (load sources).outcome = .ok registry)
    (undeclared : lastDeclaring? sources name = none) :
    registry.table.get? name = lastNamed? Registry.builtIns name := by
  obtain ⟨-, rfl⟩ := outcome_load_eq_ok_iff.1 loaded
  rw [Registry.get?_foldl_add, lastNamed?_loaded, undeclared]
  rfl

theorem get?_of_last_class (loaded : (load sources).outcome = .ok registry)
    (last : lastDeclaring? sources name = some source) (isClass : source.rootTag = "Class") :
    registry.table.get? name =
      some (.classType name (Table.ofList (acceptedProperties source.node))) := by
  obtain ⟨declared, loads, rfl⟩ := loaded?_of_lastDeclaring last
  have contributes := Source.loaded?_eq_some_iff.1 loads
  rw [contribution_class isClass] at contributes
  obtain ⟨name, properties, rfl, -, members⟩ := exists_of_structureOf contributes
  rw [get?_of_lastDeclaring loaded last, loads, membersOf_eq_ofList (fun _ _ => accepted_of_propertyOf) members]
  rfl

theorem get?_of_last_enum (loaded : (load sources).outcome = .ok registry)
    (last : lastDeclaring? sources name = some source) (isEnum : source.rootTag = "Enum") :
    registry.table.get? name = some (.enumType name (Table.ofList (acceptedItems source.node))) := by
  obtain ⟨declared, loads, rfl⟩ := loaded?_of_lastDeclaring last
  have contributes := Source.loaded?_eq_some_iff.1 loads
  rw [contribution_enum isEnum] at contributes
  obtain ⟨name, items, rfl, -, members⟩ := exists_of_structureOf contributes
  rw [get?_of_lastDeclaring loaded last, loads, membersOf_eq_ofList (fun _ _ => accepted_of_itemOf) members]
  rfl

end

end Schema

end ViewModel
