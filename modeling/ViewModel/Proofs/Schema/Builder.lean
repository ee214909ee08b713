import ViewModel.Proofs.Distinct
import ViewModel.Proofs.Schema.Registry

/-!
# Building a registry

A registry is built by adding structures one after the other; freezing takes a copy of what is staged so
far. Whatever is added, replaced and frozen in between, a registry holds the last structure of every name
that was added before it was frozen, and the names stand in the order in which they first came.

* `tracks_add`, `tracks_foldl_add`: one addition, and all of them;
* `insertion_of_tracks`, `count_inserted`: what additions answer, and how many names they make;
* `Tracks.presents`: what a registry tells that tracks its additions;
* `frozen_run`: later calls leave the frozen registries as they are;
* `run_presents`: all of it, for every sequence of calls.
-/

namespace ViewModel

namespace Table

variable {α : Type u}

/-- The entries, looked up one after the other. -/
theorem map_get?_names (table : Table α) : table.names.map table.get? = table.values.map some := by
  unfold names values
  rw [List.map_map, List.map_map]
  refine List.map_congr_left fun entry mem => ?_
  exact get?_eq_some_iff.2 mem

theorem length_names (table : Table α) : table.names.length = table.size := List.length_map _

end Table

namespace Schema

def lastNamed? (added : List Structure) (name : String) : Option Structure :=
  added.reverse.find? (·.name == name)

theorem lastNamed?_concat (added : List Structure) (next : Structure) (name : String) :
    lastNamed? (added ++ [next]) name = if name = next.name then some next else lastNamed? added name := by
  unfold lastNamed?
  rw [List.reverse_concat, List.find?_cons]
  by_cases same : name = next.name
  · simp [same]
  · have apart : (next.name == name) = false := beq_false_of_ne fun h => same h.symm
    rw [apart, if_neg same]

namespace Registry

variable {registry : Registry} {added : List Structure}

/-- The registry holds what was added: every name where it first came, with the last structure of it. -/
structure Tracks (registry : Registry) (added : List Structure) : Prop where
  names : registry.names = (added.map Structure.name).eraseDups
  get? : ∀ name, registry.table.get? name = lastNamed? added name

theorem Tracks.mem_names_iff (h : registry.Tracks added) {name : String} :
    name ∈ registry.table.names ↔ name ∈ added.map Structure.name := by
  have names : registry.table.names = (added.map Structure.name).eraseDups := h.names
  rw [names, List.mem_eraseDups]

theorem tracks_empty : empty.Tracks [] where
  names := rfl
  get? _ := rfl

theorem tracks_add (h : registry.Tracks added) (next : Structure) :
    (registry.add next).Tracks (added ++ [next]) where
  names := by
    change (registry.table.put next.name next).names = _
    rw [Table.names_put, List.map_append]
    refine Eq.trans ?_ (eraseDups_concat _ _).symm
    simp only [← h.names, ← h.mem_names_iff]
    rfl
  get? name := by
    change (registry.table.put next.name next).get? name = _
    rw [Table.get?_put, lastNamed?_concat, h.get?]

theorem tracks_foldl_add (h : registry.Tracks added) (later : List Structure) :
    (later.foldl add registry).Tracks (added ++ later) := by
  induction later generalizing registry added with
  | nil => rw [List.append_nil]; exact h
  | cons next rest ih =>
    have step := ih (tracks_add h next)
    rw [List.append_assoc] at step
    exact step

/-- An addition replaces if and only if its name was added before. -/
theorem insertion_of_tracks (h : registry.Tracks added) (next : Structure) :
    registry.insertion next = if next.name ∈ added.map Structure.name then .replaced else .inserted := by
  have known : registry.table.contains next.name = true ↔ next.name ∈ added.map Structure.name :=
    Table.contains_iff.trans h.mem_names_iff
  unfold insertion
  by_cases old : next.name ∈ added.map Structure.name
  · rw [if_pos (known.2 old), if_pos old]
  · rw [if_neg fun mem => old (known.1 mem), if_neg old]

/-- Only an insertion makes a registry grow. -/
theorem size_add (registry : Registry) (next : Structure) :
    (registry.add next).size = registry.size + if registry.insertion next = .inserted then 1 else 0 := by
  unfold size insertion
  change (registry.table.put next.name next).size = _
  rw [← Table.length_names, ← Table.length_names, Table.names_put]
  by_cases old : next.name ∈ registry.table.names
  · simp [old, Table.contains_iff.2 old]
  · have absent : ¬ registry.table.contains next.name = true := fun h => old (Table.contains_iff.1 h)
    simp [old, absent]

/-- What a registry tells about the structures that were added to it. -/
structure Presents (registry : Registry) (added : List Structure) : Prop where
  /-- The names are distinct and stand in the order in which they first came. -/
  names : registry.names = (added.map Structure.name).eraseDups
  distinct : registry.names.Nodup
  size : registry.size = registry.names.length
  /-- Behind every name stands the last structure of it. -/
  structures : registry.structures.map some = registry.names.map (lastNamed? added)
  declarations : registry.declarations =
    (registry.names.filterMap (lastNamed? added)).filter Structure.isDeclared
  /-- A type name stands for the last structure of its final segment. -/
  lookup? : ∀ typeName, registry.lookup? typeName = lastNamed? added (finalSegment typeName)
  resolve : ∀ typeName, registry.resolve typeName =
    match lastNamed? added (finalSegment typeName) with
    | some found => .ok found
    | none => .error ⟨finalSegment typeName⟩
  contains : ∀ typeName, registry.contains typeName = (lastNamed? added (finalSegment typeName)).isSome

theorem Tracks.presents (h : registry.Tracks added) : registry.Presents added := by
  have looked : ∀ typeName, registry.lookup? typeName = lastNamed? added (finalSegment typeName) :=
    fun typeName => h.get? _
  have structures : registry.structures.map some = registry.names.map (lastNamed? added) := by
    rw [← funext h.get?]
    exact (Table.map_get?_names registry.table).symm
  refine ⟨h.names, registry.table.distinct, (Table.length_names _).symm, structures, ?_, looked, ?_, ?_⟩
  · have found : registry.names.filterMap (lastNamed? added) = registry.structures := by
      have values := congrArg (List.filterMap id) structures
      rw [List.filterMap_map, List.filterMap_map] at values
      exact values.symm.trans (List.filterMap_some)
    exact (congrArg (List.filter Structure.isDeclared) found).symm
  · intro typeName
    unfold Registry.resolve
    cases found : lastNamed? added (finalSegment typeName) <;> rw [looked, found]
  · intro typeName
    rw [Registry.contains, looked]

end Registry

inductive Call
  | add (added : Structure)
  | freeze

/-- What a call answers: how the structure came in, or the place of the registry that was frozen. -/
inductive Answer
  | added (insertion : Insertion)
  | frozen (place : Nat)
  deriving DecidableEq, Repr

/-- A builder, and the registries that were frozen from it in order. -/
structure Builder where
  staged : Registry := Registry.empty
  frozen : List Registry := []

namespace Builder

def after (builder : Builder) : Call → Builder
  | .add added => { builder with staged := builder.staged.add added }
  | .freeze => { builder with frozen := builder.frozen ++ [builder.staged] }

def answer (builder : Builder) : Call → Answer
  | .add added => .added (builder.staged.insertion added)
  | .freeze => .frozen builder.frozen.length

def run (builder : Builder) (calls : List Call) : Builder := calls.foldl after builder

/-- What the calls answer, each to the builder that the ones before it left. -/
def answers (builder : Builder) : List Call → List Answer
  | [] => []
  | call :: rest => builder.answer call :: (builder.after call).answers rest

end Builder

def additions (calls : List Call) : List Structure :=
  calls.filterMap fun
    | .add added => some added
    | .freeze => none

namespace Builder

theorem run_append (builder : Builder) (calls later : List Call) :
    builder.run (calls ++ later) = (builder.run calls).run later :=
  List.foldl_append

theorem length_answers (builder : Builder) (calls : List Call) :
    (builder.answers calls).length = calls.length := by
  induction calls generalizing builder with
  | nil => rfl
  | cons call rest ih => exact congrArg (· + 1) (ih _)

theorem answers_append (builder : Builder) (calls later : List Call) :
    builder.answers (calls ++ later) = builder.answers calls ++ (builder.run calls).answers later := by
  induction calls generalizing builder with
  | nil => rfl
  | cons call rest ih => exact congrArg (builder.answer call :: ·) (ih _)

/-- A call answers from what the calls before it left, whatever follows. -/
theorem answers_getElem? (builder : Builder) (calls later : List Call) (call : Call) :
    (builder.answers (calls ++ call :: later))[calls.length]? = some ((builder.run calls).answer call) := by
  have length := length_answers builder calls
  rw [answers_append, List.getElem?_append_right (Nat.le_of_eq length), length, Nat.sub_self]
  rfl

/-- Freezing stages nothing. -/
theorem staged_run (builder : Builder) (calls : List Call) :
    (builder.run calls).staged = (additions calls).foldl Registry.add builder.staged := by
  induction calls generalizing builder with
  | nil => rfl
  | cons call rest ih => cases call <;> exact ih _

/-- The structure that a call adds is one more, if it comes in under a new name. -/
theorem size_after (builder : Builder) (call : Call) :
    (builder.after call).staged.size =
      builder.staged.size + if builder.answer call = .added .inserted then 1 else 0 := by
  cases call with
  | add added => simp [after, answer, Registry.size_add]
  | freeze => rfl

/-- There are as many structures as were inserted. -/
theorem count_inserted (builder : Builder) (calls : List Call) :
    (builder.run calls).staged.size =
      builder.staged.size + (builder.answers calls).count (.added .inserted) := by
  induction calls generalizing builder with
  | nil => rfl
  | cons call rest ih =>
    change ((builder.after call).run rest).staged.size = _
    rw [ih, size_after, answers, List.count_cons]
    simp only [beq_iff_eq]
    omega

theorem frozen_after (builder : Builder) (call : Call) : builder.frozen <+: (builder.after call).frozen := by
  cases call with
  | add added => exact List.prefix_refl _
  | freeze => exact List.prefix_append _ _

/-- Later calls leave the frozen registries as they are. -/
theorem frozen_run (builder : Builder) (calls : List Call) : builder.frozen <+: (builder.run calls).frozen := by
  induction calls generalizing builder with
  | nil => exact List.prefix_refl _
  | cons call rest ih => exact (frozen_after builder call).trans (ih _)

theorem frozen_getElem? (builder : Builder) (calls later : List Call) :
    (builder.run (calls ++ .freeze :: later)).frozen[(builder.run calls).frozen.length]? =
      some (builder.run calls).staged := by
  obtain ⟨more, kept⟩ := frozen_run ((builder.run calls).after .freeze) later
  have frozen : (builder.run (calls ++ .freeze :: later)).frozen =
      (builder.run calls).frozen ++ (builder.run calls).staged :: more := by
    rw [run_append, List.append_cons]
    exact kept.symm
  rw [frozen, List.getElem?_append_right (Nat.le_refl _), Nat.sub_self]
  rfl

end Builder

/-- **A registry presents what was added to it.** In every sequence of calls on an empty builder, what is
staged presents the additions so far, and there are as many structures as were inserted; an addition is a
replacement if and only if its name was added before; and a frozen registry is what was staged when it was
frozen, also after all later calls. -/
theorem run_presents (calls later : List Call) :
    (Builder.run {} calls).staged.Presents (additions calls) ∧
    (Builder.run {} calls).staged.size = (Builder.answers {} calls).count (.added .inserted) ∧
    (∀ added, (Builder.answers {} (calls ++ .add added :: later))[calls.length]? =
      some (.added (if added.name ∈ (additions calls).map Structure.name then .replaced else .inserted))) ∧
    ∃ place,
      (Builder.answers {} (calls ++ .freeze :: later))[calls.length]? = some (.frozen place) ∧
      (Builder.run {} (calls ++ .freeze :: later)).frozen[place]? = some (Builder.run {} calls).staged := by
  have tracks : (Builder.run {} calls).staged.Tracks (additions calls) := by
    rw [Builder.staged_run]
    exact Registry.tracks_foldl_add Registry.tracks_empty (additions calls)
  refine ⟨tracks.presents, ?_, ?_, ?_⟩
  · rw [Builder.count_inserted]
    exact Nat.zero_add _
  · intro added
    rw [Builder.answers_getElem?, Builder.answer, Registry.insertion_of_tracks tracks]
  · refine ⟨(Builder.run {} calls).frozen.length, ?_, ?_⟩
    · exact Builder.answers_getElem? {} calls later .freeze
    · exact Builder.frozen_getElem? {} calls later

end Schema

end ViewModel
