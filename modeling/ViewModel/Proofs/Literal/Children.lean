import ViewModel.Proofs.Literal.Agreement
import ViewModel.Proofs.Literal.Totality

/-!
# Objects and collections by what is in them

An object or collection property whose type is known and whose children are there is written as these, and
what is logged about a part is logged about the whole. Where there is no child, or its type is unknown, the
default of the kind is written.

* `entry_object_of_known`, `entry_collection_of_known`: properties that go on with another type;
* `outcome_object_of_unknown`, `outcome_collection_of_unknown`: properties that do not;
* `outcome_collection_of_children`, `outcome_value_of_entries`: a collection and an object, line by line;
* `entry_warns_of_item`, `value_warns_of_entry`: a warning about an item is one about its collection, and a
  warning about a property one about its object.
-/

namespace ViewModel.Literal

open Schema Attempt

namespace Encoder

variable (encoder : Encoder)

theorem wrapped_of_held {slot : Slot} {first : Tree} (held : slot.wrapping? = some first) (tag : String) :
    slot.tree.wrapped slot.wrapper tag = first.under tag := by
  change slot.tree.first? slot.wrapper = some first at held
  rw [Tree.wrapped, held]

section

variable (slot : Slot) (textual : slot.tree.isTextual = true) {subType : String}
include textual

/-- An object of a known type is written as its first child of the wanted tag. -/
theorem entry_object_of_known {child : Tree}
    (found : (slot.tree.wrapped slot.wrapper (dataTag subType)).head? = some child)
    (known : encoder.registry.lookup? (dataTag subType) ≠ none) :
    encoder.entry slot (.object subType) = encoder.value (dataTag subType) child slot.indent := by
  obtain ⟨text, written⟩ := (encoder.value_settles (textual_of_child textual found) known slot.indent).1
  rw [← child_eq_head?_wrapped] at found
  obtain ⟨first, held, inside⟩ := Option.bind_eq_some_iff.1 found
  rw [entry_object encoder textual, held]
  dsimp only
  rw [inside]
  exact orElseUnknown_of_ok written _

theorem outcome_object_of_unknown
    (h : (slot.tree.wrapped slot.wrapper (dataTag subType)).head? = none ∨
      encoder.registry.lookup? (dataTag subType) = none) :
    (encoder.entry slot (.object subType)).outcome = .ok (encoder.placeholder subType) := by
  rw [outcome_objectEntry encoder textual]
  cases found : (slot.tree.wrapped slot.wrapper (dataTag subType)).head? with
  | none => rfl
  | some child =>
    have unknown := h.resolve_left (by rw [found]; nofun)
    dsimp only
    rw [value_of_unknown encoder unknown, orElseUnknown_throw, outcome_pure]

/-- A collection of a known type is written as its children of the wanted tag, one after the other. -/
theorem entry_collection_of_known (filled : slot.tree.wrapped slot.wrapper (dataTag subType) ≠ [])
    (known : encoder.registry.lookup? (dataTag subType) ≠ none) :
    encoder.entry slot (.collection subType) = (do
      let lines ← encoder.items (dataTag subType) (slot.indent ++ encoder.step)
        (slot.tree.wrapped slot.wrapper (dataTag subType))
      return "\n".intercalate ("[" :: lines ++ [slot.indent ++ "]"])) := by
  have settled : Settles (Familiar encoder.registry) (do
      let lines ← encoder.items (dataTag subType) (slot.indent ++ encoder.step)
        (slot.tree.wrapped slot.wrapper (dataTag subType))
      return "\n".intercalate ("[" :: lines ++ [slot.indent ++ "]"])) := by
    rw [items_eq_mapM]
    apply Settles.bind
    · apply Settles.mapM
      intro child mem
      have inner := Tree.textual_of_mem_wrapped textual mem
      exact Settles.bind (encoder.value_settles inner known _) fun _ => Settles.pure _
    · exact fun _ => Settles.pure _
  obtain ⟨text, written⟩ := settled.1
  rw [entry_collection encoder textual]
  cases held : slot.wrapping? with
  | none =>
    change slot.tree.first? slot.wrapper = none at held
    rw [Tree.wrapped, held] at filled
    exact absurd rfl filled
  | some first =>
    rw [wrapped_of_held held] at filled written ⊢
    dsimp only
    cases children : first.under (dataTag subType) with
    | nil => exact absurd children filled
    | cons item rest =>
      rw [children] at written
      exact orElseUnknown_of_ok written _

/-- A collection is written line by line as its children are. -/
theorem outcome_collection_of_children {written : Tree → String}
    (filled : slot.tree.wrapped slot.wrapper (dataTag subType) ≠ [])
    (known : encoder.registry.lookup? (dataTag subType) ≠ none)
    (each : ∀ child ∈ slot.tree.wrapped slot.wrapper (dataTag subType),
      (encoder.value (dataTag subType) child (slot.indent ++ encoder.step)).outcome = .ok (written child)) :
    (encoder.entry slot (.collection subType)).outcome = .ok ("\n".intercalate ("[" ::
      (slot.tree.wrapped slot.wrapper (dataTag subType)).map (fun child =>
        slot.indent ++ encoder.step ++ written child ++ ",") ++ [slot.indent ++ "]"])) := by
  rw [encoder.entry_collection_of_known slot textual filled known,
    Attempt.outcome_bind_ok (encoder.outcome_items each), outcome_pure]

theorem outcome_collection_of_unknown
    (h : slot.tree.wrapped slot.wrapper (dataTag subType) = [] ∨
      encoder.registry.lookup? (dataTag subType) = none) :
    (encoder.entry slot (.collection subType)).outcome = .ok "[]" := by
  rw [outcome_collectionEntry encoder textual]
  cases found : slot.tree.wrapped slot.wrapper (dataTag subType) with
  | nil => rfl
  | cons item rest =>
    have unknown := h.resolve_left (by rw [found]; nofun)
    dsimp only
    rw [items, value_of_unknown encoder unknown]
    rfl

/-- What is logged about an item is logged about its collection. -/
theorem entry_warns_of_item {child : Tree} (mem : child ∈ slot.tree.wrapped slot.wrapper (dataTag subType))
    (known : encoder.registry.lookup? (dataTag subType) ≠ none)
    (warns : (encoder.value (dataTag subType) child (slot.indent ++ encoder.step)).Warns) :
    (encoder.entry slot (.collection subType)).Warns := by
  rw [encoder.entry_collection_of_known slot textual (List.ne_nil_of_mem mem) known, items_eq_mapM]
  apply Warns.bind_left
  apply Warns.mapM _ mem (Warns.bind_left warns _)
  intro item mem
  have inner := Tree.textual_of_mem_wrapped textual mem
  have settled := encoder.value_settles inner known (slot.indent ++ encoder.step)
  exact (Settles.bind settled fun _ => Settles.pure _).1

end

/-- An object is written line by line as its properties are. -/
theorem outcome_value_of_entries {typeName name : String} {properties : Table PropertyKind} {tree : Tree}
    {indent : String} {written : String × PropertyKind → String}
    (found : encoder.registry.lookup? typeName = some (.classType name properties))
    (each : ∀ property ∈ properties.entries,
      (encoder.entry ⟨name, property.1, tree, indent ++ encoder.step⟩ property.2).outcome =
        .ok (written property)) :
    (encoder.value typeName tree indent).outcome = .ok ("\n".intercalate ("\x7b" ::
      properties.entries.map (fun property =>
        indent ++ encoder.step ++ property.1 ++ ": " ++ written property ++ ",") ++ [indent ++ "\x7d"])) := by
  have line : ∀ property ∈ properties.entries, Attempt.outcome (do
      let literal ← encoder.entry ⟨name, property.1, tree, indent ++ encoder.step⟩ property.2
      return indent ++ encoder.step ++ property.1 ++ ": " ++ literal ++ ",") =
        .ok (indent ++ encoder.step ++ property.1 ++ ": " ++ written property ++ ",") := by
    intro property mem
    rw [Attempt.outcome_bind_ok (each property mem)]
    rfl
  have lines := Attempt.mapM_of_ok line
  rw [← Attempt.outcome_mapM, ← entries_eq_mapM] at lines
  rw [value_of_classType encoder found, Attempt.outcome_bind_ok lines]
  rfl

/-- What is logged about a property is logged about its object. -/
theorem value_warns_of_entry {typeName name property : String} {properties : Table PropertyKind}
    {kind : PropertyKind} {tree : Tree} {indent : String} (textual : tree.isTextual = true)
    (found : encoder.registry.lookup? typeName = some (.classType name properties))
    (mem : (property, kind) ∈ properties.entries)
    (warns : (encoder.entry ⟨name, property, tree, indent ++ encoder.step⟩ kind).Warns) :
    (encoder.value typeName tree indent).Warns := by
  rw [value_of_classType encoder found, entries_eq_mapM]
  apply Warns.bind_left
  apply Warns.mapM _ mem (Warns.bind_left warns _)
  intro entry _
  have below : encoder.SettlesBelow tree.weight := by
    intro child inner _ typeName indent known
    exact encoder.value_settles inner known indent
  have settled : Settles (Familiar encoder.registry)
      (encoder.entry ⟨name, entry.1, tree, indent ++ encoder.step⟩ entry.2) :=
    encoder.entry_settles textual below entry.2
  exact (Settles.bind settled fun _ => Settles.pure _).1

end Encoder

end ViewModel.Literal
