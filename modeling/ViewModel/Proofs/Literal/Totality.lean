import ViewModel.Proofs.Literal.Textual
import ViewModel.Proofs.Schema.Loaded

/-!
# Encoding always ends in a literal

On a textual tree only the type of the root can keep an encoding from its literal. Below the root every type
that does not resolve is caught where the property that refers to it is written.

* `value_settles`: a value of a known type has a literal, at every depth and in every registry;
* `encode_total`: what encoding ends in, and that a loaded registry has no unknown built-in types.
-/

namespace ViewModel.Literal

open Schema Attempt

/-- Texts that open differently differ. -/
theorem append_ne_append {first second : String} (h : ¬ first.toList <+: second.toList)
    (h' : ¬ second.toList <+: first.toList) (rest other : String) : first ++ rest ≠ second ++ other := by
  intro same
  have lists : first.toList ++ rest.toList = second.toList ++ other.toList := by
    rw [← String.toList_append, same, String.toList_append]
  have opens : second.toList <+: first.toList ++ rest.toList := lists ▸ List.prefix_append _ _
  rcases List.prefix_or_prefix_of_prefix (List.prefix_append _ _) opens with before | before
  · exact h before
  · exact h' before

/-- Not the record of an unknown built-in type, unless the registry holds such a type. -/
def Familiar (registry : Registry) (record : Record) : Prop :=
  (∀ name, .builtIn name ∈ registry.structures → name ∈ Registry.builtInTypes) →
    ∀ name, record.message ≠ "Unknown built-in: " ++ name

section

variable {registry : Registry} (opening : String) (h : ¬ opening.toList <+: "Unknown built-in: ".toList)
  (h' : ¬ "Unknown built-in: ".toList <+: opening.toList)
include h h'

theorem settles_warn (rest : String) (value : α) :
    Settles (Familiar registry) (do warn (opening ++ rest); return value) :=
  Settles.bind (Settles.record fun _ name => append_ne_append h h' rest name) fun _ => Settles.pure value

theorem settles_report (rest : String) (value : α) :
    Settles (Familiar registry) (do report (opening ++ rest); return value) :=
  Settles.bind (Settles.record fun _ name => append_ne_append h h' rest name) fun _ => Settles.pure value

end

/-- A property whose type is unknown is reported and settles. -/
theorem settles_unresolved {registry : Registry} (error : UnknownStructure) (slot : Slot) (value : α) :
    Settles (Familiar registry) (do
      report (error.message ++ " (" ++ slot.place ++ ")")
      return value) := by
  unfold UnknownStructure.message
  simp only [String.append_assoc]
  exact settles_report "Unknown structure type: " (by decide) (by decide) _ _

namespace Encoder

variable (encoder : Encoder)

theorem builtIn_settles {name : String} (listed : name ∈ Registry.builtInTypes) {tree : Tree}
    (textual : tree.isTextual = true) (indent : String) {registry : Registry} :
    Settles (Familiar registry) (encoder.builtIn name tree indent) := by
  simp only [Registry.builtInTypes, List.mem_cons, List.not_mem_nil, or_false] at listed
  rcases listed with rfl | rfl | rfl | rfl | rfl | rfl | rfl
  · exact Settles.pure _
  · exact Settles.pure _
  · exact Settles.pure _
  · exact Settles.pure _
  · rw [builtIn_bitmapImage encoder textual]
    split
    · exact Settles.pure _
    · exact settles_warn "Image path not found for built-in structure BitmapImage: "
        (by decide) (by decide) _ _
  · rw [builtIn_solidColorBrush encoder textual]
    split
    · exact Settles.pure _
    · exact settles_warn "SolidColorBrush without a Color" (by decide) (by decide) "" _
  · rw [builtIn_messageCommand encoder textual]
    exact Settles.pure _

/-- A built-in type of the registry settles: if it has no known name, the registry is to blame. -/
theorem builtIn_settles_of_mem {name : String} (mem : .builtIn name ∈ encoder.registry.structures)
    {tree : Tree} (textual : tree.isTextual = true) (indent : String) :
    Settles (Familiar encoder.registry) (encoder.builtIn name tree indent) := by
  by_cases listed : name ∈ Registry.builtInTypes
  · exact encoder.builtIn_settles listed textual indent
  · rw [builtIn_unknown encoder listed]
    refine Settles.bind (Settles.record ?_) fun _ => Settles.pure _
    exact fun allKnown => absurd (allKnown name mem) listed

section

variable {slot : Slot} (textual : slot.tree.isTextual = true) {registry : Registry}
include textual

theorem stringEntry_settles : Settles (Familiar registry) (stringEntry slot) := by
  rw [stringEntry_of_textual textual]
  split <;> exact Settles.pure _

theorem numberEntry_settles : Settles (Familiar registry) (numberEntry slot) := by
  rw [numberEntry_of_textual textual]
  split
  · exact Settles.pure _
  · exact Settles.pure _
  · exact Settles.pure _
  · simp only [String.append_assoc]
    exact settles_warn "Value " (by decide) (by decide) _ _

theorem booleanEntry_settles : Settles (Familiar registry) (booleanEntry slot) := by
  rw [booleanEntry_of_textual textual]
  split
  · exact Settles.pure _
  · exact Settles.pure _
  · simp only [String.append_assoc]
    exact settles_warn "Value " (by decide) (by decide) _ _

theorem enumEntry_settles (subType : String) : Settles (Familiar registry) (encoder.enumEntry slot subType) := by
  rw [enumEntry_of_textual encoder textual]
  split
  · exact Settles.pure _
  · split
    · simp only [String.append_assoc]
      exact settles_report "Unknown structure type: " (by decide) (by decide) _ _
    · split
      · simp only [String.append_assoc]
        exact settles_warn "Value " (by decide) (by decide) _ _
      · exact Settles.pure _
    · exact Settles.pure _

theorem fontEntry_settles : Settles (Familiar registry) (encoder.fontEntry slot) := by
  rw [fontEntry_of_textual encoder textual]
  split <;> exact Settles.pure _

theorem imageEntry_settles : Settles (Familiar registry) (encoder.imageEntry slot) := by
  rw [imageEntry_of_textual encoder textual]
  split
  · split
    · exact Settles.pure _
    · simp only [String.append_assoc]
      exact settles_warn "Image path not found for " (by decide) (by decide) _ _
  · split
    · rename_i bitmap found
      obtain ⟨first, held, child⟩ := Option.bind_eq_some_iff.1 found
      have inner := Tree.textual_of_first? (Slot.textual_of_wrapping? textual held) child
      exact encoder.builtIn_settles (by decide) inner _
    · exact Settles.pure _

theorem brushEntry_settles : Settles (Familiar registry) (encoder.brushEntry slot) := by
  rw [brushEntry_of_textual encoder textual]
  split
  · exact Settles.pure _
  · split
    · rename_i brush found
      obtain ⟨first, held, child⟩ := Option.bind_eq_some_iff.1 found
      have inner := Tree.textual_of_first? (Slot.textual_of_wrapping? textual held) child
      exact encoder.builtIn_settles (by decide) inner _
    · exact Settles.pure _

theorem commandEntry_settles : Settles (Familiar registry) (encoder.commandEntry slot) := by
  rw [commandEntry_of_textual encoder textual]
  split
  · exact Settles.pure _
  · rename_i first held
    split
    · rename_i command child
      have inner := Tree.textual_of_first? (Slot.textual_of_wrapping? textual held) child
      rw [commandLiteral_of_textual encoder inner]
      exact Settles.pure _
    · simp only [String.append_assoc]
      exact settles_warn "Unknown command type for " (by decide) (by decide) _ _

end

/-- Every value of a known type that weighs less than the bound settles. -/
def SettlesBelow (bound : Nat) : Prop :=
  ∀ child : Tree, child.isTextual = true → child.weight < bound →
    ∀ typeName indent, encoder.registry.lookup? typeName ≠ none →
      Settles (Familiar encoder.registry) (encoder.value typeName child indent)

section

variable {slot : Slot} (textual : slot.tree.isTextual = true)
  (below : encoder.SettlesBelow slot.tree.weight)
include textual below

theorem objectEntry_settles (subType : String) :
    Settles (Familiar encoder.registry) (encoder.entry slot (.object subType)) := by
  rw [entry_object encoder textual]
  split
  · exact Settles.pure _
  · rename_i first held
    split
    · simp only [String.append_assoc]
      exact settles_warn "Expected " (by decide) (by decide) _ _
    · rename_i child found
      by_cases resolved : encoder.registry.lookup? (dataTag subType) = none
      · rw [value_of_unknown encoder resolved, orElseUnknown_throw]
        exact settles_unresolved _ slot _
      · have inside := Tree.mem_under_of_first? held
        have light := Tree.weight_lt_of_mem_under inside
        have lighter := Tree.weight_lt_of_mem_under (Tree.mem_under_of_first? found)
        have inner := Tree.textual_of_first? (Slot.textual_of_wrapping? textual held) found
        have settled := below child inner (by omega) (dataTag subType) slot.indent resolved
        obtain ⟨literal, ended⟩ := settled.1
        rw [orElseUnknown_of_ok ended]
        exact settled

theorem collectionEntry_settles (subType : String) :
    Settles (Familiar encoder.registry) (encoder.entry slot (.collection subType)) := by
  rw [entry_collection encoder textual]
  split
  · exact Settles.pure _
  · rename_i first held
    split
    · simp only [String.append_assoc]
      exact settles_warn "Expected array for collection property " (by decide) (by decide) _ _
    · rename_i item rest children
      by_cases resolved : encoder.registry.lookup? (dataTag subType) = none
      · rw [items, value_of_unknown encoder resolved]
        exact settles_unresolved ⟨finalSegment (dataTag subType)⟩ slot _
      · have listed : Settles (Familiar encoder.registry)
            (encoder.items (dataTag subType) (slot.indent ++ encoder.step) (item :: rest)) := by
          rw [items_eq_mapM]
          refine Settles.mapM fun child mem => Settles.bind ?_ fun _ => Settles.pure _
          rw [← children] at mem
          have light := Tree.weight_lt_of_mem_under (Tree.mem_under_of_first? held)
          have lighter := Tree.weight_lt_of_mem_under mem
          have inner := Tree.textual_of_mem_under (Slot.textual_of_wrapping? textual held) mem
          exact below child inner (by omega) _ _ resolved
        have settled : Settles (Familiar encoder.registry) (do
            let lines ← encoder.items (dataTag subType) (slot.indent ++ encoder.step) (item :: rest)
            return "\n".intercalate ("[" :: lines ++ [slot.indent ++ "]"])) :=
          Settles.bind listed fun _ => Settles.pure _
        obtain ⟨literal, ended⟩ := settled.1
        rw [orElseUnknown_of_ok ended]
        exact settled

theorem entry_settles (kind : PropertyKind) :
    Settles (Familiar encoder.registry) (encoder.entry slot kind) := by
  cases kind with
  | object subType => exact encoder.objectEntry_settles textual below subType
  | collection subType => exact encoder.collectionEntry_settles textual below subType
  | string => rw [entry]; exact stringEntry_settles textual
  | number => rw [entry]; exact numberEntry_settles textual
  | boolean => rw [entry]; exact booleanEntry_settles textual
  | enum subType => rw [entry]; exact encoder.enumEntry_settles textual subType
  | font => rw [entry]; exact encoder.fontEntry_settles textual
  | image => rw [entry]; exact encoder.imageEntry_settles textual
  | brush => rw [entry]; exact encoder.brushEntry_settles textual
  | command => rw [entry]; exact encoder.commandEntry_settles textual

end

/-- A value of a known type settles, whatever stands below it. -/
theorem value_settles {tree : Tree} (textual : tree.isTextual = true) {typeName : String}
    (known : encoder.registry.lookup? typeName ≠ none) (indent : String) :
    Settles (Familiar encoder.registry) (encoder.value typeName tree indent) := by
  -- By weight and for all types at once: classes may refer to each other in a cycle, but the tree ends.
  induction weight : tree.weight using Nat.strongRecOn generalizing tree typeName indent with
  | ind bound ih =>
    have below : encoder.SettlesBelow tree.weight := by
      intro child inner lighter typeName indent known
      exact ih child.weight (weight ▸ lighter) inner known indent rfl
    cases found : encoder.registry.lookup? typeName with
    | none => exact absurd found known
    | some referred =>
      cases referred with
      | classType name properties =>
        rw [value_of_classType encoder found, entries_eq_mapM]
        refine Settles.bind (Settles.mapM fun property _ => ?_) fun _ => Settles.pure _
        exact Settles.bind (encoder.entry_settles textual below property.2) fun _ => Settles.pure _
      | enumType name items =>
        rw [value_of_enumType encoder found]
        exact Settles.pure _
      | builtIn name =>
        rw [value_of_builtIn encoder found]
        exact encoder.builtIn_settles_of_mem (Registry.mem_structures_of_lookup? found) textual indent

/-- **Encoding ends in a literal.** Only a root of unknown type is an error, namely the one that tells the
last segment of the type's name. With a registry that comes from sources no built-in type is unknown, so
no record says that one is. -/
theorem encode_total (typeName : String) {tree : Tree} (textual : tree.isTextual = true) :
    (encoder.registry.lookup? typeName = none →
      (encoder.encode typeName tree).outcome = .error (.unknown ⟨finalSegment typeName⟩)) ∧
    (encoder.registry.lookup? typeName ≠ none →
      ∃ literal, (encoder.encode typeName tree).outcome = .ok literal) ∧
    ∀ sources, (load sources).outcome = .ok encoder.registry →
      ∀ record ∈ (encoder.encode typeName tree).records, ∀ name,
        record.message ≠ "Unknown built-in: " ++ name := by
  refine ⟨?_, ?_, ?_⟩
  · intro unknown
    rw [encode, value_of_unknown encoder unknown, outcome_throw]
  · intro known
    exact (encoder.value_settles textual known "").1
  · intro sources loaded record mem
    by_cases unknown : encoder.registry.lookup? typeName = none
    · rw [encode, value_of_unknown encoder unknown, records_throw] at mem
      cases mem
    · exact (encoder.value_settles textual unknown "").2 record mem (isLoaded_of_load loaded).builtIn

/-- The source of a class that refers to itself and to a type that there is none of. -/
def cardSource : Source :=
  ⟨"card.xml", "Class", .element [
    ("Name", .list [.text "Card"]),
    ("Property", .list [
      .element [("Name", .list [.text "Next"]), ("Type", .list [.text "Object"]),
        ("SubType", .list [.text "Card"])],
      .element [("Name", .list [.text "Lost"]), ("Type", .list [.text "Object"]),
        ("SubType", .list [.text "Missing"])]])]⟩

def cardRegistry : Registry :=
  Registry.empty.seed.add
    (.classType "Card" (Table.ofList [("Next", .object "Card"), ("Lost", .object "Missing")]))

/-- A card whose next card is a text where an element is expected, and which holds a missing one. -/
def oddCard : Tree :=
  .element [
    ("Card.Next", .list [.element [("Card", .list [.text "stray"])]]),
    ("Card.Lost", .list [.element [("Missing", .list [.element []])]])]

/-- The odd card has a literal as a card and none as a missing type, and names no unknown built-in. -/
theorem encode_total_oddCard :
    (∃ literal, ((Encoder.mk cardRegistry 2 "Bangers").encode "Deck.Card" oddCard).outcome = .ok literal) ∧
      ((Encoder.mk cardRegistry 2 "Bangers").encode "Deck.Missing" oddCard).outcome =
        .error (.unknown ⟨"Missing"⟩) ∧
      ∀ record ∈ ((Encoder.mk cardRegistry 2 "Bangers").encode "Deck.Card" oddCard).records, ∀ name,
        record.message ≠ "Unknown built-in: " ++ name := by
  have textual : oddCard.isTextual = true := rfl
  obtain ⟨-, known, familiar⟩ := encode_total ⟨cardRegistry, 2, "Bangers"⟩ "Deck.Card" textual
  obtain ⟨unknown, -, -⟩ := encode_total ⟨cardRegistry, 2, "Bangers"⟩ "Deck.Missing" textual
  have loaded : (load [cardSource]).outcome = .ok cardRegistry := rfl
  exact ⟨known nofun, unknown rfl, familiar [cardSource] loaded⟩

end Encoder

end ViewModel.Literal
