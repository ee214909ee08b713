import ViewModel.Proofs.Literal.Footprint
import ViewModel.Proofs.Schema.Order

/-!
# Both modules depend on lookups only

Neither the literal of a tree nor the declaration of a structure depends on where in the registry a
structure stands, but only on what is found under the names. So sources of distinct names have the same
literals, and the same declarations in another order, however they are permuted.

* `declaration_of_answers`: over registries that answer alike a structure is declared alike;
* `Alike.value`: and a tree is encoded alike;
* `alike_of_perm`: permuted sources load to such registries.
-/

namespace ViewModel

open Schema

/-- Every type name stands for the same structure in both registries. -/
def Schema.Registry.AnswersAs (registry other : Registry) : Prop :=
  ∀ typeName, registry.lookup? typeName = other.lookup? typeName

namespace TypesModule

variable {registry other : Registry}

theorem declaration_of_answers (alike : registry.AnswersAs other) (indent : String) (found : Structure) :
    declaration registry indent found = declaration other indent found :=
  declaration_congr (fun subType _ => alike subType) indent

/-- The declarations of the module, each with the warnings that it makes. -/
def blocks (registry : Registry) (options : Options) : List (Logged (List String)) :=
  registry.declarations.map (declaration registry (spaces options.indent))

/-- The module is its declarations, one after the other. -/
theorem value_render_blocks (registry : Registry) (options : Options) :
    (render registry options).value =
      "\n".intercalate (preamble options.imageModule ++ (blocks registry options).flatMap (·.value)) ++ "\n" := by
  unfold render blocks
  rw [Logged.bind_value, Logged.pure_value, Logged.value_mapM, List.flatMap_map, List.flatMap_def]
  rfl

end TypesModule

namespace Literal.Encoder

/-- The encoders lay out alike and find the same under every name. -/
structure Alike (encoder other : Encoder) : Prop where
  indent : encoder.indent = other.indent
  defaultFont : encoder.defaultFont = other.defaultFont
  registry : encoder.registry.AnswersAs other.registry

namespace Alike

variable {encoder other : Encoder} (alike : encoder.Alike other)
include alike

/-- Encoders that are alike agree on all names at once. -/
theorem agreeOn : AgreeOn (fun _ => True) encoder other :=
  ⟨alike.indent, alike.defaultFont, fun name _ => alike.registry name, fun _ _ _ _ _ _ => ⟨trivial, trivial⟩⟩

/-- Encoders that find the same write the same and report the same. -/
theorem value (typeName : String) (tree : Tree) (indent : String) :
    encoder.value typeName tree indent = other.value typeName tree indent :=
  alike.agreeOn.value trivial tree indent

end Alike

end Literal.Encoder

open Literal TypesModule

/-- **The order of sources matters only where names collide.** Sources whose structures have distinct names
load in every order to registries that find the same under every type name. Every tree is encoded alike over
both, with the same records or the same error; and both types modules have the same declarations, with the
same warnings, though in another order. -/
theorem alike_of_perm {sources permuted : List Source} (perm : sources.Perm permuted)
    (distinct : ((sources.filterMap Source.loaded?).map Structure.name).Nodup) {registry : Registry}
    (loaded : (load sources).outcome = .ok registry) :
    ∃ other, (load permuted).outcome = .ok other ∧ registry.AnswersAs other ∧
      (∀ indent font typeName tree,
        (Encoder.mk registry indent font).encode typeName tree =
          (Encoder.mk other indent font).encode typeName tree) ∧
      ∀ options, (blocks registry options).Perm (blocks other options) ∧
        ∀ entries ∈ [registry, other], (render entries options).value =
          "\n".intercalate (preamble options.imageModule ++ (blocks entries options).flatMap (·.value)) ++
            "\n" := by
  obtain ⟨other, loaded', same⟩ := load_of_perm perm distinct loaded
  have answers : registry.AnswersAs other := same.lookup?
  refine ⟨other, loaded', answers, ?_, ?_⟩
  · intro indent font typeName tree
    have alike : (Encoder.mk registry indent font).Alike (Encoder.mk other indent font) := ⟨rfl, rfl, answers⟩
    exact alike.value typeName tree ""
  · intro options
    refine ⟨?_, fun entries _ => value_render_blocks entries options⟩
    unfold blocks
    rw [funext (declaration_of_answers answers (spaces options.indent))]
    exact same.declarations_perm.map _

/-- A card with a suit, the suits, and the built-in enum of visibilities declared again. -/
def deckSources : List Source :=
  [⟨"card.xml", "Class", .element [
    ("Name", .list [.text "Card"]),
    ("Property", .list [
      .element [("Name", .list [.text "Suit"]), ("Type", .list [.text "Enum"]),
        ("SubType", .list [.text "Suit"])]])]⟩,
  ⟨"suit.xml", "Enum", .element [("Name", .list [.text "Suit"])]⟩,
  ⟨"visibility.xml", "Enum", .element [("Name", .list [.text "Visibility"])]⟩]

/-- The registry of those sources, in the given order or from the last to the first. -/
def deckRegistry (reversed : Bool) : Registry :=
  let card := Structure.classType "Card" (Table.ofList [("Suit", .enum "Suit")])
  let suit := Structure.enumType "Suit" (Table.ofList [])
  let visibility := Structure.enumType "Visibility" (Table.ofList [])
  let additions := [card, suit, visibility]
  (if reversed then additions.reverse else additions).foldl Registry.add Registry.empty.seed

/-- Reversed sources load to registries in which cards and suits have changed places, and cards are still
encoded alike. -/
theorem alike_of_perm_deck :
    (load deckSources).outcome = .ok (deckRegistry false) ∧
      (load deckSources.reverse).outcome = .ok (deckRegistry true) ∧
      (deckRegistry false).names ≠ (deckRegistry true).names ∧
      ∀ tree, (Encoder.mk (deckRegistry false) 2 "Bangers").encode "Card" tree =
        (Encoder.mk (deckRegistry true) 2 "Bangers").encode "Card" tree := by
  have loaded : (load deckSources).outcome = .ok (deckRegistry false) := rfl
  have reversed : (load deckSources.reverse).outcome = .ok (deckRegistry true) := rfl
  obtain ⟨other, loaded', -, encoded, -⟩ :=
    alike_of_perm (List.reverse_perm deckSources).symm (by decide) loaded
  obtain rfl : deckRegistry true = other := Except.ok.inj (reversed.symm.trans loaded')
  exact ⟨loaded, reversed, by decide, encoded 2 "Bangers" "Card"⟩

end ViewModel
