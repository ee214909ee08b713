import ViewModel.Proofs.Literal.Datum

/-!
# Conforming trees are encoded in full

Encoding a conforming tree writes the layout of the datum that the tree carries and records nothing. The
layout has no default, so no property of a conforming tree is written as one.

* `value_of_carries`: a value at every depth;
* `encode_of_conforms`: the whole tree.
-/

namespace ViewModel.Literal

open Schema Attempt

namespace Encoder

variable (encoder : Encoder)

theorem builtIn_of_carries {name : String} {tree : Tree} {datum : Datum}
    (carries : CarriesBuiltIn name tree datum) (textual : tree.isTextual = true) (indent : String) :
    encoder.builtIn name tree indent = pure (datum.layout encoder.step indent) := by
  cases carries with
  | integer scalar => rw [builtIn, scalar, Datum.layout]; rfl
  | decimal scalar => rw [builtIn, scalar, Datum.layout]
  | flag scalar => rw [builtIn, scalar, Datum.layout]; rfl
  | string => rw [builtIn, Datum.layout]; rfl
  | color => rw [builtIn, Datum.layout]; rfl
  | bitmapImage found path =>
    rw [builtIn_bitmapImage encoder textual, found, Option.bind_some, path, Datum.layout]
  | solidColorBrush found => rw [builtIn_solidColorBrush encoder textual, found, Datum.layout]
  | messageCommand => rw [builtIn_messageCommand encoder textual, Datum.layout]

/-- Every tree that weighs less than the bound is encoded as the datum that it carries. -/
def WritesBelow (bound : Nat) : Prop :=
  ∀ child : Tree, child.isTextual = true → child.weight < bound →
    ∀ typeName datum, Carries encoder.registry typeName child datum →
      ∀ indent, encoder.value typeName child indent = pure (datum.layout encoder.step indent)

theorem items_of_carries {typeName : String} {trees : List Tree} {data : List Datum}
    (carries : CarriesAll encoder.registry typeName trees data) {indent : String}
    (each : ∀ tree ∈ trees, ∀ datum, Carries encoder.registry typeName tree datum →
      encoder.value typeName tree indent = pure (datum.layout encoder.step indent)) :
    encoder.items typeName indent trees = pure (Datum.layoutItems encoder.step data indent) := by
  induction trees generalizing data with
  | nil => cases carries; rw [items, Datum.layoutItems]
  | cons tree rest ih =>
    cases carries with
    | cons first others =>
      have later := ih others fun tree mem => each tree (List.mem_cons_of_mem _ mem)
      rw [items, each tree List.mem_cons_self _ first, pure_bind, later, pure_bind, Datum.layoutItems]

section

variable {name property : String} {tree child : Tree} {tag : String} (textual : tree.isTextual = true)
include textual

/-- The child that a tree wraps, as the slot of the property finds it. -/
theorem wrapping?_of_wraps (indent : String) (wraps : Wraps tree (name ++ "." ++ property) tag child) :
    (∃ first, (Slot.mk name property tree indent).wrapping? = some first ∧ first.first? tag = some child) ∧
      child.isTextual = true ∧ child.weight < tree.weight := by
  obtain ⟨first, held, found⟩ := wraps
  have inner := Tree.textual_of_first? textual held
  have light := Tree.weight_lt_of_mem_under (Tree.mem_under_of_first? held)
  have lighter := Tree.weight_lt_of_mem_under (Tree.mem_under_of_first? found)
  exact ⟨⟨first, held, found⟩, Tree.textual_of_first? inner found, by omega⟩

/-- An entry is written as the datum that its property carries. -/
theorem entry_of_carries {kind : PropertyKind} {datum : Datum} (below : encoder.WritesBelow tree.weight)
    (carries : CarriesProperty encoder.registry name tree property kind datum) (indent : String) :
    encoder.entry ⟨name, property, tree, indent⟩ kind = pure (datum.layout encoder.step indent) := by
  have given : (Slot.mk name property tree indent).given? = tree.first? property := rfl
  cases carries with
  | string found => rw [entry, stringEntry_of_textual textual, given, found, Datum.layout]; rfl
  | font found => rw [entry, fontEntry_of_textual encoder textual, given, found, Datum.layout]; rfl
  | integer found scalar =>
    rw [entry, numberEntry_of_textual textual, given, found, Option.map_some, scalar, Datum.layout]; rfl
  | decimal found scalar =>
    rw [entry, numberEntry_of_textual textual, given, found, Option.map_some, scalar, Datum.layout]
  | flag found scalar =>
    rw [entry, booleanEntry_of_textual textual, given, found, Option.map_some, scalar, Datum.layout]; rfl
  | enum found registered member =>
    rw [entry, enumEntry_of_textual encoder textual, given, found, registered, Datum.layout]
    simp only [plain, Tree.written, member]
    rfl
  | image found path =>
    rw [entry, imageEntry_of_textual encoder textual, given, found]
    dsimp only
    rw [path, Datum.layout]
  | bitmap absent wraps carried =>
    obtain ⟨⟨first, held, child⟩, inner, -⟩ := wrapping?_of_wraps textual indent wraps
    rw [entry, imageEntry_of_textual encoder textual, given, absent, held, Option.bind_some, child]
    exact encoder.builtIn_of_carries carried inner indent
  | color found => rw [entry, brushEntry_of_textual encoder textual, given, found, Datum.layout]
  | brush absent wraps carried =>
    obtain ⟨⟨first, held, child⟩, inner, -⟩ := wrapping?_of_wraps textual indent wraps
    rw [entry, brushEntry_of_textual encoder textual, given, absent, held, Option.bind_some, child]
    exact encoder.builtIn_of_carries carried inner indent
  | command wraps carried =>
    obtain ⟨⟨first, held, child⟩, inner, -⟩ := wrapping?_of_wraps textual indent wraps
    rw [entry, commandEntry_of_textual encoder textual, held]
    dsimp only
    rw [child]
    exact encoder.builtIn_of_carries carried inner indent
  | object wraps carried =>
    obtain ⟨⟨first, held, child⟩, inner, lighter⟩ := wrapping?_of_wraps textual indent wraps
    rw [entry_object encoder textual, held]
    dsimp only
    rw [child]
    dsimp only
    rw [below _ inner lighter _ _ carried]
    exact orElseUnknown_of_ok rfl _
  | @collection _ _ _ subType first data held filled carried =>
    have inner := Tree.textual_of_first? textual held
    have light := Tree.weight_lt_of_mem_under (Tree.mem_under_of_first? held)
    have listed : encoder.items (dataTag subType) (indent ++ encoder.step) (first.under (dataTag subType)) =
        pure (Datum.layoutItems encoder.step data (indent ++ encoder.step)) := by
      refine encoder.items_of_carries carried fun child mem datum carried => ?_
      have lighter := Tree.weight_lt_of_mem_under mem
      exact below child (Tree.textual_of_mem_under inner mem) (by omega) _ _ carried _
    have wrapping : (Slot.mk name property tree indent).wrapping? = some first := held
    rw [entry_collection encoder textual, wrapping]
    dsimp only
    cases children : first.under (dataTag subType) with
    | nil => exact absurd children filled
    | cons item rest =>
      rw [children] at listed
      dsimp only
      rw [listed, pure_bind, Datum.layout]
      exact orElseUnknown_of_ok rfl _

theorem entries_of_carries (below : encoder.WritesBelow tree.weight) {properties : List (String × PropertyKind)}
    {data : List (String × Datum)} (carries : CarriesEach encoder.registry name tree properties data)
    (indent : String) :
    encoder.entries name tree indent properties = pure (Datum.layoutEntries encoder.step data indent) := by
  induction properties generalizing data with
  | nil => cases carries; rw [entries, Datum.layoutEntries]
  | cons entry rest ih =>
    cases carries with
    | cons first others =>
      rw [entries, entry_of_carries encoder textual below first, pure_bind, ih others, pure_bind,
        Datum.layoutEntries]

end

/-- A value is written as the datum that its tree carries, whatever stands below it. -/
theorem value_of_carries {typeName : String} {tree : Tree} {datum : Datum} (textual : tree.isTextual = true)
    (carries : Carries encoder.registry typeName tree datum) (indent : String) :
    encoder.value typeName tree indent = pure (datum.layout encoder.step indent) := by
  induction weight : tree.weight using Nat.strongRecOn generalizing tree typeName datum indent with
  | ind bound ih =>
    have below : encoder.WritesBelow tree.weight := by
      intro child inner lighter typeName datum carries indent
      exact ih child.weight (weight ▸ lighter) inner carries indent rfl
    cases carries with
    | classType registered each =>
      rw [value_of_classType encoder registered, entries_of_carries encoder textual below each, pure_bind,
        Datum.layout]
    | enumType registered member =>
      rw [value_of_enumType encoder registered, Datum.layout]
      rfl
    | builtIn registered carried =>
      rw [value_of_builtIn encoder registered, builtIn_of_carries encoder carried textual]

/-- **A conforming tree is encoded in full.** The literal is the layout of the datum that the tree carries,
in which nothing is a default or a placeholder, and nothing is recorded. -/
theorem encode_of_conforms {typeName : String} {tree : Tree} (textual : tree.isTextual = true)
    (conforms : Conforms encoder.registry typeName tree) :
    ∃ datum, Carries encoder.registry typeName tree datum ∧
      (encoder.encode typeName tree).outcome = .ok (datum.layout encoder.step "") ∧
      (encoder.encode typeName tree).records = [] := by
  obtain ⟨datum, carries⟩ := conforms
  refine ⟨datum, carries, ?_, ?_⟩
  · rw [encode, value_of_carries encoder textual carries, outcome_pure]
  · rw [encode, value_of_carries encoder textual carries, records_pure]

/-- Decks with a suit and cards, whose faces are images. -/
def deckRegistry : Registry :=
  ((Registry.empty.seed.add (Registry.enumOf "Suit" ["Cups", "Coins"])).add
    (.classType "Card" (Table.ofList [("Points", .number none none none), ("Face", .image none)]))).add
    (.classType "Deck" (Table.ofList
      [("Suit", .enum "Suit"), ("Draw", .command), ("Cards", .collection "Card")]))

def deck : Tree :=
  .element [
    ("Suit", .list [.text "Cups"]),
    ("Deck.Draw", .list [.element [
      ("MessageCommand", .list [.element [("Message", .list [.text "drawn"])]])]]),
    ("Deck.Cards", .list [.element [
      ("Card", .list [.element [
        ("Points", .list [.text "3"]),
        ("Card.Face", .list [.element [
          ("BitmapImage", .list [.element [
            ("UriSource", .list [.text "app;component/three.png"])]])]])]])]])]

def deckDatum : Datum :=
  .object [
    ("Suit", .member "Suit" "Cups"),
    ("Draw", .command "drawn"),
    ("Cards", .list [.object [("Points", .integer 3), ("Face", .quoted "three.png")]])]

theorem carries_deck : Carries deckRegistry "Deck" deck deckDatum := by
  have card : ∀ child ∈ deck.under "Deck.Cards", CarriesAll deckRegistry "Card" (child.under "Card")
      [.object [("Points", .integer 3), ("Face", .quoted "three.png")]] := by
    intro child mem
    obtain rfl := List.mem_singleton.1 mem
    refine .cons (.classType rfl (.cons ?_ (.cons ?_ .nil))) .nil
    · exact .integer rfl rfl
    · exact .bitmap rfl ⟨_, rfl, rfl⟩ (.bitmapImage rfl rfl)
  refine .classType rfl (.cons ?_ (.cons ?_ (.cons ?_ .nil)))
  · exact .enum rfl rfl rfl
  · exact .command ⟨_, rfl, rfl⟩ .messageCommand
  · exact .collection rfl nofun (card _ List.mem_cons_self)

/-- The deck is textual and conforms to its class, so it is encoded without a record. -/
theorem encode_of_conforms_deck :
    deck.isTextual = true ∧ Conforms deckRegistry "Deck" deck ∧
      (∃ literal, ((Encoder.mk deckRegistry 2 "Bangers").encode "Deck" deck).outcome = .ok literal) ∧
      ((Encoder.mk deckRegistry 2 "Bangers").encode "Deck" deck).records = [] := by
  have textual : deck.isTextual = true := rfl
  have conforms : Conforms deckRegistry "Deck" deck := ⟨deckDatum, carries_deck⟩
  obtain ⟨datum, -, ended, silent⟩ := encode_of_conforms ⟨deckRegistry, 2, "Bangers"⟩ textual conforms
  exact ⟨textual, conforms, ⟨_, ended⟩, silent⟩

end Encoder

end ViewModel.Literal
