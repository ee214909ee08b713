import Mathlib.Data.List.Forall2
import ViewModel.Proofs.Literal.Totality
import ViewModel.Proofs.Schema.Listed
import ViewModel.Proofs.TypesModule.Resolution

/-!
# Declarations and literals list the same members

The declaration of a class has a line for each accepted property of its last source, and so has every literal
of the class, in the same order and by the same kinds. The declaration of an enum has a line for each accepted
item of its last source.

* `exists_declaredAs`: a declared structure has its block in the module once;
* `itemizes_of_value`: every literal of a class has a line for each of its properties;
* `members_listed_alike`: all of it, for every registry that comes from sources.
-/

namespace ViewModel

open Schema

namespace TypesModule

/-- The lines stand in the module as the block of the structure of the name: what stands around them are the
preamble and the blocks of structures of other names. -/
def DeclaredAs (registry : Registry) (options : Options) (name : String) (lines : List String) : Prop :=
  ∃ earlier later : List Structure,
    registry.declarations.map Structure.name = earlier.map Structure.name ++ name :: later.map Structure.name ∧
    (∀ other ∈ earlier ++ later, other.name ≠ name) ∧
    (render registry options).value = "\n".intercalate
      (preamble options.imageModule ++ earlier.flatMap (block registry (spaces options.indent)) ++ lines ++
        later.flatMap (block registry (spaces options.indent))) ++ "\n"

variable {registry : Registry} {found : Structure}

/-- A declared structure has its block in the module, and no other structure of its name has one. -/
theorem exists_declaredAs (loaded : registry.IsLoaded) (mem : found ∈ registry.declarations) (options : Options) :
    DeclaredAs registry options found.name (block registry (spaces options.indent) found) := by
  have distinct := registry.nodup_declared
  obtain ⟨earlier, later, split⟩ := List.append_of_mem mem
  refine ⟨earlier, later, by rw [split, List.map_append, List.map_cons], ?_, ?_⟩
  · intro other inside same
    rw [split, List.map_append, List.map_cons, List.nodup_middle, List.nodup_cons, ← List.map_append] at distinct
    exact distinct.1 (List.mem_map.2 ⟨other, inside, same⟩)
  · rw [value_render loaded, moduleLines, split, List.flatMap_append, List.flatMap_cons]
    simp only [List.append_assoc]

end TypesModule

namespace Literal.Encoder

/-- The literal is an object of one entry for each property, in order: the property's name with what its kind
makes of the tree. -/
def Itemizes (encoder : Encoder) (name : String) (properties : List (String × PropertyKind)) (tree : Tree)
    (indent literal : String) : Prop :=
  ∃ lines : List String,
    List.Forall₂ (fun property line => ∃ text,
      (encoder.entry ⟨name, property.1, tree, indent ++ encoder.step⟩ property.2).outcome = .ok text ∧
        line = indent ++ encoder.step ++ property.1 ++ ": " ++ text ++ ",") properties lines ∧
    literal = "\n".intercalate ("\x7b" :: lines ++ [indent ++ "\x7d"])

/-- Every literal of a class has an entry for each of its properties. -/
theorem itemizes_of_value (encoder : Encoder) {typeName name : String} {properties : Table PropertyKind}
    (looked : encoder.registry.lookup? typeName = some (.classType name properties)) {tree : Tree}
    {indent literal : String} (h : (encoder.value typeName tree indent).outcome = .ok literal) :
    encoder.Itemizes name properties.entries tree indent literal := by
  rw [value_of_classType encoder looked, entries_eq_mapM] at h
  obtain ⟨lines, listed, written⟩ := Attempt.outcome_bind_eq_ok h
  rw [Attempt.outcome_mapM, Attempt.mapM_eq_ok_iff, ← List.forall₂_eq_eq_eq, List.forall₂_map_left_iff,
    List.forall₂_map_right_iff] at listed
  refine ⟨lines, listed.imp ?_, (Except.ok.inj written).symm⟩
  intro property line ended
  obtain ⟨text, entered, same⟩ := Attempt.outcome_bind_eq_ok ended
  exact ⟨text, entered, (Except.ok.inj same).symm⟩

end Literal.Encoder

open Literal TypesModule

theorem root_of_lastDeclaring {sources : List Source} {source : Source} {name : String}
    (last : lastDeclaring? sources name = some source) : source.rootTag = "Class" ∨ source.rootTag = "Enum" := by
  obtain ⟨declared, loads, -⟩ := loaded?_of_lastDeclaring last
  have contributes := Source.loaded?_eq_some_iff.1 loads
  by_contra neither
  rw [not_or] at neither
  rw [contribution_other neither.1 neither.2] at contributes
  cases contributes

/-- **Declarations and literals list the same members.** In a registry that comes from sources, what is
declared under a name that is not built in comes from the last source of the name. If that is of a class, the
class has one property for each accepted name, where the name is first accepted and of the kind that it is
last accepted with; its block in the module has a line for each of these, and so has every literal of the
class, which every textual tree has. If it is of an enum, the enum has one item for each accepted name, where
the name is first accepted and of the ordinal that it is last accepted with; and its block has a line for each
of these. -/
theorem members_listed_alike {sources : List Source} {registry : Registry}
    (loaded : (load sources).outcome = .ok registry) :
    (∀ found ∈ registry.declarations, found ∈ Registry.builtIns ∨
      ∃ source, lastDeclaring? sources found.name = some source ∧
        (source.rootTag = "Class" ∨ source.rootTag = "Enum")) ∧
    (∀ name source, lastDeclaring? sources name = some source → source.rootTag = "Class" →
      ∃ properties, registry.table.get? name = some (.classType name properties) ∧
        Table.ListedOnce properties.entries (acceptedProperties source.node) ∧
        (∀ options, DeclaredAs registry options name
          (["// Definition for structure " ++ name, "export type " ++ name ++ " = \x7b"] ++
            properties.entries.map (propertyLine registry (spaces options.indent)) ++ ["\x7d", ""])) ∧
        ∀ indent font typeName tree outer, finalSegment typeName = name →
          (tree.isTextual = true → ∃ literal,
            ((Encoder.mk registry indent font).value typeName tree outer).outcome = .ok literal) ∧
          ∀ literal, ((Encoder.mk registry indent font).value typeName tree outer).outcome = .ok literal →
            (Encoder.mk registry indent font).Itemizes name properties.entries tree outer literal) ∧
    ∀ name source, lastDeclaring? sources name = some source → source.rootTag = "Enum" →
      ∃ items, registry.table.get? name = some (.enumType name items) ∧
        Table.ListedOnce items.entries (acceptedItems source.node) ∧
        ∀ options, DeclaredAs registry options name
          (["// Definition for enum " ++ name, "export enum " ++ name ++ " \x7b"] ++
            items.names.map (fun item => spaces options.indent ++ "\"" ++ item ++ "\" = \"" ++ item ++ "\",") ++
            ["\x7d", ""]) := by
  have invariant := isLoaded_of_load loaded
  refine ⟨?_, ?_, ?_⟩
  · intro found mem
    have looked := Registry.mem_structures_iff.1 (List.mem_filter.1 mem).1
    cases last : lastDeclaring? sources found.name with
    | some source => exact .inr ⟨source, rfl, root_of_lastDeclaring last⟩
    | none =>
      rw [get?_of_undeclared loaded last] at looked
      exact .inl (List.mem_reverse.1 (List.mem_of_find?_eq_some looked))
  · intro name source last isClass
    have looked := get?_of_last_class loaded last isClass
    have declared : .classType name (Table.ofList (acceptedProperties source.node)) ∈ registry.declarations :=
      List.mem_filter.2 ⟨Registry.mem_structures_iff.2 looked, rfl⟩
    refine ⟨_, looked, Table.listedOnce_ofList _, fun options => exists_declaredAs invariant declared options, ?_⟩
    rintro indent font typeName tree outer rfl
    have known : (Encoder.mk registry indent font).registry.lookup? typeName = some _ := looked
    constructor
    · intro textual
      have settles := (Encoder.mk registry indent font).value_settles textual (by rw [known]; nofun) outer
      exact settles.1
    · intro literal h
      exact Encoder.itemizes_of_value _ known h
  · intro name source last isEnum
    have looked := get?_of_last_enum loaded last isEnum
    have declared : .enumType name (Table.ofList (acceptedItems source.node)) ∈ registry.declarations :=
      List.mem_filter.2 ⟨Registry.mem_structures_iff.2 looked, rfl⟩
    exact ⟨_, looked, Table.listedOnce_ofList _, fun options => exists_declaredAs invariant declared options⟩

/-- The source of a class with a property that is declared twice, with one of an unknown kind in between, and
another property. -/
def redeclaredCard : Source :=
  ⟨"card.xml", "Class", .element [
    ("Name", .list [.text "Card"]),
    ("Property", .list [
      .element [("Name", .list [.text "Title"]), ("Type", .list [.text "String"])],
      .element [("Name", .list [.text "Title"]), ("Type", .list [.text "Widget"])],
      .element [("Name", .list [.text "Points"]), ("Type", .list [.text "Number"])],
      .element [("Name", .list [.text "Title"]), ("Type", .list [.text "Boolean"])]])]⟩

/-- The source of an enum with an item that is declared twice and one without an integer. -/
def redeclaredSuit : Source :=
  ⟨"suit.xml", "Enum", .element [
    ("Name", .list [.text "Suit"]),
    ("Item", .list [
      .element [("Name", .list [.text "Cups"]), ("Value", .list [.text "1"])],
      .element [("Name", .list [.text "Coins"]), ("Value", .list [.text "many"])],
      .element [("Name", .list [.text "Swords"]), ("Value", .list [.text "2"])],
      .element [("Name", .list [.text "Cups"]), ("Value", .list [.text "3"])]])]⟩

/-- Both of them, after the source of another class of the same name. -/
def redeclaringSources : List Source :=
  [⟨"old.xml", "Class", .element [
    ("Name", .list [.text "Card"]),
    ("Property", .list [.element [("Name", .list [.text "Old"]), ("Type", .list [.text "String"])]])]⟩,
  redeclaredCard, redeclaredSuit]

def redeclaringRegistry : Registry :=
  (Registry.empty.seed.add (.classType "Card"
    (Table.ofList [("Title", .boolean), ("Points", .number none none none)]))).add
      (.enumType "Suit" (Table.ofList [("Cups", 3), ("Swords", 2)]))

/-- What is declared twice is listed once, in its first place. -/
theorem members_listed_alike_redeclared :
    (load redeclaringSources).outcome = .ok redeclaringRegistry ∧
      DeclaredAs redeclaringRegistry {} "Card"
        ["// Definition for structure Card", "export type Card = \x7b", "  Title: boolean;", "  Points: number;",
          "\x7d", ""] ∧
      DeclaredAs redeclaringRegistry {} "Suit"
        ["// Definition for enum Suit", "export enum Suit \x7b", "  \"Cups\" = \"Cups\",",
          "  \"Swords\" = \"Swords\",", "\x7d", ""] ∧
      ∀ tree literal, ((Encoder.mk redeclaringRegistry 2 "Bangers").encode "Card" tree).outcome = .ok literal →
        (Encoder.mk redeclaringRegistry 2 "Bangers").Itemizes "Card"
          [("Title", .boolean), ("Points", .number none none none)] tree "" literal := by
  have loaded : (load redeclaringSources).outcome = .ok redeclaringRegistry := rfl
  obtain ⟨-, classes, enums⟩ := members_listed_alike loaded
  obtain ⟨properties, card, -, declared, literals⟩ := classes "Card" redeclaredCard rfl rfl
  obtain ⟨items, suit, -, itemized⟩ := enums "Suit" redeclaredSuit rfl rfl
  obtain rfl : Table.ofList [("Title", .boolean), ("Points", .number none none none)] = properties :=
    (Structure.classType.inj (Option.some.inj card)).2
  obtain rfl : Table.ofList [("Cups", 3), ("Swords", 2)] = items :=
    (Structure.enumType.inj (Option.some.inj suit)).2
  refine ⟨loaded, declared {}, itemized {}, ?_⟩
  intro tree literal h
  obtain ⟨-, itemizes⟩ := literals 2 "Bangers" "Card" tree "" rfl
  exact itemizes literal h

end ViewModel
