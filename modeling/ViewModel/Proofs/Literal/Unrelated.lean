import ViewModel.Proofs.Lines
import ViewModel.Proofs.Literal.Footprint

/-!
# Unrelated changes of a schema

A change of the schema shows only where the changed names are looked up: the literals of a type change only
with what its footprint leads to, and a structure that nothing refers to is declared after all others, which
are declared as before.

* `load_concat`: one more source that loads;
* `value_render_add`, `records_render_add`: the module with a structure that nothing refers to;
* `unrelated_stays_apart`: all of it.
-/

namespace ViewModel

open Schema TypesModule

namespace Schema

theorem contribution_of_load {source : Source} {added : Structure} (loads : source.load.outcome = .ok added) :
    source.contribution = .ok (some added) := by
  unfold Source.contribution
  rw [loads]

/-- One more source that loads adds its structure to what the sources before it load to. -/
theorem load_concat {sources : List Source} {source : Source} {registry : Registry} {added : Structure}
    (loaded : (load sources).outcome = .ok registry) (loads : source.load.outcome = .ok added) :
    (load (sources ++ [source])).outcome = .ok (registry.add added) := by
  obtain ⟨each, rfl⟩ := outcome_load_eq_ok_iff.1 loaded
  have contributes := contribution_of_load loads
  rw [outcome_load_eq_ok_iff]
  constructor
  · intro other mem
    rcases List.mem_append.1 mem with mem | mem
    · exact each other mem
    · obtain rfl := List.mem_singleton.1 mem
      exact ⟨some added, contributes⟩
  · have last : [source].filterMap Source.loaded? = [added] :=
      List.filterMap_cons_some (Source.loaded?_eq_some_iff.2 contributes)
    rw [List.filterMap_append, List.foldl_append, last]
    rfl

end Schema

namespace TypesModule

variable {registry : Registry} {added : Structure}

variable (loaded : registry.IsLoaded) (unread : ∀ found ∈ registry.structures, added.name ∉ found.references)
include loaded unread

/-- A structure is declared as before, if what is added is none that it refers to. -/
theorem declaration_add {found : Structure} (mem : found ∈ registry.structures) (indent : String) :
    declaration (registry.add added) indent found = declaration registry indent found := by
  apply declaration_congr
  intro subType refers
  have other : finalSegment subType ≠ added.name := by
    rw [finalSegment_of_unqualified (loaded.unqualified found mem subType refers)]
    rintro rfl
    exact unread found mem refers
  rw [Registry.lookup?_add, if_neg other]

variable (extended : (registry.add added).IsLoaded) (fresh : added.name ∉ registry.names)
include extended fresh

theorem block_add {found : Structure} (mem : found ∈ registry.structures) (indent : String) :
    block (registry.add added) indent found = block registry indent found := by
  have held := Registry.mem_structures_add_of_new fresh mem
  rw [← value_declaration extended held, ← value_declaration loaded mem, declaration_add loaded unread mem]

theorem danglingWarnings_add {found : Structure} (mem : found ∈ registry.structures) :
    danglingWarnings (registry.add added) found = danglingWarnings registry found := by
  have held := Registry.mem_structures_add_of_new fresh mem
  rw [← records_declaration extended held "", ← records_declaration loaded mem "",
    declaration_add loaded unread mem]

variable (declared : added.isDeclared = true)
include declared

/-- What nothing refers to is declared after everything else, which stays as it is. -/
theorem value_render_add (options : Options) :
    (render (registry.add added) options).value = (render registry options).value ++
      ("\n".intercalate (block (registry.add added) (spaces options.indent) added) ++ "\n") := by
  have filled : block (registry.add added) (spaces options.indent) added ≠ [] := by
    cases added with
    | classType name properties => exact List.cons_ne_nil _ _
    | enumType name items => exact List.cons_ne_nil _ _
    | builtIn name => cases declared
  have opened : moduleLines registry options ≠ [] := List.cons_ne_nil _ _
  have lines : moduleLines (registry.add added) options =
      moduleLines registry options ++ block (registry.add added) (spaces options.indent) added := by
    unfold moduleLines
    rw [Registry.declarations_add_of_new fresh declared, List.flatMap_append, List.flatMap_singleton,
      List.append_assoc]
    refine congrArg (preamble _ ++ · ++ _) (List.flatMap_congr ?_)
    intro found mem
    exact block_add loaded unread extended fresh (List.mem_filter.1 mem).1 _
  rw [value_render extended, value_render loaded, lines, lines_append opened filled]

theorem records_render_add (options : Options) :
    (render (registry.add added) options).records = (render registry options).records ++
      ⟨.debug, logger, "- " ++ added.name⟩ :: danglingWarnings (registry.add added) added := by
  rw [records_render extended, records_render loaded, Registry.declarations_add_of_new fresh declared,
    List.flatMap_append, List.flatMap_singleton]
  refine congrArg (· ++ _) (List.flatMap_congr ?_)
  intro found mem
  rw [danglingWarnings_add loaded unread extended fresh (List.mem_filter.1 mem).1]

end TypesModule

open Literal

/-- **Unrelated changes of a schema do not leak.** Over registries that agree on the footprint of a type,
every tree is encoded alike as that type, with the same records or the same error. And if the structure of
one more source has a new name that no property refers to, the sources with it load, and their types module
is the one without it, followed by the lines of the new structure; the records are those without it, followed
by those of the new structure. -/
theorem unrelated_stays_apart :
    (∀ (registry other : Registry) (typeName : String),
      (∀ name, registry.Footprint typeName name → registry.lookup? name = other.lookup? name) →
      ∀ indent font tree, (Encoder.mk registry indent font).encode typeName tree =
        (Encoder.mk other indent font).encode typeName tree) ∧
    ∀ (sources : List Source) (source : Source) (registry : Registry) (added : Structure),
      (load sources).outcome = .ok registry → source.load.outcome = .ok added →
      added.name ∉ registry.names → (∀ found ∈ registry.structures, added.name ∉ found.references) →
      (load (sources ++ [source])).outcome = .ok (registry.add added) ∧
      ∀ options, (render (registry.add added) options).value = (render registry options).value ++
          ("\n".intercalate (block (registry.add added) (spaces options.indent) added) ++ "\n") ∧
        (render (registry.add added) options).records = (render registry options).records ++
          ⟨.debug, TypesModule.logger, "- " ++ added.name⟩ :: danglingWarnings (registry.add added) added := by
  constructor
  · intro registry other typeName same indent font tree
    exact (Encoder.agreeOn_footprint same indent font).value .root tree ""
  · intro sources source registry added loaded loads fresh unread
    have concat := load_concat loaded loads
    have invariant := isLoaded_of_load loaded
    have extended := isLoaded_of_load concat
    have declared := (loadable_of_contribution (contribution_of_load loads)).declared
    refine ⟨concat, fun options => ⟨?_, ?_⟩⟩
    · exact value_render_add invariant unread extended fresh declared options
    · exact records_render_add invariant unread extended fresh declared options

/-- The sources of shelves that hold books, and of books that tell their shelf. -/
def shelfSources : List Source :=
  [⟨"shelf.xml", "Class", .element [
    ("Name", .list [.text "Shelf"]),
    ("Property", .list [
      .element [("Name", .list [.text "Books"]), ("Type", .list [.text "Collection"]),
        ("SubType", .list [.text "Book"])]])]⟩,
  ⟨"book.xml", "Class", .element [
    ("Name", .list [.text "Book"]),
    ("Property", .list [
      .element [("Name", .list [.text "Place"]), ("Type", .list [.text "Object"]),
        ("SubType", .list [.text "Shelf"])]])]⟩]

def shelfRegistry : Registry :=
  (Registry.empty.seed.add (.classType "Shelf" (Table.ofList [("Books", .collection "Book")]))).add
    (.classType "Book" (Table.ofList [("Place", .object "Shelf")]))

/-- The source of an enum that neither of them refers to. -/
def colourSource : Source :=
  ⟨"colour.xml", "Enum", .element [
    ("Name", .list [.text "Colour"]),
    ("Item", .list [.element [("Name", .list [.text "Red"]), ("Value", .list [.text "1"])]])]⟩

def colour : Structure := .enumType "Colour" (Table.ofList [("Red", 1)])

/-- Shelves and books lead to each other and to nothing else. -/
theorem footprint_shelf {name : String} (inside : shelfRegistry.Footprint "Shelf" name) :
    name = "Shelf" ∨ name = "Book" := by
  have leads : ∀ name, name = "Shelf" ∨ name = "Book" → ∀ found, shelfRegistry.lookup? name = some found →
      ∀ subType ∈ found.references, subType = "Shelf" ∨ subType = "Book" := by
    rintro name (rfl | rfl) found looked subType refers
    · obtain rfl := Option.some.inj looked
      exact .inr (List.mem_singleton.1 refers)
    · obtain rfl := Option.some.inj looked
      exact .inl (List.mem_singleton.1 refers)
  induction inside with
  | root => exact .inl rfl
  | subType _ looked refers ih =>
    rcases leads _ ih _ looked _ refers with rfl | rfl
    · exact .inl rfl
    · exact .inr rfl
  | dataTag _ looked refers ih =>
    rcases leads _ ih _ looked _ refers with rfl | rfl
    · exact .inl rfl
    · exact .inr rfl

/-- With an enum of colours, shelves are encoded as without, and the enum is declared last. -/
theorem unrelated_stays_apart_shelf :
    (load (shelfSources ++ [colourSource])).outcome = .ok (shelfRegistry.add colour) ∧
      (∀ tree, (Encoder.mk shelfRegistry 2 "Bangers").encode "Shelf" tree =
        (Encoder.mk (shelfRegistry.add colour) 2 "Bangers").encode "Shelf" tree) ∧
      (render (shelfRegistry.add colour) {}).value = (render shelfRegistry {}).value ++
        "// Definition for enum Colour\nexport enum Colour \x7b\n  \"Red\" = \"Red\",\n\x7d\n\n" := by
  obtain ⟨encoded, declared⟩ := unrelated_stays_apart
  have loaded : (load shelfSources).outcome = .ok shelfRegistry := rfl
  have loads : colourSource.load.outcome = .ok colour := rfl
  obtain ⟨extended, rendered⟩ := declared shelfSources colourSource shelfRegistry colour loaded loads
    (by decide) (by decide)
  have same : ∀ name, shelfRegistry.Footprint "Shelf" name →
      shelfRegistry.lookup? name = (shelfRegistry.add colour).lookup? name := by
    intro name inside
    rcases footprint_shelf inside with rfl | rfl <;> rfl
  refine ⟨extended, encoded _ _ _ same 2 "Bangers", ?_⟩
  rw [(rendered {}).1]
  rfl

end ViewModel
