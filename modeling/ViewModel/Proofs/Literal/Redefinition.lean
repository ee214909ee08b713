import ViewModel.Literal.DataModule
import ViewModel.Proofs.Literal.Resolution

/-!
# Redefined built-in types

A schema may define a class or an enum under the name of a built-in type. Data then become objects of the
class or members of the enum, but an alias of the name still stands in the declared types. So a type is
declared as the structure that its data are encoded as exactly if the structure's name is no alias.

* `declaredType_eq_name_iff`: the element type of a property;
* `outcome_render`: the constant of a data module, with its annotation;
* `declared_as_own_name_iff`: both, for every registry that comes from sources.
-/

namespace ViewModel

namespace Schema

/-- An aliased name is not declared as itself, nor as a built-in type. -/
theorem aliases_apart : ∀ entry ∈ typeAliases, entry.2 ≠ entry.1 ∧ entry.2 ∉ Registry.builtInTypes := by
  decide

theorem declaredType_eq_self_iff {name : String} : declaredType name = name ↔ hasAlias name = false := by
  cases aliased : hasAlias name with
  | false => exact iff_of_true (TypesModule.declaredType_of_noAlias aliased) rfl
  | true => exact iff_of_false (aliases_apart _ (TypesModule.mem_typeAliases aliased)).1 Bool.noConfusion

/-- The elements of a sub-type are declared as the structure that they are encoded as, unless it has the name
of a built-in type. -/
theorem declaredType_eq_name_iff {registry : Registry} {subType : String} (unqualified : '.' ∉ subType.toList)
    {found : Structure} (h : registry.lookup? (dataTag subType) = some found) :
    declaredType subType = found.name ↔ found.name ∉ Registry.builtInTypes := by
  have named := (Registry.lookup?_eq_some_iff.1 h).2
  rw [TypesModule.finalSegment_of_unqualified (dataTag_unqualified unqualified)] at named
  rw [named]
  cases aliased : hasAlias subType with
  | true =>
    have builtIn := dataTag_mem_builtInTypes aliased
    have apart := (aliases_apart _ (TypesModule.mem_typeAliases aliased)).2
    exact iff_of_false (fun same => apart (same ▸ builtIn)) (not_not.2 builtIn)
  | false =>
    rw [dataTag_of_noAlias aliased]
    refine iff_of_true (TypesModule.declaredType_of_noAlias aliased) fun builtIn => ?_
    rw [hasAlias_of_mem_builtInTypes subType builtIn] at aliased
    cases aliased

end Schema

namespace TypesModule

open Schema

/-- What a property of the kind is declared as if its elements are of the named type. -/
def typeOfElements (kind : PropertyKind) (name : String) : String :=
  match kind with
  | .collection _ => "Array<" ++ name ++ ">"
  | _ => name

theorem typeOfElements_inj {kind : PropertyKind} {name other : String} :
    typeOfElements kind name = typeOfElements kind other ↔ name = other := by
  refine ⟨fun same => ?_, congrArg _⟩
  cases kind with
  | collection subType =>
    have lists := congrArg String.toList same
    simp only [typeOfElements, String.toList_append] at lists
    exact String.toList_injective (List.append_cancel_left (List.append_cancel_right lists))
  | _ => exact same

end TypesModule

namespace Literal

open Schema TypesModule Attempt

namespace DataModule

variable (options : DataModule) (registry : Registry) (sourceName : String)

/-- The text of a data module whose constant has that type and that literal. -/
def text (constantType literal : String) : String :=
  "// Auto-generated data context from Noesis data set: " ++ sourceName ++ "\n\n" ++
    "import \x7b " ++ ", ".intercalate (importedNames registry) ++ " \x7d from \"./" ++
    options.typesModule ++ "\";\n\n" ++
    "export const " ++ options.contextName ++ ": " ++ constantType ++ " = " ++ literal ++ ";\n"

/-- The constant is annotated with what the root's name is declared as. -/
theorem outcome_render {typeName : String} {found : Structure} (h : registry.lookup? typeName = some found)
    (tree : Tree) :
    (options.render registry sourceName typeName tree).outcome =
      ((Encoder.mk registry options.indent options.defaultFont).encode typeName tree).outcome.map
        (options.text registry sourceName (declaredType found.name)) := by
  have resolved : (registry.resolve typeName).mapError EncodeError.unknown = .ok found := by
    rw [Registry.resolve, h]
    rfl
  unfold render
  rw [resolved, outcome_bind_ok (outcome_ofExcept _), outcome_bind]
  cases ((Encoder.mk registry options.indent options.defaultFont).encode typeName tree).outcome <;> rfl

/-- **The declared type is the structure's own name exactly if the name has no alias.** In a registry that
comes from sources, an object or collection property is declared by the name of the structure that its
elements are encoded as, unless that is the name of a built-in type. The constant of a data module is
annotated with the name of the structure that the root is encoded as, unless that name has an alias. -/
theorem declared_as_own_name_iff {sources : List Source} {registry : Registry}
    (loaded : (load sources).outcome = .ok registry) :
    (∀ className properties, .classType className properties ∈ registry.structures →
      ∀ property kind subType found, (property, kind) ∈ properties.entries →
        kind = .object subType ∨ kind = .collection subType →
          registry.lookup? (dataTag subType) = some found →
            ((propertyType registry className property kind).value = typeOfElements kind found.name ↔
              found.name ∉ Registry.builtInTypes)) ∧
    ∀ (options : DataModule) sourceName typeName tree found, tree.isTextual = true →
      registry.lookup? typeName = some found →
        ∃ literal,
          ((Encoder.mk registry options.indent options.defaultFont).encode typeName tree).outcome =
            .ok literal ∧
          (options.render registry sourceName typeName tree).outcome =
            .ok (options.text registry sourceName (declaredType found.name) literal) ∧
          (declaredType found.name = found.name ↔ hasAlias found.name = false) := by
  have invariant := isLoaded_of_load loaded
  constructor
  · intro className properties mem property kind subType found held refersTo looked
    have refers : kind.reference? = some subType := by rcases refersTo with rfl | rfl <;> rfl
    have own : ownType kind = typeOfElements kind (declaredType subType) := by
      rcases refersTo with rfl | rfl <;> rfl
    have declares := (declares_iff_lookup? invariant mem held refers).1.2 (looked ▸ Option.some_ne_none found)
    have unqualified := unqualified_of_loaded invariant mem held refers
    rw [declares, Logged.pure_value, own, typeOfElements_inj]
    exact declaredType_eq_name_iff unqualified looked
  · intro options sourceName typeName tree found textual looked
    let encoder : Encoder := ⟨registry, options.indent, options.defaultFont⟩
    have known : encoder.registry.lookup? typeName ≠ none := looked ▸ Option.some_ne_none found
    obtain ⟨literal, ended⟩ := (encoder.value_settles textual known "").1
    refine ⟨literal, ended, ?_, declaredType_eq_self_iff⟩
    rw [outcome_render options registry sourceName looked]
    exact congrArg (Except.map _) ended

end DataModule

/-- The sources of a class under the name of a built-in type, and of one with a collection of it and a
property of itself. -/
def redefiningSources : List Source :=
  [⟨"string.xml", "Class", .element [("Name", .list [.text "String"])]⟩,
  ⟨"card.xml", "Class", .element [
    ("Name", .list [.text "Card"]),
    ("Property", .list [
      .element [("Name", .list [.text "Tags"]), ("Type", .list [.text "Collection"]),
        ("SubType", .list [.text "String"])],
      .element [("Name", .list [.text "Next"]), ("Type", .list [.text "Object"]),
        ("SubType", .list [.text "Card"])]])]⟩]

def redefiningRegistry : Registry :=
  (Registry.empty.seed.add (.classType "String" (Table.ofList []))).add
    (.classType "Card" (Table.ofList [("Tags", .collection "String"), ("Next", .object "Card")]))

/-- A class that redefines no built-in type is declared by its own name, as a property and as the root. -/
theorem declared_as_own_name_iff_card :
    (load redefiningSources).outcome = .ok redefiningRegistry ∧
      (propertyType redefiningRegistry "Card" "Next" (.object "Card")).value = "Card" ∧
      (propertyType redefiningRegistry "Card" "Tags" (.collection "String")).value ≠ "Array<String>" ∧
      ∃ literal, (DataModule.render {} redefiningRegistry "card.xaml" "Card" (.text "")).outcome =
        .ok (DataModule.text {} redefiningRegistry "card.xaml" "Card" literal) := by
  have loaded : (load redefiningSources).outcome = .ok redefiningRegistry := rfl
  obtain ⟨properties, roots⟩ := DataModule.declared_as_own_name_iff loaded
  have card : .classType "Card" (Table.ofList [("Tags", .collection "String"), ("Next", .object "Card")]) ∈
      redefiningRegistry.structures :=
    Registry.mem_structures_add.2 (.inl rfl)
  have next := properties _ _ card "Next" (.object "Card") "Card" _
    (List.mem_cons_of_mem _ List.mem_cons_self) (.inl rfl) rfl
  have tags := properties _ _ card "Tags" (.collection "String") "String" _ List.mem_cons_self (.inr rfl) rfl
  obtain ⟨literal, -, written, -⟩ := roots {} "card.xaml" "Card" (.text "") _ rfl rfl
  refine ⟨loaded, next.2 (by decide), fun same => tags.1 same (by decide), literal, written⟩

/-- A class of the name of a built-in type is found for the elements of a collection and for the root, but
both are declared as the alias of that name. -/
theorem declared_as_alias_string :
    (load redefiningSources).outcome = .ok redefiningRegistry ∧
      redefiningRegistry.lookup? (dataTag "String") = some (.classType "String" (Table.ofList [])) ∧
      (propertyType redefiningRegistry "Card" "Tags" (.collection "String")).value = "Array<string>" ∧
      (DataModule.render {} redefiningRegistry "s.xaml" "String" (.text "")).outcome =
        .ok (DataModule.text {} redefiningRegistry "s.xaml" "string" "\x7b\n\x7d") := by
  refine ⟨rfl, rfl, rfl, ?_⟩
  rw [DataModule.outcome_render _ _ _ rfl, Encoder.encode, Encoder.value_of_classType _ rfl,
    Encoder.entries_eq_mapM]
  rfl

end Literal

end ViewModel
