import ViewModel.Proofs.Literal.Pieces
import ViewModel.Proofs.Literal.Redefinition

/-!
# The type names of a data module

A data module writes type names in the annotation of its constant and in its placeholders. All of them are
keywords, names that it imports, or the two types of the preamble of the types module, which it imports only
if the schema declares a structure of the same name.

* `written_expressionOf`, `written_referenced`: what is written for a sub-type is an expression of names;
* `known_of_expressionOf`, `known_of_referenced`: these are keywords, imported names or a preamble type;
* `known_of_mem_writtenNames`: so are all the names that a module writes;
* `closed_iff_preamble_imported`: when a data module writes no name but keywords and those it imports.
-/

namespace ViewModel.Literal

open Schema TypesModule

/-- The types that are written: a name, a union of two, and the type of commands. -/
inductive TypeExpression
  | named (name : String)
  | union (first second : String)
  | command

namespace TypeExpression

def written : TypeExpression → String
  | named name => name
  | union first second => first ++ " | " ++ second
  | command => commandType

def names : TypeExpression → List String
  | named name => [name]
  | union first second => [first, second]
  | command => [unknownType]

def ofAlias (declared : String) : TypeExpression :=
  if declared = imageType then .union "string" "ImageSource"
  else if declared = brushType then .union "string" "Brush"
  else if declared = commandType then .command
  else .named declared

theorem written_ofAlias (declared : String) : (ofAlias declared).written = declared := by
  unfold ofAlias
  split
  · rename_i image
    exact image.symm
  split
  · rename_i brush
    exact brush.symm
  split
  · rename_i command
    exact command.symm
  · rfl

end TypeExpression

def expressionOf (subType : String) : TypeExpression :=
  match typeAliases.lookup subType with
  | some declared => .ofAlias declared
  | none => .named subType

def referenced (registry : Registry) (subType : String) : TypeExpression :=
  if (namedType? registry subType).isSome then expressionOf subType else .named unknownType

def keywordTypes : List String := ["string", "number", "boolean", unknownType]

def preambleType? : String → Option String
  | "ImageSource" | "BitmapImage" => some "ImageSource"
  | "Brush" | "SolidColorBrush" => some "Brush"
  | _ => none

/-- The type names that a data module writes: those of its constant's type, and those of its placeholders. -/
def writtenNames (registry : Registry) (root : Structure) (pieces : List Piece) : List String :=
  (expressionOf root.name).names ++
    (placeholders pieces).flatMap fun subType => (referenced registry subType).names

section

variable {registry : Registry} {subType name : String}

theorem written_expressionOf (subType : String) : (expressionOf subType).written = declaredType subType := by
  unfold expressionOf declaredType
  cases typeAliases.lookup subType with
  | none => rfl
  | some declared => exact TypeExpression.written_ofAlias declared

theorem written_referenced (registry : Registry) (subType : String) :
    (referenced registry subType).written = referencedType registry subType := by
  unfold referenced referencedType
  cases named : namedType? registry subType with
  | none => rfl
  | some type =>
    obtain ⟨resolved, -⟩ := Option.filter_eq_some_iff.1 named
    unfold resolvedType? at resolved
    split at resolved
    · cases resolved
      exact written_expressionOf subType
    · cases resolved

theorem expressionOf_of_alias (aliased : hasAlias subType = true) :
    expressionOf subType = .ofAlias (declaredType subType) := by
  unfold hasAlias at aliased
  obtain ⟨declared, looked⟩ := Option.isSome_iff_exists.1 aliased
  rw [expressionOf, declaredType, looked, Option.getD_some]

theorem expressionOf_of_noAlias (unaliased : hasAlias subType = false) :
    expressionOf subType = .named subType := by
  unfold hasAlias at unaliased
  rw [Option.isSome_eq_false_iff, Option.isNone_iff_eq_none] at unaliased
  rw [expressionOf, unaliased]

/-- An alias is of keywords and at most one type of the preamble. -/
theorem names_ofAlias : ∀ entry ∈ typeAliases, ∀ name ∈ (TypeExpression.ofAlias entry.2).names,
    name ∈ keywordTypes ∨ preambleType? entry.1 = some name := by
  decide

/-- What is declared is written with keywords, imported names and a type of the preamble. -/
theorem known_of_expressionOf (declared : hasAlias subType = true ∨ subType ∈ importedNames registry)
    (mem : name ∈ (expressionOf subType).names) :
    name ∈ keywordTypes ∨ name ∈ importedNames registry ∨ preambleType? subType = some name := by
  cases aliased : hasAlias subType with
  | true =>
    rw [expressionOf_of_alias aliased] at mem
    exact (names_ofAlias _ (mem_typeAliases aliased) name mem).imp_right .inr
  | false =>
    rw [expressionOf_of_noAlias aliased] at mem
    obtain rfl := List.mem_singleton.1 mem
    rcases declared with h | h
    · rw [aliased] at h; cases h
    · exact .inr (.inl h)

/-- A type of the preamble is no keyword, and is written for its sub-types whatever the registry holds. -/
theorem mem_names_of_preambleType? (registry : Registry) (h : preambleType? subType = some name) :
    name ∉ keywordTypes ∧ name ∈ (expressionOf subType).names ∧
      name ∈ (referenced registry subType).names := by
  have aliased : hasAlias subType = true := by
    unfold preambleType? at h
    split at h
    case h_5 => cases h
    all_goals rfl
  have referred : referenced registry subType = expressionOf subType := by
    have filled := declaredType_ne_empty aliased
    simp [referenced, namedType?, resolvedType?, aliased, filled]
  have written : ∀ entry ∈ typeAliases, ∀ name ∈ preambleType? entry.1,
      name ∉ keywordTypes ∧ name ∈ (TypeExpression.ofAlias entry.2).names := by decide
  obtain ⟨special, mem⟩ := written _ (mem_typeAliases aliased) name h
  rw [referred, expressionOf_of_alias aliased]
  exact ⟨special, mem, mem⟩

/-- A type of the preamble is written for its sub-types, in the constant's type and in placeholders. -/
theorem mem_writtenNames_of_preambleType? {root : Structure} {pieces : List Piece}
    (mem : subType ∈ root.name :: placeholders pieces) (h : preambleType? subType = some name) :
    name ∈ writtenNames registry root pieces := by
  obtain ⟨-, own, referred⟩ := mem_names_of_preambleType? registry h
  rcases List.mem_cons.1 mem with rfl | held
  · exact List.mem_append_left _ own
  · exact List.mem_append_right _ (List.mem_flatMap.2 ⟨subType, held, referred⟩)

variable (loaded : registry.IsLoaded)
include loaded

/-- A structure that is found is declared, or it is a built-in type, which has an alias. -/
theorem declared_of_mem {root : Structure} (mem : root ∈ registry.structures) :
    hasAlias root.name = true ∨ root.name ∈ importedNames registry := by
  cases root with
  | builtIn name => exact .inl (hasAlias_of_mem_builtInTypes name (loaded.builtIn name mem))
  | classType | enumType => exact .inr (List.mem_map_of_mem (List.mem_filter.2 ⟨mem, rfl⟩))

/-- What a class refers to is written with keywords, imported names and a type of the preamble. -/
theorem known_of_referenced (refers : Refers registry subType)
    (mem : name ∈ (referenced registry subType).names) :
    name ∈ keywordTypes ∨ name ∈ importedNames registry ∨ preambleType? subType = some name := by
  obtain ⟨found, held, reference⟩ := refers
  have resolves := namedType?_of_loaded loaded (loaded.unqualified found held subType reference)
  unfold referenced at mem
  split at mem
  · rename_i named
    rw [Option.isNone_eq_false_iff.2 named] at resolves
    rcases dangles_eq_false_iff.1 resolves.symm with aliased | ⟨declared, inside, rfl⟩
    · exact known_of_expressionOf (.inl aliased) mem
    · exact known_of_expressionOf (.inr (List.mem_map_of_mem inside)) mem
  · obtain rfl := List.mem_singleton.1 mem
    exact .inl (by decide)

/-- A module writes keywords, imported names and the preamble types of its root and its placeholders. -/
theorem known_of_mem_writtenNames {encoder : Encoder} (within : encoder.registry = registry)
    {root : Structure} (held : root ∈ registry.structures) {typeName indent : String} {tree : Tree}
    (mem : name ∈ writtenNames registry root (encoder.pieces typeName tree indent)) :
    name ∈ keywordTypes ∨ name ∈ importedNames registry ∨
      ∃ subType ∈ root.name :: placeholders (encoder.pieces typeName tree indent),
        preambleType? subType = some name := by
  rcases List.mem_append.1 mem with own | inner
  · rcases known_of_expressionOf (declared_of_mem loaded held) own with h | h | h
    · exact .inl h
    · exact .inr (.inl h)
    · exact .inr (.inr ⟨root.name, List.mem_cons_self, h⟩)
  · obtain ⟨subType, written, mem⟩ := List.mem_flatMap.1 inner
    have refers := within ▸ encoder.refers_of_placeholder typeName tree indent subType written
    rcases known_of_referenced loaded refers mem with h | h | h
    · exact .inl h
    · exact .inr (.inl h)
    · exact .inr (.inr ⟨subType, List.mem_cons_of_mem _ written, h⟩)

end

/-- **A data module is closed exactly if it imports the preamble types that it writes.** For every registry
that comes from sources, a textual tree of a known root has a module. The names in it are those of the
constant's type and those of the placeholders, at whatever depth they stand; each is a keyword, an imported
name, or the type of the preamble that is written for an image or a brush. So they all are keywords or imported
exactly if neither the root nor a placeholder is of a sub-type of images or brushes, unless the schema declares
a structure of the name of that type. -/
theorem closed_iff_preamble_imported {sources : List Source} {registry : Registry}
    (loaded : (load sources).outcome = .ok registry) (options : DataModule) (sourceName : String)
    {typeName : String} {root : Structure} (resolved : registry.lookup? typeName = some root) {tree : Tree}
    (textual : tree.isTextual = true) :
    let encoder := Encoder.mk registry options.indent options.defaultFont
    let pieces := encoder.pieces typeName tree ""
    (options.render registry sourceName typeName tree).outcome =
      .ok (options.text registry sourceName (expressionOf root.name).written (encoder.spelled pieces)) ∧
    (∀ subType,
      encoder.placeholder subType = "undefined as any as " ++ (referenced registry subType).written) ∧
    (∀ name ∈ writtenNames registry root pieces, name ∈ keywordTypes ∨ name ∈ importedNames registry ∨
      ∃ subType ∈ root.name :: placeholders pieces, preambleType? subType = some name) ∧
    ((∀ name ∈ writtenNames registry root pieces, name ∈ keywordTypes ∨ name ∈ importedNames registry) ↔
      ∀ subType ∈ root.name :: placeholders pieces, ∀ name, preambleType? subType = some name →
        name ∈ importedNames registry) := by
  intro encoder pieces
  have invariant := isLoaded_of_load loaded
  have held := Registry.mem_structures_of_lookup? resolved
  have resolves : encoder.registry.lookup? typeName ≠ none := resolved ▸ Option.some_ne_none root
  have written : (encoder.encode typeName tree).outcome = .ok (encoder.spelled pieces) :=
    encoder.outcome_value_eq_spelled textual resolves ""
  have known : ∀ name ∈ writtenNames registry root pieces, name ∈ keywordTypes ∨ name ∈ importedNames registry ∨
      ∃ subType ∈ root.name :: placeholders pieces, preambleType? subType = some name := by
    intro name mem
    exact known_of_mem_writtenNames invariant rfl held mem
  refine ⟨?_, ?_, known, ?_, ?_⟩
  · rw [DataModule.outcome_render options registry sourceName resolved, written, written_expressionOf]
    rfl
  · intro subType
    rw [written_referenced]
    rfl
  · intro closed subType mem name h
    obtain ⟨special, -, -⟩ := mem_names_of_preambleType? registry h
    exact (closed name (mem_writtenNames_of_preambleType? mem h)).resolve_left special
  · intro imported name mem
    rcases known name mem with h | h | ⟨subType, written, h⟩
    · exact .inl h
    · exact .inr h
    · exact .inr (imported subType written name h)

/-- The source of a class with an object that is a brush. -/
def fillSource : Source :=
  ⟨"card.xml", "Class", .element [
    ("Name", .list [.text "Card"]),
    ("Property", .list [.element [
      ("Name", .list [.text "Fill"]), ("Type", .list [.text "Object"]),
      ("SubType", .list [.text "SolidColorBrush"])]])]⟩

def fillRegistry : Registry :=
  Registry.empty.seed.add (.classType "Card" (Table.ofList [("Fill", .object "SolidColorBrush")]))

theorem load_fillSource : (load [fillSource]).outcome = .ok fillRegistry := rfl

def fillCard : Structure := .classType "Card" (Table.ofList [("Fill", .object "SolidColorBrush")])

/-- What is written for a card without data. -/
theorem pieces_card (encoder : Encoder) (h : encoder.registry = fillRegistry) :
    encoder.pieces "Card" (.text "") "" =
      framed "\x7b" "\x7d"
        [entryLine ("" ++ encoder.step ++ "Fill" ++ ": ") [.placeholder "SolidColorBrush"]] := by
  have card : encoder.registry.lookup? "Card" = some fillCard := by
    rw [h]
    rfl
  rw [Encoder.pieces, card]
  simp only [fillCard]
  rw [show (Table.ofList [("Fill", PropertyKind.object "SolidColorBrush")]).entries =
    [("Fill", .object "SolidColorBrush")] from rfl, List.map_singleton, Encoder.entryPieces_object]
  rfl

/-- The module of a colour is closed, and that of the card is not. -/
theorem closed_iff_preamble_imported_fill :
    (load [fillSource]).outcome = .ok fillRegistry ∧
      (∀ name ∈ writtenNames fillRegistry (.builtIn "Color")
        ((Encoder.mk fillRegistry 2 "Bangers").pieces "Color" (.text "Red") ""),
          name ∈ keywordTypes ∨ name ∈ importedNames fillRegistry) ∧
      ¬ ∀ name ∈ writtenNames fillRegistry fillCard
          ((Encoder.mk fillRegistry 2 "Bangers").pieces "Card" (.text "") ""),
        name ∈ keywordTypes ∨ name ∈ importedNames fillRegistry := by
  have colorFound : fillRegistry.lookup? "Color" = some (.builtIn "Color") := rfl
  have cardFound : fillRegistry.lookup? "Card" = some fillCard := rfl
  have red : (Tree.text "Red").isTextual = true := rfl
  have bare : (Tree.text "").isTextual = true := rfl
  obtain ⟨-, -, -, color⟩ :=
    closed_iff_preamble_imported load_fillSource {} "color.xaml" colorFound red
  obtain ⟨-, -, -, card⟩ :=
    closed_iff_preamble_imported load_fillSource {} "card.xaml" cardFound bare
  refine ⟨load_fillSource, color.2 ?_, fun closed => ?_⟩
  · intro subType mem name preamble
    rw [Encoder.pieces, colorFound] at mem
    obtain rfl := List.mem_singleton.1 mem
    cases preamble
  · have written : "SolidColorBrush" ∈ fillCard.name ::
        placeholders ((Encoder.mk fillRegistry 2 "Bangers").pieces "Card" (.text "") "") := by
      rw [pieces_card _ rfl]
      exact List.mem_cons_of_mem _ List.mem_cons_self
    have imported := card.1 closed "SolidColorBrush" written "Brush" rfl
    revert imported
    decide

/-- The module of the card names a brush, which is neither a keyword nor imported. -/
theorem brush_written_unimported :
    (load [fillSource]).outcome = .ok fillRegistry ∧
      (DataModule.render {} fillRegistry "card.xaml" "Card" (.text "")).outcome =
        .ok (DataModule.text {} fillRegistry "card.xaml" "Card"
          "\x7b\n  Fill: undefined as any as string | Brush,\n\x7d") ∧
      "Brush" ∉ keywordTypes ∧ "Brush" ∉ importedNames fillRegistry := by
  refine ⟨load_fillSource, ?_, by decide, by decide⟩
  have card : fillRegistry.lookup? "Card" = some fillCard := rfl
  let encoder : Encoder := ⟨fillRegistry, 2, "Bangers"⟩
  have written : (encoder.value "Card" (.text "") "").outcome =
      .ok (encoder.spelled (encoder.pieces "Card" (.text "") "")) :=
    encoder.outcome_value_eq_spelled rfl (card ▸ Option.some_ne_none fillCard) ""
  rw [DataModule.outcome_render _ _ _ card, Encoder.encode, written, pieces_card _ rfl]
  rfl

end ViewModel.Literal
