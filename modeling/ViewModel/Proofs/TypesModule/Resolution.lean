import Mathlib.Data.List.Basic
import ViewModel.Proofs.Schema.Loaded
import ViewModel.TypesModule

/-!
# The types that a types module refers to

In the module of a loaded registry a property is declared as what its kind asks for, or as unknown if the
type that it refers to is neither an alias nor declared. Each of these is logged once, in order.

* `unresolved?_of_loaded`: which references stay unresolved in a loaded registry;
* `value_render`, `records_render`: the lines of the module, and its warnings;
* `known_of_loaded`: every type that is written is known in the module;
* `render_of_load`: all of it, for every registry that comes from sources.
-/

namespace ViewModel.TypesModule

open Schema

/-- The name is neither an alias nor that of a class or enum of the registry. -/
def dangles (registry : Registry) (subType : String) : Bool :=
  !hasAlias subType && registry.declarations.all (·.name != subType)

/-- The type that a property refers to, if it dangles. -/
def dangling? (registry : Registry) (kind : PropertyKind) : Option String :=
  kind.reference?.filter (dangles registry)

/-- What a property is written as: the fallback in place of the kind's own type if its reference dangles. -/
def writtenType (registry : Registry) (kind : PropertyKind) : String :=
  if (dangling? registry kind).isSome then fallbackType kind else ownType kind

def propertyLine (registry : Registry) (indent : String) (property : String × PropertyKind) : String :=
  indent ++ property.1 ++ ": " ++ writtenType registry property.2 ++ ";"

/-- The line that opens the declaration of a structure. -/
def opening : Structure → String
  | .classType name _ => "export type " ++ name ++ " = \x7b"
  | .enumType name _ => "export enum " ++ name ++ " \x7b"
  | .builtIn _ => ""

/-- The lines of a structure's declaration. -/
def block (registry : Registry) (indent : String) : Structure → List String
  | .classType name properties =>
    ["// Definition for structure " ++ name, opening (.classType name properties)] ++
      properties.entries.map (propertyLine registry indent) ++ ["\x7d", ""]
  | .enumType name items =>
    ["// Definition for enum " ++ name, opening (.enumType name items)] ++
      items.names.map (fun item => indent ++ "\"" ++ item ++ "\" = \"" ++ item ++ "\",") ++ ["\x7d", ""]
  | .builtIn _ => []

def moduleLines (registry : Registry) (options : Options) : List String :=
  preamble options.imageModule ++ registry.declarations.flatMap (block registry (spaces options.indent))

/-- The warning of a property whose reference dangles. -/
def danglingWarning (className property subType : String) : Record :=
  ⟨.warning, logger, "Unresolved type " ++ subType ++ " for property " ++ property ++ " of structure " ++
    className ++ "; declared as " ++ unknownType⟩

/-- One warning for each property of a class whose reference dangles, in order. -/
def danglingWarnings (registry : Registry) : Structure → List Record
  | .classType name properties => properties.entries.filterMap fun property =>
    (dangling? registry property.2).map (danglingWarning name property.1)
  | _ => []

/-- The types that need no list around them in a module of these lines: those of the language and the
preamble, and those that a line of the module opens the declaration of. -/
inductive IsPlainType (lines : List String) : String → Prop
  | string : IsPlainType lines "string"
  | number : IsPlainType lines "number"
  | boolean : IsPlainType lines "boolean"
  | command : IsPlainType lines commandType
  | image : IsPlainType lines imageType
  | brush : IsPlainType lines brushType
  | unknown : IsPlainType lines unknownType
  | declared {found : Structure} : found.isDeclared = true → opening found ∈ lines →
      IsPlainType lines found.name

/-- The types that are known in a module of these lines. -/
inductive IsKnownType (lines : List String) : String → Prop
  | plain {type : String} : IsPlainType lines type → IsKnownType lines type
  | array {type : String} : IsPlainType lines type → IsKnownType lines ("Array<" ++ type ++ ">")

section

variable {subType : String}

theorem mem_typeAliases (h : hasAlias subType = true) : (subType, declaredType subType) ∈ typeAliases := by
  unfold hasAlias at h
  obtain ⟨declared, found⟩ := Option.isSome_iff_exists.1 h
  obtain ⟨before, after, split, -⟩ := List.lookup_eq_some_iff.1 found
  rw [declaredType, found, Option.getD_some, split]
  exact List.mem_append_right _ List.mem_cons_self

theorem declaredType_ne_empty (h : hasAlias subType = true) : declaredType subType ≠ "" := by
  have filled : ∀ entry ∈ typeAliases, entry.2 ≠ "" := by decide
  exact filled _ (mem_typeAliases h)

/-- An alias stands for a type of the language or of the preamble. -/
theorem plain_of_alias (h : hasAlias subType = true) (lines : List String) :
    IsPlainType lines (declaredType subType) := by
  have mem := mem_typeAliases h
  simp only [typeAliases, List.mem_cons, List.not_mem_nil, or_false, Prod.mk.injEq] at mem
  rcases mem with ⟨-, h⟩ | ⟨-, h⟩ | ⟨-, h⟩ | ⟨-, h⟩ | ⟨-, h⟩ | ⟨-, h⟩ | ⟨-, h⟩ | ⟨-, h⟩ | ⟨-, h⟩ | ⟨-, h⟩ |
    ⟨-, h⟩
  all_goals rw [h]
  all_goals constructor

theorem declaredType_of_noAlias (h : hasAlias subType = false) : declaredType subType = subType := by
  unfold hasAlias at h
  rw [declaredType, Option.isSome_eq_false_iff.1 h |> Option.isNone_iff_eq_none.1, Option.getD_none]

theorem finalSegment_of_unqualified (h : '.' ∉ subType.toList) : finalSegment subType = subType := by
  rw [finalSegment, Text.lastSegment, Text.afterLast_of_not_mem h, String.ofList_toList]

end

section

variable {registry : Registry} {subType : String}

/-- An unqualified name looks up a declared structure if there is one of the name. -/
theorem declares_iff (unqualified : '.' ∉ subType.toList) :
    ((registry.lookup? subType).map Structure.isDeclared).getD false = true ↔
      ∃ found ∈ registry.declarations, found.name = subType := by
  constructor
  · intro h
    cases looked : registry.lookup? subType with
    | none => rw [looked] at h; cases h
    | some found =>
      rw [looked] at h
      obtain ⟨mem, named⟩ := Registry.lookup?_eq_some_iff.1 looked
      exact ⟨found, List.mem_filter.2 ⟨mem, h⟩, named.trans (finalSegment_of_unqualified unqualified)⟩
  · rintro ⟨found, mem, rfl⟩
    obtain ⟨mem, declared⟩ := List.mem_filter.1 mem
    have looked := Registry.lookup?_eq_some_iff.2 ⟨mem, (finalSegment_of_unqualified unqualified).symm⟩
    rw [looked]
    exact declared

theorem writtenType_of_reference {kind : PropertyKind} (refers : kind.reference? = some subType) :
    writtenType registry kind = if dangles registry subType then fallbackType kind else ownType kind := by
  unfold writtenType dangling?
  rw [refers]
  cases dangling : dangles registry subType <;> simp [Option.filter, dangling]

theorem dangles_eq_false_iff :
    dangles registry subType = false ↔
      hasAlias subType = true ∨ ∃ found ∈ registry.declarations, found.name = subType := by
  simp [dangles, or_iff_not_imp_left]

variable (loaded : registry.IsLoaded)
include loaded

/-- In a loaded registry a name has a declared type unless it dangles. -/
theorem namedType?_of_loaded (unqualified : '.' ∉ subType.toList) :
    (namedType? registry subType).isNone = dangles registry subType := by
  -- No alias and no declared name is empty, so leaving out the empty name takes nothing away.
  unfold namedType? resolvedType?
  cases aliased : hasAlias subType with
  | true =>
    have filled := declaredType_ne_empty aliased
    simp [dangles, aliased, filled]
  | false =>
    rw [declaredType_of_noAlias aliased, Bool.false_or]
    by_cases declares : ∃ found ∈ registry.declarations, found.name = subType
    · rw [if_pos ((declares_iff unqualified).2 declares), dangles_eq_false_iff.2 (.inr declares)]
      obtain ⟨found, mem, rfl⟩ := declares
      have filled := loaded.named found (List.mem_filter.1 mem).1
      simp [filled]
    · rw [if_neg fun h => declares ((declares_iff unqualified).1 h)]
      have dangling : dangles registry subType ≠ false := by
        intro h
        rcases dangles_eq_false_iff.1 h with h | h
        · rw [aliased] at h; cases h
        · exact declares h
      rw [Bool.ne_false_iff.1 dangling]
      rfl

section

variable {className : String} {properties : Table PropertyKind}
  (mem : .classType className properties ∈ registry.structures) {property : String} {kind : PropertyKind}
  (held : (property, kind) ∈ properties.entries)
include mem held

theorem unqualified_of_loaded (refers : kind.reference? = some subType) : '.' ∉ subType.toList :=
  loaded.unqualified _ mem subType (List.mem_filterMap.2 ⟨_, held, refers⟩)

/-- The references that a property of a loaded class leaves unresolved are the dangling ones. -/
theorem unresolved?_of_loaded : unresolved? registry kind = dangling? registry kind := by
  unfold unresolved? dangling?
  cases refers : kind.reference? with
  | none => rfl
  | some subType =>
    have same := namedType?_of_loaded loaded (unqualified_of_loaded loaded mem held refers)
    simp only [Option.filter, same]

theorem value_propertyType :
    (propertyType registry className property kind).value = writtenType registry kind := by
  unfold propertyType writtenType
  rw [unresolved?_of_loaded loaded mem held]
  cases dangling? registry kind <;> rfl

theorem records_propertyType :
    (propertyType registry className property kind).records =
      ((dangling? registry kind).map (danglingWarning className property)).toList := by
  unfold propertyType
  rw [unresolved?_of_loaded loaded mem held]
  cases dangling? registry kind <;> rfl

end

theorem value_declaration {found : Structure} (mem : found ∈ registry.structures) (indent : String) :
    (declaration registry indent found).value = block registry indent found := by
  cases found with
  | classType name properties =>
    unfold declaration
    rw [Logged.bind_value, Logged.pure_value, Logged.value_mapM]
    refine congrArg (["// Definition for structure " ++ name, opening (.classType name properties)] ++ · ++
      ["\x7d", ""]) (List.map_congr_left ?_)
    intro property held
    exact congrArg (indent ++ property.1 ++ ": " ++ · ++ ";") (value_propertyType loaded mem held)
  | enumType => rfl
  | builtIn => rfl

theorem records_declaration {found : Structure} (mem : found ∈ registry.structures) (indent : String) :
    (declaration registry indent found).records = danglingWarnings registry found := by
  cases found with
  | classType name properties =>
    unfold declaration danglingWarnings
    rw [Logged.bind_records, Logged.pure_records, List.append_nil, Logged.records_mapM]
    dsimp only
    rw [List.filterMap_eq_flatMap_toList]
    refine List.flatMap_congr fun property held => ?_
    rw [Logged.bind_records, Logged.pure_records, List.append_nil]
    exact records_propertyType loaded mem held
  | enumType => rfl
  | builtIn => rfl

/-- The text of the module, line by line. -/
theorem value_render (options : Options) :
    (render registry options).value = "\n".intercalate (moduleLines registry options) ++ "\n" := by
  have blocks : (registry.declarations.mapM fun (entry : Structure) => do
      Logged.record .debug logger ("- " ++ entry.name)
      declaration registry (spaces options.indent) entry).value =
        registry.declarations.map (block registry (spaces options.indent)) := by
    rw [Logged.value_mapM]
    refine List.map_congr_left fun found mem => ?_
    rw [Logged.bind_value]
    exact value_declaration loaded (List.mem_filter.1 mem).1 _
  unfold render
  rw [Logged.bind_value, Logged.pure_value, blocks, moduleLines, List.flatMap_def]

theorem records_render (options : Options) :
    (render registry options).records = registry.declarations.flatMap fun found =>
      ⟨.debug, logger, "- " ++ found.name⟩ :: danglingWarnings registry found := by
  unfold render
  rw [Logged.bind_records, Logged.pure_records, List.append_nil, Logged.records_mapM]
  refine List.flatMap_congr fun found mem => ?_
  rw [Logged.bind_records, records_declaration loaded (List.mem_filter.1 mem).1]
  rfl

omit loaded in
theorem level_of_mem_danglingWarnings {found : Structure} {warning : Record}
    (h : warning ∈ danglingWarnings registry found) : warning.level = .warning := by
  cases found with
  | classType name properties =>
    obtain ⟨property, -, made⟩ := List.mem_filterMap.1 h
    obtain ⟨subType, -, rfl⟩ := Option.map_eq_some_iff.1 made
    rfl
  | _ => cases h

/-- The warnings are those of the dangling references. -/
theorem warnings_render (options : Options) :
    (render registry options).records.filter (·.level == .warning) =
      registry.declarations.flatMap (danglingWarnings registry) := by
  rw [records_render loaded, List.filter_flatMap]
  refine List.flatMap_congr fun found _ => ?_
  rw [List.filter_cons_of_neg Bool.false_ne_true, List.filter_eq_self]
  intro warning mem
  rw [level_of_mem_danglingWarnings mem]
  rfl

omit loaded in
theorem opening_mem_moduleLines {found : Structure} (mem : found ∈ registry.declarations) (options : Options) :
    opening found ∈ moduleLines registry options := by
  have inside : opening found ∈ block registry (spaces options.indent) found := by
    cases found with
    | classType => simp [block]
    | enumType => simp [block]
    | builtIn => cases (List.mem_filter.1 mem).2
  exact List.mem_append_right _ (List.mem_flatMap.2 ⟨found, mem, inside⟩)

omit loaded in
theorem plain_of_declared {found : Structure} (mem : found ∈ registry.declarations) (options : Options) :
    IsPlainType (moduleLines registry options) found.name :=
  .declared (List.mem_filter.1 mem).2 (opening_mem_moduleLines mem options)

omit loaded in
/-- A name that does not dangle is declared as a known type. -/
theorem plain_of_not_dangles (h : dangles registry subType = false) (options : Options) :
    IsPlainType (moduleLines registry options) (declaredType subType) := by
  cases aliased : hasAlias subType with
  | true => exact plain_of_alias aliased _
  | false =>
    rcases dangles_eq_false_iff.1 h with h | ⟨found, mem, rfl⟩
    · rw [aliased] at h; cases h
    · rw [declaredType_of_noAlias aliased]
      exact plain_of_declared mem options

/-- The enum of the fonts is always declared. -/
theorem plain_fontEnum (options : Options) : IsPlainType (moduleLines registry options) fontEnum := by
  have seeded : Registry.enumOf fontEnum ["Anton", "Bangers", "Oswald", "Roboto", "Roboto-Mono"] ∈
      Registry.builtIns :=
    List.mem_append_right _ (List.mem_map.2 ⟨(fontEnum, _), by decide, rfl⟩)
  obtain ⟨found, mem, named, declared⟩ := loaded.seeded _ seeded
  have plain := plain_of_declared (List.mem_filter.2 ⟨mem, declared rfl⟩) options
  rw [named] at plain
  exact plain

/-- Every property of a loaded registry is written as a known type. -/
theorem known_of_loaded (kind : PropertyKind) (options : Options) :
    IsKnownType (moduleLines registry options) (writtenType registry kind) := by
  cases kind with
  | boolean => exact .plain .boolean
  | command => exact .plain .command
  | brush => exact .plain .brush
  | font => exact .plain (plain_fontEnum loaded options)
  | string => exact .plain .string
  | number => exact .plain .number
  | image => exact .plain .image
  | object subType | enum subType =>
    rw [writtenType_of_reference rfl]
    cases dangling : dangles registry subType with
    | true => exact .plain .unknown
    | false => exact .plain (plain_of_not_dangles dangling options)
  | collection subType =>
    rw [writtenType_of_reference rfl]
    cases dangling : dangles registry subType with
    | true => exact .array .unknown
    | false => exact .array (plain_of_not_dangles dangling options)

end

/-- **The types module refers to no undeclared type.** For every registry that comes from sources, the module
has a line for each property of each class, which declares it as a known type: as the fallback if the type
that the property refers to dangles, and as what its kind asks for otherwise. There is one warning for each
property of a dangling type, in order, and no other. -/
theorem render_of_load {sources : List Source} {registry : Registry}
    (loaded : (load sources).outcome = .ok registry) (options : Options) :
    (render registry options).value = "\n".intercalate (moduleLines registry options) ++ "\n" ∧
      (∀ className properties, .classType className properties ∈ registry.structures →
        block registry (spaces options.indent) (.classType className properties) <:+:
            moduleLines registry options ∧
          ∀ property ∈ properties.entries,
            IsKnownType (moduleLines registry options) (writtenType registry property.2)) ∧
      (render registry options).records.filter (·.level == .warning) =
        registry.declarations.flatMap (danglingWarnings registry) := by
  have invariant := isLoaded_of_load loaded
  refine ⟨value_render invariant options, ?_, warnings_render invariant options⟩
  intro className properties mem
  refine ⟨?_, fun property _ => known_of_loaded invariant property.2 options⟩
  have declared : .classType className properties ∈ registry.declarations := List.mem_filter.2 ⟨mem, rfl⟩
  obtain ⟨before, after, split⟩ := List.append_of_mem declared
  rw [moduleLines, split, List.flatMap_append, List.flatMap_cons]
  refine ⟨preamble options.imageModule ++ before.flatMap (block registry (spaces options.indent)),
    after.flatMap (block registry (spaces options.indent)), ?_⟩
  simp only [List.append_assoc]

/-- The source of a class with a property of a type that there is none of, one of its own type, and one of a
font. -/
def lossySource : Source :=
  ⟨"card.xml", "Class", .element [
    ("Name", .list [.text "Card"]),
    ("Property", .list [
      .element [("Name", .list [.text "Lost"]), ("Type", .list [.text "Collection"]),
        ("SubType", .list [.text "Missing"])],
      .element [("Name", .list [.text "Next"]), ("Type", .list [.text "Object"]),
        ("SubType", .list [.text "Deck.Card"])],
      .element [("Name", .list [.text "Face"]), ("Type", .list [.text "Object"]),
        ("SubType", .list [.text "FontFamily"])]])]⟩

def lossyRegistry : Registry :=
  Registry.empty.seed.add (.classType "Card" (Table.ofList
    [("Lost", .collection "Missing"), ("Next", .object "Card"), ("Face", .font)]))

/-- The module of that registry warns of the lost property alone, and knows the types of all. -/
theorem render_of_load_lossySource :
    (load [lossySource]).outcome = .ok lossyRegistry ∧
      (render lossyRegistry {}).records.filter (·.level == .warning) =
        [danglingWarning "Card" "Lost" "Missing"] ∧
      IsKnownType (moduleLines lossyRegistry {}) (writtenType lossyRegistry (.collection "Missing")) := by
  have loaded : (load [lossySource]).outcome = .ok lossyRegistry := rfl
  obtain ⟨-, known, warned⟩ := render_of_load loaded {}
  have card : .classType "Card" (Table.ofList
      [("Lost", .collection "Missing"), ("Next", .object "Card"), ("Face", .font)]) ∈
        lossyRegistry.structures :=
    Registry.mem_structures_add.2 (.inl rfl)
  obtain ⟨-, types⟩ := known _ _ card
  exact ⟨loaded, warned, types ("Lost", .collection "Missing") List.mem_cons_self⟩

end ViewModel.TypesModule
