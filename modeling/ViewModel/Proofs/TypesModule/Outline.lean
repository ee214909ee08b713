import ViewModel.Proofs.Literal.Layout
import ViewModel.Proofs.Literal.Lookup
import ViewModel.Proofs.Literal.Redefinition
import ViewModel.Proofs.Literal.Totality

/-!
# What a types module tells of its schema

The text of a types module determines what it declares: the classes with the names and types of their
properties, and the enums with their members, all in order. A declaration ends at the first line of a single
brace, its first line tells its kind and its name, and a property's name ends at the first colon.

* `value_render_outlines`: the module is the lines of its outlines;
* `Outline.propertyLine_inj`, `Outline.memberLine_inj`: the lines of properties and members;
* `Outline.lines_inj`, `flatMap_lines_inj`: the lines of a declaration tell it and where it ends;
* `module_tells_outlines`: all of it, with the names that data modules import.
-/

namespace ViewModel

open Schema

theorem map_eq_map_of_injOn {f : α → β} {items others : List α}
    (inj : ∀ item ∈ items, ∀ other ∈ others, f item = f other → item = other)
    (same : items.map f = others.map f) : items = others := by
  induction items generalizing others with
  | nil =>
    cases others with
    | nil => rfl
    | cons other rest => cases same
  | cons item rest ih =>
    cases others with
    | nil => cases same
    | cons other rest' =>
      rw [List.map_cons, List.map_cons, List.cons.injEq] at same
      have first := inj item List.mem_cons_self other List.mem_cons_self same.1
      have later := ih (fun a mem b mem' => inj a (List.mem_cons_of_mem _ mem) b (List.mem_cons_of_mem _ mem'))
        same.2
      rw [first, later]

namespace TypesModule

/-- What a module declares: a class with the names and types of its properties, or an enum with its members. -/
inductive Outline
  | classType (name : String) (properties : List (String × String))
  | enumType (name : String) (members : List String)
  deriving DecidableEq, Repr

namespace Outline

def name : Outline → String
  | classType name _ | enumType name _ => name

def propertyLine (indent : String) (property : String × String) : String :=
  indent ++ property.1 ++ ": " ++ property.2 ++ ";"

def memberLine (indent member : String) : String :=
  indent ++ "\"" ++ member ++ "\" = \"" ++ member ++ "\","

def comment : Outline → String
  | classType name _ => "// Definition for structure " ++ name
  | enumType name _ => "// Definition for enum " ++ name

def opening : Outline → String
  | classType name _ => "export type " ++ name ++ " = \x7b"
  | enumType name _ => "export enum " ++ name ++ " \x7b"

def body (indent : String) : Outline → List String
  | classType _ properties => properties.map (propertyLine indent)
  | enumType _ members => members.map (memberLine indent)

def lines (indent : String) (outline : Outline) : List String :=
  [outline.comment, outline.opening] ++ outline.body indent ++ ["\x7d", ""]

end Outline

/-- What the module of the registry declares of a structure. -/
def outline? (registry : Registry) : Structure → Option Outline
  | .classType name properties => some (.classType name (properties.entries.map fun property =>
    (property.1, (propertyType registry name property.1 property.2).value)))
  | .enumType name items => some (.enumType name items.names)
  | .builtIn _ => none

/-- What the module of the registry declares, in order. -/
def outlines (registry : Registry) : List Outline := registry.declarations.filterMap (outline? registry)

section

variable {registry : Registry} {found : Structure}

theorem value_declaration_outline (registry : Registry) (indent : String) (found : Structure) :
    (declaration registry indent found).value =
      (outline? registry found).toList.flatMap (Outline.lines indent) := by
  cases found with
  | classType name properties =>
    unfold declaration
    rw [Logged.bind_value, Logged.pure_value, Logged.value_mapM, outline?, Option.toList_some,
      List.flatMap_singleton, Outline.lines, Outline.body, List.map_map]
    rfl
  | enumType name items =>
    rw [outline?, Option.toList_some, List.flatMap_singleton]
    rfl
  | builtIn => rfl

/-- The module is the lines of its outlines, one after the other. -/
theorem value_render_outlines (registry : Registry) (options : Options) :
    (render registry options).value = "\n".intercalate
      (preamble options.imageModule ++ (outlines registry).flatMap (Outline.lines (spaces options.indent))) ++
        "\n" := by
  rw [value_render_blocks, blocks, outlines, List.flatMap_map, List.filterMap_eq_flatMap_toList,
    List.flatMap_assoc]
  simp only [value_declaration_outline]

/-- The outlines have the names that data modules import. -/
theorem map_name_outlines (registry : Registry) :
    (outlines registry).map Outline.name = Literal.importedNames registry := by
  unfold outlines Literal.importedNames
  have named : ∀ found ∈ registry.declarations,
      (outline? registry found).map Outline.name = some found.name := by
    intro found mem
    cases found with
    | classType => rfl
    | enumType => rfl
    | builtIn => cases (List.mem_filter.1 mem).2
  rw [List.map_filterMap, List.filterMap_congr named, List.filterMap_eq_map']

end

theorem not_mem_append {c : Char} {first second : String} :
    c ∉ (first ++ second).toList ↔ c ∉ first.toList ∧ c ∉ second.toList := by
  rw [String.toList_append, List.mem_append, not_or]

theorem unbroken_of_isIdentifier {text : String} (h : Text.isIdentifier text = true) : '\n' ∉ text.toList :=
  Literal.not_mem_of_isIdentifier h (by decide) (by decide) (by decide)

namespace Outline

variable {indent : String} {outline outline' : Outline} {rest rest' : List String}

/-- The declaration can be read back from its lines: its name and those of its properties are identifiers, and
no type or member has a line break. -/
def IsReadable : Outline → Prop
  | classType name properties => Text.isIdentifier name = true ∧
      ∀ property ∈ properties, Text.isIdentifier property.1 = true ∧ '\n' ∉ property.2.toList
  | enumType name members => Text.isIdentifier name = true ∧ ∀ member ∈ members, '\n' ∉ member.toList

theorem propertyLine_inj {property property' : String × String} (named : Text.isIdentifier property.1 = true)
    (named' : Text.isIdentifier property'.1 = true)
    (same : propertyLine indent property = propertyLine indent property') : property = property' := by
  have absent := Literal.not_mem_of_isIdentifier (c := ':') named (by decide) (by decide) (by decide)
  have absent' := Literal.not_mem_of_isIdentifier (c := ':') named' (by decide) (by decide) (by decide)
  have chars := congrArg String.toList same
  simp only [propertyLine, String.toList_append, List.append_assoc] at chars
  obtain ⟨name, typed⟩ := cut_of_append_eq absent absent' (List.append_cancel_left chars)
  have type := (List.append_left_inj _).1 ((List.append_right_inj [' ']).1 typed)
  exact Prod.ext (String.toList_injective name) (String.toList_injective type)

/-- A member stands twice in its line, so the length of the line tells its own. -/
theorem memberLine_inj {member member' : String} (same : memberLine indent member = memberLine indent member') :
    member = member' := by
  have chars := congrArg String.toList same
  simp only [memberLine, String.toList_append, List.append_assoc] at chars
  have inner := List.append_cancel_left (List.append_cancel_left chars)
  have lengths := congrArg List.length inner
  simp only [List.length_append] at lengths
  have long : member.toList.length = member'.toList.length := by omega
  exact String.toList_injective (List.append_inj inner long).1

theorem brace_not_mem_body : "\x7d" ∉ outline.body indent := by
  intro mem
  -- A line of the body has a mark in it that is no brace.
  have other : ∀ mark, mark ≠ '\x7d' → ∀ line : String, mark ∈ line.toList → line ≠ "\x7d" := by
    rintro mark apart line inside rfl
    exact apart (List.mem_singleton.1 inside)
  cases outline with
  | classType name properties =>
    obtain ⟨property, -, line⟩ := List.mem_map.1 mem
    refine other ':' (by decide) _ ?_ line
    simp [propertyLine]
  | enumType name members =>
    obtain ⟨member, -, line⟩ := List.mem_map.1 mem
    refine other ',' (by decide) _ ?_ line
    simp [memberLine]

/-- The comments of declarations of different kinds differ. -/
theorem comment_ne (name name' : String) :
    "// Definition for structure " ++ name ≠ "// Definition for enum " ++ name' := by
  intro same
  have chars := congrArg String.toList same
  simp only [String.toList_append] at chars
  have mark := congrArg (·[18]?) chars
  simp at mark

/-- The lines of a declaration tell it, and where it ends. -/
theorem lines_inj (readable : outline.IsReadable) (readable' : outline'.IsReadable)
    (same : outline.lines indent ++ rest = outline'.lines indent ++ rest') :
    outline = outline' ∧ rest = rest' := by
  simp only [lines, List.cons_append, List.nil_append, List.append_assoc, List.cons.injEq] at same
  obtain ⟨commented, -, bodies⟩ := same
  obtain ⟨body, ended⟩ := cut_of_append_eq brace_not_mem_body brace_not_mem_body bodies
  refine ⟨?_, (List.cons.inj ended).2⟩
  cases outline with
  | classType name properties =>
    cases outline' with
    | classType name' properties' =>
      have named : name = name' := (String.append_right_inj _).1 commented
      have listed : properties = properties' := by
        apply map_eq_map_of_injOn _ body
        intro property mem property' mem'
        exact propertyLine_inj (readable.2 property mem).1 (readable'.2 property' mem').1
      rw [named, listed]
    | enumType name' members' => exact absurd commented (comment_ne name name')
  | enumType name members =>
    cases outline' with
    | classType name' properties' => exact absurd commented.symm (comment_ne name' name)
    | enumType name' members' =>
      have named : name = name' := (String.append_right_inj _).1 commented
      have listed : members = members' := map_eq_map_of_injOn (fun _ _ _ _ => memberLine_inj) body
      rw [named, listed]

/-- The lines of declarations tell them, one after the other. -/
theorem flatMap_lines_inj {declared declared' : List Outline}
    (readable : ∀ outline ∈ declared, outline.IsReadable) (readable' : ∀ outline ∈ declared', outline.IsReadable)
    (same : declared.flatMap (lines indent) = declared'.flatMap (lines indent)) : declared = declared' := by
  induction declared generalizing declared' with
  | nil =>
    cases declared' with
    | nil => rfl
    | cons outline' rest' => cases same
  | cons outline rest ih =>
    cases declared' with
    | nil => cases same
    | cons outline' rest' =>
      obtain ⟨here, there⟩ := List.forall_mem_cons.1 readable
      obtain ⟨here', there'⟩ := List.forall_mem_cons.1 readable'
      rw [List.flatMap_cons, List.flatMap_cons] at same
      obtain ⟨rfl, later⟩ := lines_inj here here' same
      rw [ih there there' later]

/-- The lines of a readable declaration have no break in them. -/
theorem unbroken_lines (readable : outline.IsReadable) (width : Nat) :
    ∀ line ∈ outline.lines (spaces width), '\n' ∉ line.toList := by
  have indented : '\n' ∉ (spaces width).toList := by
    intro mem
    rw [spaces, String.toList_ofList] at mem
    cases List.eq_of_mem_replicate mem
  have headed : '\n' ∉ outline.comment.toList ∧ '\n' ∉ outline.opening.toList := by
    cases outline with
    | classType name properties =>
      have named := unbroken_of_isIdentifier readable.1
      refine ⟨not_mem_append.2 ⟨by decide, named⟩, ?_⟩
      exact not_mem_append.2 ⟨not_mem_append.2 ⟨by decide, named⟩, by decide⟩
    | enumType name members =>
      have named := unbroken_of_isIdentifier readable.1
      refine ⟨not_mem_append.2 ⟨by decide, named⟩, ?_⟩
      exact not_mem_append.2 ⟨not_mem_append.2 ⟨by decide, named⟩, by decide⟩
  have inner : ∀ line ∈ outline.body (spaces width), '\n' ∉ line.toList := by
    intro line mem
    cases outline with
    | classType name properties =>
      obtain ⟨property, inside, rfl⟩ := List.mem_map.1 mem
      obtain ⟨identified, typed⟩ := readable.2 property inside
      have named := unbroken_of_isIdentifier identified
      simp [propertyLine, indented, named, typed]
    | enumType name members =>
      obtain ⟨member, inside, rfl⟩ := List.mem_map.1 mem
      have unbroken := readable.2 member inside
      simp [memberLine, indented, unbroken]
  intro line mem
  simp only [lines, List.mem_append, List.mem_cons, List.not_mem_nil, or_false] at mem
  rcases mem with ((same | same) | inside) | same | same
  · exact same ▸ headed.1
  · exact same ▸ headed.2
  · exact inner line inside
  · rw [same]
    decide
  · rw [same]
    decide

end Outline

/-- The structure's name and those of its properties are identifiers, and no member has a line break. -/
def isLegible : Structure → Bool
  | .classType name properties => Text.isIdentifier name && properties.names.all Text.isIdentifier
  | .enumType name items =>
    Text.isIdentifier name && items.names.all fun member => !member.toList.contains '\n'
  | .builtIn _ => true

/-- Everything that is declared is legible. -/
def Legible (registry : Registry) : Prop := ∀ found ∈ registry.declarations, isLegible found = true

section

variable {registry : Registry} (legible : Legible registry)
include legible

theorem isIdentifier_of_legible {found : Structure} (mem : found ∈ registry.declarations) :
    Text.isIdentifier found.name = true := by
  have readable := legible found mem
  cases found with
  | classType => exact (Bool.and_eq_true_iff.1 readable).1
  | enumType => exact (Bool.and_eq_true_iff.1 readable).1
  | builtIn => cases (List.mem_filter.1 mem).2

/-- What is written for a property has no line break: it is a fixed type or built of a declared name. -/
theorem unbroken_writtenType (kind : PropertyKind) : '\n' ∉ (writtenType registry kind).toList := by
  have declared {subType : String} (h : dangles registry subType = false) :
      '\n' ∉ (declaredType subType).toList := by
    cases aliased : hasAlias subType with
    | true =>
      have unbroken : ∀ entry ∈ typeAliases, '\n' ∉ entry.2.toList := by decide
      exact unbroken _ (mem_typeAliases aliased)
    | false =>
      rcases dangles_eq_false_iff.1 h with h | ⟨found, mem, rfl⟩
      · rw [aliased] at h; cases h
      · rw [declaredType_of_noAlias aliased]
        exact unbroken_of_isIdentifier (isIdentifier_of_legible legible mem)
  have fixed : ∀ type ∈ ["string", "number", "boolean", commandType, imageType, brushType, fontEnum, unknownType,
      "Array<" ++ unknownType ++ ">"], '\n' ∉ type.toList := by decide
  cases kind with
  | object subType | enum subType =>
    rw [writtenType_of_reference rfl]
    cases dangling : dangles registry subType with
    | true => exact fixed unknownType (by decide)
    | false => exact declared dangling
  | collection subType =>
    rw [writtenType_of_reference rfl]
    cases dangling : dangles registry subType with
    | true => exact fixed ("Array<" ++ unknownType ++ ">") (by decide)
    | false =>
      have inner := declared dangling
      simpa [ownType] using inner
  | boolean => exact fixed "boolean" (by decide)
  | command => exact fixed commandType (by decide)
  | brush => exact fixed brushType (by decide)
  | font => exact fixed fontEnum (by decide)
  | string => exact fixed "string" (by decide)
  | number => exact fixed "number" (by decide)
  | image => exact fixed imageType (by decide)

/-- What a loaded registry declares can be read back from its lines. -/
theorem readable_of_loaded (loaded : registry.IsLoaded) : ∀ outline ∈ outlines registry, outline.IsReadable := by
  intro outline mem
  obtain ⟨found, declared, outlined⟩ := List.mem_filterMap.1 mem
  have held := (List.mem_filter.1 declared).1
  have readable := legible found declared
  cases found with
  | classType name properties =>
    obtain rfl := Option.some.inj outlined
    obtain ⟨named, others⟩ := Bool.and_eq_true_iff.1 readable
    refine ⟨named, ?_⟩
    intro property mem
    obtain ⟨entry, inside, rfl⟩ := List.mem_map.1 mem
    refine ⟨List.all_eq_true.1 others _ (List.mem_map_of_mem inside), ?_⟩
    rw [value_propertyType loaded held inside]
    exact unbroken_writtenType legible entry.2
  | enumType name items =>
    obtain rfl := Option.some.inj outlined
    obtain ⟨named, others⟩ := Bool.and_eq_true_iff.1 readable
    refine ⟨named, ?_⟩
    intro member inside
    simpa using List.all_eq_true.1 others member inside
  | builtIn => cases outlined

end

/-- The same text comes from the same outlines. -/
theorem outlines_eq_of_render {registry other : Registry}
    (readable : ∀ outline ∈ outlines registry, outline.IsReadable)
    (readable' : ∀ outline ∈ outlines other, outline.IsReadable) {options : Options}
    (same : (render registry options).value = (render other options).value) :
    outlines registry = outlines other := by
  have opened (later : List String) : preamble options.imageModule ++ later ≠ [] := List.cons_ne_nil _ _
  have chars := congrArg String.toList same
  rw [value_render_outlines, value_render_outlines, toList_brokenLines (opened _), toList_brokenLines (opened _),
    brokenLines, List.flatMap_append, brokenLines, List.flatMap_append] at chars
  have unbroken {declared : List Outline} (readable : ∀ outline ∈ declared, outline.IsReadable) :
      ∀ line ∈ declared.flatMap (Outline.lines (spaces options.indent)), '\n' ∉ line.toList := by
    intro line mem
    obtain ⟨outline, inside, mem⟩ := List.mem_flatMap.1 mem
    exact Outline.unbroken_lines (readable outline inside) options.indent line mem
  have lines := brokenLines_inj (unbroken readable) (unbroken readable') (List.append_cancel_left chars)
  exact Outline.flatMap_lines_inj readable readable' lines

end TypesModule

open Literal TypesModule

/-- **The types module tells what it declares.** Registries that come from sources, with identifiers for the
names of classes, enums and properties and no line break in a member, declare the same if their modules are
the same: the same classes, with the same properties and types, and the same enums, with the same members, all
in the same order. And for every registry, the module is the preamble and the lines of what it declares, each
of another name, and every data module imports these names in their order. -/
theorem module_tells_outlines :
    (∀ (sources others : List Source) (registry other : Registry),
      (load sources).outcome = .ok registry → (load others).outcome = .ok other →
      Legible registry → Legible other → ∀ options,
      (render registry options).value = (render other options).value → outlines registry = outlines other) ∧
    ∀ registry : Registry,
      (∀ options, (render registry options).value = "\n".intercalate (preamble options.imageModule ++
        (outlines registry).flatMap (Outline.lines (spaces options.indent))) ++ "\n") ∧
      ((outlines registry).map Outline.name).Nodup ∧
      ∀ (options : DataModule) (sourceName typeName : String) (tree : Tree) (text : String),
        (options.render registry sourceName typeName tree).outcome = .ok text →
        ∃ rest, text = "// Auto-generated data context from Noesis data set: " ++ sourceName ++ "\n\n" ++
          "import \x7b " ++ ", ".intercalate ((outlines registry).map Outline.name) ++ " \x7d from \"./" ++
          options.typesModule ++ "\";\n\n" ++ rest := by
  constructor
  · intro sources others registry other loaded loaded' legible legible' options same
    have readable := readable_of_loaded legible (isLoaded_of_load loaded)
    have readable' := readable_of_loaded legible' (isLoaded_of_load loaded')
    exact outlines_eq_of_render readable readable' same
  · intro registry
    refine ⟨value_render_outlines registry, ?_, ?_⟩
    · rw [map_name_outlines]
      exact registry.nodup_declared
    · intro options sourceName typeName tree text h
      obtain ⟨root, -, h⟩ := Attempt.outcome_bind_eq_ok h
      obtain ⟨literal, -, written⟩ := Attempt.outcome_bind_eq_ok h
      refine ⟨"export const " ++ options.contextName ++ ": " ++ declaredType root.name ++ " = " ++
        literal ++ ";\n", ?_⟩
      rw [← Except.ok.inj written, map_name_outlines]
      simp only [String.append_assoc]

def backedSource (back : String) : Source :=
  ⟨"card.xml", "Class", .element [
    ("Name", .list [.text "Card"]),
    ("Property", .list [
      .element [("Name", .list [.text "Back"]), ("Type", .list [.text "Object"]),
        ("SubType", .list [.text back])]])]⟩

def backedRegistry (back : String) : Registry :=
  Registry.empty.seed.add (.classType "Card" (Table.ofList [("Back", .object back)]))

/-- Cards with backs of different types, both of them missing, have the same module and so the same outlines;
and the cards come last among the imported names. -/
theorem module_tells_outlines_backed :
    (load [backedSource "Sleeve"]).outcome = .ok (backedRegistry "Sleeve") ∧
      (load [backedSource "Cover"]).outcome = .ok (backedRegistry "Cover") ∧
      outlines (backedRegistry "Sleeve") = outlines (backedRegistry "Cover") ∧
      ∃ text rest,
        (DataModule.render {} (backedRegistry "Sleeve") "card.xaml" "Card" (.element [])).outcome = .ok text ∧
        text = "// Auto-generated data context from Noesis data set: " ++ "card.xaml" ++ "\n\n" ++ "import \x7b " ++
          ", ".intercalate ["Visibility", "Orientation", "HorizontalAlignment", "VerticalAlignment",
            "TextAlignment", "TextWrapping", "TextTrimming", "FlowDirection", "FontFamily", "Card"] ++
          " \x7d from \"./" ++ "NoesisTypes" ++ "\";\n\n" ++ rest := by
  obtain ⟨tells, imports⟩ := module_tells_outlines
  have loaded : (load [backedSource "Sleeve"]).outcome = .ok (backedRegistry "Sleeve") := rfl
  have loaded' : (load [backedSource "Cover"]).outcome = .ok (backedRegistry "Cover") := rfl
  have same : (render (backedRegistry "Sleeve") {}).value = (render (backedRegistry "Cover") {}).value := by
    have lines : moduleLines (backedRegistry "Sleeve") {} = moduleLines (backedRegistry "Cover") {} := rfl
    rw [value_render (isLoaded_of_load loaded), value_render (isLoaded_of_load loaded'), lines]
  have legible : Legible (backedRegistry "Sleeve") := by
    unfold Legible
    decide
  have legible' : Legible (backedRegistry "Cover") := by
    unfold Legible
    decide
  obtain ⟨-, known, -⟩ := Encoder.encode_total ⟨backedRegistry "Sleeve", 2, "Bangers"⟩ "Card"
    (show (Tree.element []).isTextual = true from rfl)
  obtain ⟨literal, encoded⟩ := known nofun
  have rendered : (DataModule.render {} (backedRegistry "Sleeve") "card.xaml" "Card" (.element [])).outcome =
      .ok (DataModule.text {} (backedRegistry "Sleeve") "card.xaml" "Card" literal) := by
    rw [DataModule.outcome_render {} (backedRegistry "Sleeve") "card.xaml" rfl, encoded]
    rfl
  obtain ⟨-, -, listed⟩ := imports (backedRegistry "Sleeve")
  obtain ⟨rest, written⟩ := listed {} "card.xaml" "Card" (.element []) _ rendered
  have names : (outlines (backedRegistry "Sleeve")).map Outline.name =
      ["Visibility", "Orientation", "HorizontalAlignment", "VerticalAlignment", "TextAlignment", "TextWrapping",
        "TextTrimming", "FlowDirection", "FontFamily", "Card"] := rfl
  rw [names] at written
  exact ⟨loaded, loaded', tells _ _ _ _ loaded loaded' legible legible' {} same, _, rest, rendered, written⟩

end ViewModel
