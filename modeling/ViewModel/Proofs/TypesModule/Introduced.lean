import ViewModel.Proofs.Schema.Order
import ViewModel.Proofs.TypesModule.Outline

/-!
# The names that a types module introduces

The names that the statements of a types module introduce, read off its lines: the name that is imported, the
alias of the preamble, and one name for each declaration. What stands between the braces of a declaration
introduces nothing. The declarations have different names, as the registry holds one structure of each, but
the two names of the preamble are no names of the registry.

* `introducedNames`: the names that lines introduce;
* `introducedNames_outlineLines`: those of a module are the two of the preamble and those of the declarations;
* `mem_importedNames_iff`: which names are declared in a registry that comes from sources;
* `introduced_once_iff`: no name is introduced twice if no source declares one of the preamble's.
-/

namespace ViewModel

open Schema

namespace TypesModule

/-- What stands in a line between a beginning and an end. -/
def between? (first last line : String) : Option String :=
  let rest := line.toList.drop first.toList.length
  if first.toList.isPrefixOf line.toList && last.toList.isSuffixOf rest then
    some (String.ofList (rest.take (rest.length - last.toList.length)))
  else none

/-- The name of the class or enum that a line opens the declaration of. -/
def opened? (line : String) : Option String :=
  (between? "export type " " = \x7b" line).or (between? "export enum " " \x7b" line)

/-- The name that a statement of one line introduces: that of an import or of an alias. -/
def stated? (line : String) : Option String :=
  ((between? "import \x7b " ";" line).or (between? "export type " ";" line)).map fun statement =>
    String.ofList (statement.toList.takeWhile (· != ' '))

/-- The names that lines introduce, in order. A declaration lasts until the line of a single brace. -/
def introducedNames : List String → List String
  | [] => []
  | line :: rest =>
    match opened? line with
    | some name => name :: introducedNames (rest.dropWhile (· != "\x7d"))
    | none => (stated? line).toList ++ introducedNames rest
termination_by lines => lines.length
decreasing_by
  · have shorter := (List.dropWhile_suffix (l := rest) (· != "\x7d")).length_le
    simp only [List.length_cons]
    omega
  · simp

theorem between?_append (first last name : String) : between? first last (first ++ name ++ last) = some name := by
  have dropped : (first ++ name ++ last).toList.drop first.toList.length = name.toList ++ last.toList := by
    rw [String.append_assoc, String.toList_append, String.toList_append, List.drop_left]
  have begins : first.toList.isPrefixOf (first ++ name ++ last).toList = true := by
    rw [List.isPrefixOf_iff_prefix, String.append_assoc, String.toList_append]
    exact List.prefix_append _ _
  have ends : last.toList.isSuffixOf (name.toList ++ last.toList) = true := by
    rw [List.isSuffixOf_iff_suffix]
    exact List.suffix_append _ _
  unfold between?
  dsimp only
  rw [dropped, begins, ends]
  simp

/-- A line of another beginning is passed over. -/
theorem between?_eq_none {first line : String} (other : first.toList.isPrefixOf line.toList = false) (last : String) :
    between? first last line = none := by
  unfold between?
  rw [other]
  rfl

/-- A line of a known start, which is longer than the beginning and other. -/
theorem isPrefixOf_append_eq_false {first start : String} (other : first.toList.isPrefixOf start.toList = false)
    (shorter : first.toList.length ≤ start.toList.length) (rest : String) :
    first.toList.isPrefixOf (start ++ rest).toList = false := by
  rw [Bool.eq_false_iff, Ne, List.isPrefixOf_iff_prefix, String.toList_append]
  intro begins
  have inside := List.prefix_of_prefix_length_le begins (List.prefix_append start.toList rest.toList) shorter
  rw [← List.isPrefixOf_iff_prefix, other] at inside
  cases inside

/-- A line that begins like no statement introduces nothing. -/
theorem introducedNames_of_other {line : String}
    (other : ∀ first ∈ ["export type ", "export enum ", "import \x7b "],
      first.toList.isPrefixOf line.toList = false) (rest : List String) :
    introducedNames (line :: rest) = introducedNames rest := by
  have type := between?_eq_none (other "export type " (by decide))
  have enum := between?_eq_none (other "export enum " (by decide))
  have imported := between?_eq_none (other "import \x7b " (by decide))
  have unopened : opened? line = none := by rw [opened?, type, enum, Option.none_or]
  have unstated : stated? line = none := by rw [stated?, imported, type, Option.none_or, Option.map_none]
  rw [introducedNames, unopened]
  dsimp only
  rw [unstated]
  rfl

namespace Outline

theorem opened?_opening (outline : Outline) : opened? outline.opening = some outline.name := by
  cases outline with
  | classType name =>
    rw [opening, opened?, between?_append]
    rfl
  | enumType name =>
    have other : "export type ".toList.isPrefixOf ("export enum " ++ name ++ " \x7b").toList = false := by
      rw [String.append_assoc]
      exact isPrefixOf_append_eq_false (by decide) (by decide) _
    rw [opening, opened?, between?_eq_none other, between?_append]
    rfl

theorem introducedNames_comment (outline : Outline) (rest : List String) :
    introducedNames (outline.comment :: rest) = introducedNames rest := by
  apply introducedNames_of_other
  intro first mem
  simp only [List.mem_cons, List.not_mem_nil, or_false] at mem
  cases outline with
  | classType | enumType =>
    rcases mem with rfl | rfl | rfl <;> exact isPrefixOf_append_eq_false (by decide) (by decide) _

/-- The lines of a declaration introduce its name. -/
theorem introducedNames_lines (outline : Outline) (indent : String) (rest : List String) :
    introducedNames (outline.lines indent ++ rest) = outline.name :: introducedNames rest := by
  have closed : (outline.body indent ++ "\x7d" :: "" :: rest).dropWhile (· != "\x7d") = "\x7d" :: "" :: rest := by
    rw [List.dropWhile_append_of_pos]
    · rfl
    · intro line mem
      have other : line ≠ "\x7d" := by
        rintro rfl
        exact brace_not_mem_body mem
      exact bne_iff_ne.2 other
  have blank : introducedNames ("\x7d" :: "" :: rest) = introducedNames rest := by
    rw [introducedNames_of_other (by decide), introducedNames_of_other (by decide)]
  rw [lines, List.append_assoc, List.append_assoc]
  change introducedNames (outline.comment :: outline.opening :: (outline.body indent ++ "\x7d" :: "" :: rest)) = _
  rw [introducedNames_comment, introducedNames, opened?_opening]
  dsimp only
  rw [closed, blank]

end Outline

theorem introducedNames_flatMap_lines (declared : List Outline) (indent : String) :
    introducedNames (declared.flatMap (Outline.lines indent)) = declared.map Outline.name := by
  induction declared with
  | nil => rw [List.flatMap_nil, introducedNames, List.map_nil]
  | cons outline rest ih => rw [List.flatMap_cons, Outline.introducedNames_lines, ih, List.map_cons]

theorem opened?_import (imageModule : String) :
    opened? ("import \x7b ImageSource \x7d from \"" ++ imageModule ++ "\";") = none := by
  have other {first : String}
      (apart : first.toList.isPrefixOf "import \x7b ImageSource \x7d from \"".toList = false)
      (shorter : first.toList.length ≤ "import \x7b ImageSource \x7d from \"".toList.length) :
      first.toList.isPrefixOf ("import \x7b ImageSource \x7d from \"" ++ imageModule ++ "\";").toList = false := by
    rw [String.append_assoc]
    exact isPrefixOf_append_eq_false apart shorter _
  rw [opened?, between?_eq_none (other (by decide) (by decide)),
    between?_eq_none (other (by decide) (by decide)), Option.none_or]

theorem stated?_import (imageModule : String) :
    stated? ("import \x7b ImageSource \x7d from \"" ++ imageModule ++ "\";") = some "ImageSource" := by
  have split : "import \x7b ImageSource \x7d from \"" ++ imageModule ++ "\";" =
      "import \x7b " ++ ("ImageSource \x7d from \"" ++ imageModule ++ "\"") ++ ";" := by
    apply String.toList_injective
    simp
  rw [stated?, split, between?_append, Option.some_or, Option.map_some, String.append_assoc, String.toList_append]
  rfl

/-- The preamble introduces the type of images and that of brushes. -/
theorem introducedNames_preamble (imageModule : String) (rest : List String) :
    introducedNames (preamble imageModule ++ rest) = "ImageSource" :: "Brush" :: introducedNames rest := by
  have brush : opened? "export type Brush = never;" = none ∧ stated? "export type Brush = never;" = some "Brush" := by
    decide
  rw [preamble]
  simp only [List.cons_append, List.nil_append]
  rw [introducedNames_of_other (by decide), introducedNames_of_other (by decide), introducedNames, opened?_import]
  dsimp only
  rw [stated?_import, introducedNames_of_other (by decide), introducedNames_of_other (by decide), introducedNames,
    brush.1]
  dsimp only
  rw [brush.2, introducedNames_of_other (by decide)]
  rfl

def outlineLines (registry : Registry) (options : Options) : List String :=
  preamble options.imageModule ++ (outlines registry).flatMap (Outline.lines (spaces options.indent))

/-- A module introduces the two names of the preamble and those that it declares. -/
theorem introducedNames_outlineLines (registry : Registry) (options : Options) :
    introducedNames (outlineLines registry options) =
      "ImageSource" :: "Brush" :: Literal.importedNames registry := by
  rw [outlineLines, introducedNames_preamble, introducedNames_flatMap_lines, map_name_outlines]

/-- Beside the names of the seed those are declared that the sources contribute. -/
theorem mem_importedNames_iff {sources : List Source} {registry : Registry}
    (loaded : (load sources).outcome = .ok registry) (name : String)
    (fresh : ∀ seeded ∈ Registry.builtIns, seeded.name ≠ name) :
    name ∈ Literal.importedNames registry ↔
      ∃ source ∈ sources, ∃ found, source.contribution = .ok (some found) ∧ found.name = name := by
  obtain ⟨-, rfl⟩ := outcome_load_eq_ok_iff.1 loaded
  constructor
  · intro mem
    obtain ⟨found, declared, named⟩ := List.mem_map.1 mem
    have held := (List.mem_filter.1 declared).1
    rw [Registry.seed, ← List.foldl_append] at held
    revert named
    refine Registry.forall_mem_foldl_add (P := fun found => found.name = name → _) ?_ ?_ found held
    · exact fun other mem => absurd mem List.not_mem_nil
    · intro added mem named
      rcases List.mem_append.1 mem with seeded | mem
      · exact absurd named (fresh added seeded)
      · obtain ⟨source, inside, contributed⟩ := List.mem_filterMap.1 mem
        exact ⟨source, inside, added, Source.loaded?_eq_some_iff.1 contributed, named⟩
  · rintro ⟨source, inside, found, contributed, rfl⟩
    have added : found ∈ sources.filterMap Source.loaded? :=
      List.mem_filterMap.2 ⟨source, inside, Source.loaded?_eq_some_iff.2 contributed⟩
    have declares : ∀ other ∈ sources.filterMap Source.loaded?, other.name = found.name →
        other.isDeclared = true := by
      intro other mem _
      obtain ⟨source, -, contributed⟩ := List.mem_filterMap.1 mem
      exact (loadable_of_contribution (Source.loaded?_eq_some_iff.1 contributed)).declared
    obtain ⟨kept, held, named, declared⟩ : ∃ kept ∈ ((sources.filterMap Source.loaded?).foldl Registry.add
        Registry.empty.seed).structures, kept.name = found.name ∧ kept.isDeclared = true :=
      Registry.exists_mem_foldl_add added declares
    exact List.mem_map.2 ⟨kept, List.mem_filter.2 ⟨held, declared⟩, named⟩

/-- **Every name is introduced once, but for those of the preamble.** The module of a registry that comes from
sources introduces the two names of its preamble and then one name for each class and enum, and those are
different. So no name is introduced twice exactly if no source declares a structure of one of the two names. -/
theorem introduced_once_iff {sources : List Source} {registry : Registry}
    (loaded : (load sources).outcome = .ok registry) (options : Options) :
    (render registry options).value = "\n".intercalate (outlineLines registry options) ++ "\n" ∧
      introducedNames (outlineLines registry options) =
        "ImageSource" :: "Brush" :: Literal.importedNames registry ∧
      (Literal.importedNames registry).Nodup ∧
      ((introducedNames (outlineLines registry options)).Nodup ↔
        ∀ source ∈ sources, ∀ found, source.contribution = .ok (some found) →
          found.name ≠ "ImageSource" ∧ found.name ≠ "Brush") := by
  have image := mem_importedNames_iff loaded "ImageSource" (by decide)
  have brush := mem_importedNames_iff loaded "Brush" (by decide)
  refine ⟨value_render_outlines registry options, introducedNames_outlineLines registry options,
    registry.nodup_declared, ?_⟩
  rw [introducedNames_outlineLines, List.nodup_cons, List.nodup_cons, List.mem_cons, not_or]
  constructor
  · rintro ⟨⟨-, imageless⟩, brushless, -⟩ source inside found contributed
    constructor
    · intro named
      exact imageless (image.2 ⟨source, inside, found, contributed, named⟩)
    · intro named
      exact brushless (brush.2 ⟨source, inside, found, contributed, named⟩)
  · intro apart
    refine ⟨⟨by decide, ?_⟩, ?_, registry.nodup_declared⟩
    · intro mem
      obtain ⟨source, inside, found, contributed, named⟩ := image.1 mem
      exact (apart source inside found contributed).1 named
    · intro mem
      obtain ⟨source, inside, found, contributed, named⟩ := brush.1 mem
      exact (apart source inside found contributed).2 named

/-- The module of a card introduces no name twice. -/
theorem introduced_once_lossySource :
    (load [lossySource]).outcome = .ok lossyRegistry ∧
      (introducedNames (outlineLines lossyRegistry {})).Nodup := by
  have loaded : (load [lossySource]).outcome = .ok lossyRegistry := rfl
  obtain ⟨-, -, -, once⟩ := introduced_once_iff loaded {}
  refine ⟨loaded, once.2 ?_⟩
  intro source mem found contributed
  obtain rfl := List.mem_singleton.1 mem
  have card : lossySource.contribution = .ok (some (.classType "Card" (Table.ofList
      [("Lost", .collection "Missing"), ("Next", .object "Card"), ("Face", .font)]))) := rfl
  rw [card] at contributed
  cases contributed
  decide

/-- The source of a class of the name of the preamble's alias. -/
def brushSource : Source := ⟨"brush.xml", "Class", .element [("Name", .list [.text "Brush"])]⟩

def brushRegistry : Registry := Registry.empty.seed.add (.classType "Brush" (Table.ofList []))

/-- The module of a class of that name introduces it twice. -/
theorem brush_introduced_twice :
    (load [brushSource]).outcome = .ok brushRegistry ∧
      (render brushRegistry {}).value = "\n".intercalate (outlineLines brushRegistry {}) ++ "\n" ∧
      (introducedNames (outlineLines brushRegistry {})).count "Brush" = 2 ∧
      ¬ (introducedNames (outlineLines brushRegistry {})).Nodup := by
  have introduced : introducedNames (outlineLines brushRegistry {}) =
      "ImageSource" :: "Brush" :: Literal.importedNames brushRegistry :=
    introducedNames_outlineLines brushRegistry {}
  refine ⟨rfl, value_render_outlines brushRegistry {}, ?_, ?_⟩
  · rw [introduced]
    decide
  · rw [introduced]
    decide

end TypesModule

end ViewModel
