import ViewModel.Proofs.Literal.Totality
import ViewModel.Proofs.TypesModule.Resolution

/-!
# Types resolve alike in both modules

The types module looks a sub-type up under its own name, after a table of aliases. Data are looked up under
the tag of their elements, which another table gives. In a loaded registry both find something or neither
does, so a property is declared as unknown exactly where its data cannot be encoded.

* `dataTag_mem_builtInTypes`, `dataTag_of_noAlias`: what the two tables have to do with each other;
* `dangles_eq_false_iff_lookup?`: a sub-type dangles unless the tag of its elements is registered;
* `unresolved_of_unknown`: data of a type that is not registered;
* `placeholder_eq`: a placeholder is of the type that the property is declared as;
* `declared_iff_resolved`: all of it, for every registry that comes from sources.
-/

namespace ViewModel

namespace Schema

variable {subType : String}

theorem mem_builtInTypes_unqualified : ∀ name ∈ Registry.builtInTypes, '.' ∉ name.toList := by decide

/-- Every built-in type has an alias. -/
theorem hasAlias_of_mem_builtInTypes : ∀ name ∈ Registry.builtInTypes, hasAlias name = true := by decide

/-- The elements of an aliased sub-type are those of a built-in type. -/
theorem dataTag_mem_builtInTypes (h : hasAlias subType = true) : dataTag subType ∈ Registry.builtInTypes := by
  have tagged : ∀ entry ∈ typeAliases, dataTag entry.1 ∈ Registry.builtInTypes := by decide
  exact tagged _ (TypesModule.mem_typeAliases h)

/-- Without an alias the elements of a sub-type stand under its own name. -/
theorem dataTag_of_noAlias (h : hasAlias subType = false) : dataTag subType = subType := by
  have aliased : ∀ entry ∈ dataTags, hasAlias entry.1 = true := by decide
  rw [dataTag]
  cases found : dataTags.lookup subType with
  | none => rfl
  | some tag =>
    obtain ⟨before, after, split, -⟩ := List.lookup_eq_some_iff.1 found
    have mem : (subType, tag) ∈ dataTags := split ▸ List.mem_append_right _ List.mem_cons_self
    rw [aliased _ mem] at h
    cases h

theorem dataTag_unqualified (h : '.' ∉ subType.toList) : '.' ∉ (dataTag subType).toList := by
  cases aliased : hasAlias subType with
  | true => exact mem_builtInTypes_unqualified _ (dataTag_mem_builtInTypes aliased)
  | false => rw [dataTag_of_noAlias aliased]; exact h

namespace Registry

variable {registry : Registry} (loaded : registry.IsLoaded)
include loaded

/-- A built-in type may be redefined, but its name is always taken. -/
theorem lookup?_of_mem_builtInTypes {name : String} (h : name ∈ builtInTypes) :
    registry.lookup? name ≠ none := by
  have seeded : Structure.builtIn name ∈ builtIns := List.mem_append_left _ (List.mem_map_of_mem h)
  obtain ⟨found, mem, named, -⟩ := loaded.seeded _ seeded
  have plain := TypesModule.finalSegment_of_unqualified (mem_builtInTypes_unqualified name h)
  have looked := lookup?_eq_some_iff.2 ⟨mem, named.trans plain.symm⟩
  rw [looked]
  exact Option.some_ne_none found

/-- What is found under a name without an alias is declared. -/
theorem declared_of_lookup? (unqualified : '.' ∉ subType.toList) (unaliased : hasAlias subType = false)
    {found : Structure} (h : registry.lookup? subType = some found) : found.isDeclared = true := by
  obtain ⟨mem, named⟩ := lookup?_eq_some_iff.1 h
  rw [TypesModule.finalSegment_of_unqualified unqualified] at named
  cases found with
  | classType => rfl
  | enumType => rfl
  | builtIn name =>
    have aliased := hasAlias_of_mem_builtInTypes name (loaded.builtIn name mem)
    rw [show name = subType from named, unaliased] at aliased
    cases aliased

/-- A sub-type dangles unless there is a structure for its elements. -/
theorem dangles_eq_false_iff_lookup? (unqualified : '.' ∉ subType.toList) :
    TypesModule.dangles registry subType = false ↔ registry.lookup? (dataTag subType) ≠ none := by
  rw [TypesModule.dangles_eq_false_iff]
  cases aliased : hasAlias subType with
  | true =>
    have taken := lookup?_of_mem_builtInTypes loaded (dataTag_mem_builtInTypes aliased)
    exact iff_of_true (.inl rfl) taken
  | false =>
    rw [dataTag_of_noAlias aliased, ← TypesModule.declares_iff unqualified]
    cases looked : registry.lookup? subType with
    | none => simp
    | some found => simp [declared_of_lookup? loaded unqualified aliased looked]

end Registry

end Schema

namespace TypesModule

open Schema

/-- The types module declares the property as its own type, and without a warning. -/
def DeclaresOwnType (registry : Registry) (className property : String) (kind : PropertyKind) : Prop :=
  propertyType registry className property kind = pure (ownType kind)

/-- The types module declares the property by the unknown type, and warns of that once. -/
def DeclaresUnknown (registry : Registry) (className property subType : String) (kind : PropertyKind) :
    Prop :=
  propertyType registry className property kind =
    ⟨fallbackType kind, [danglingWarning className property subType]⟩

section

variable {registry : Registry} {className property subType : String} {kind : PropertyKind}

theorem not_declaresOwnType_of_unknown (h : DeclaresUnknown registry className property subType kind) :
    ¬ DeclaresOwnType registry className property kind := by
  intro own
  have same := congrArg Logged.records (h.symm.trans own)
  cases same

variable (loaded : registry.IsLoaded) {properties : Table PropertyKind}
  (mem : .classType className properties ∈ registry.structures) (held : (property, kind) ∈ properties.entries)
  (refers : kind.reference? = some subType)
include loaded mem held refers

theorem propertyType_of_not_dangles (h : dangles registry subType = false) :
    DeclaresOwnType registry className property kind := by
  unfold DeclaresOwnType propertyType
  rw [unresolved?_of_loaded loaded mem held, dangling?, refers, Option.filter, if_neg (by simp [h])]

theorem propertyType_of_dangles (h : dangles registry subType = true) :
    DeclaresUnknown registry className property subType kind := by
  unfold DeclaresUnknown propertyType
  rw [unresolved?_of_loaded loaded mem held, dangling?, refers, Option.filter, if_pos h]
  rfl

/-- A property has its own type if there is a structure for its elements, and is unknown otherwise. -/
theorem declares_iff_lookup? :
    (DeclaresOwnType registry className property kind ↔ registry.lookup? (dataTag subType) ≠ none) ∧
      (DeclaresUnknown registry className property subType kind ↔
        registry.lookup? (dataTag subType) = none) := by
  have resolves := Registry.dangles_eq_false_iff_lookup? loaded
    (unqualified_of_loaded loaded mem held refers)
  cases dangling : dangles registry subType with
  | false =>
    have found := resolves.1 dangling
    have own := propertyType_of_not_dangles loaded mem held refers dangling
    exact ⟨iff_of_true own found, iff_of_false (fun unknown => not_declaresOwnType_of_unknown unknown own) found⟩
  | true =>
    have missing : registry.lookup? (dataTag subType) = none := by
      by_contra found
      rw [resolves.2 found] at dangling
      cases dangling
    have unknown := propertyType_of_dangles loaded mem held refers dangling
    exact ⟨iff_of_false (not_declaresOwnType_of_unknown unknown) (not_not.2 missing), iff_of_true unknown missing⟩

end

end TypesModule

namespace Literal

open Schema TypesModule Attempt

/-- What is written for data of a type that is not registered. -/
def Encoder.unresolvedLiteral (encoder : Encoder) : PropertyKind → String
  | .object subType | .enum subType => encoder.placeholder subType
  | _ => "[]"

/-- The encoder does not resolve the type of a datum below a property: it has no literal, and the property
is written as the fallback, which is reported once. -/
structure Unresolved (encoder : Encoder) (slot : Slot) (kind : PropertyKind) (tag : String) (child : Tree) :
    Prop where
  value : ∀ indent, (encoder.value tag child indent).outcome = .error (.unknown ⟨tag⟩)
  entry : encoder.entry slot kind = do
    report ((UnknownStructure.mk tag).message ++ " (" ++ slot.place ++ ")")
    return encoder.unresolvedLiteral kind

namespace Encoder

variable (encoder : Encoder)

/-- A type resolves for every tree or for none. -/
theorem value_eq_unknown_iff {typeName : String} (unqualified : '.' ∉ typeName.toList) {tree : Tree}
    (textual : tree.isTextual = true) (indent : String) :
    (encoder.value typeName tree indent).outcome = .error (.unknown ⟨typeName⟩) ↔
      encoder.registry.lookup? typeName = none := by
  by_cases unknown : encoder.registry.lookup? typeName = none
  · rw [value_of_unknown encoder unknown, outcome_throw, finalSegment_of_unqualified unqualified]
    exact iff_of_true rfl unknown
  · obtain ⟨literal, ended⟩ := (encoder.value_settles textual unknown indent).1
    rw [ended]
    exact iff_of_false nofun unknown

section

variable {slot : Slot} (textual : slot.tree.isTextual = true) {first child : Tree} {subType : String}
  (unqualified : '.' ∉ (dataTag subType).toList)
  (unknown : encoder.registry.lookup? (dataTag subType) = none) (held : slot.wrapping? = some first)
  (mem : child ∈ first.under (dataTag subType))
include textual unqualified unknown held mem

theorem objectEntry_of_unresolved :
    encoder.entry slot (.object subType) = do
      report ((UnknownStructure.mk (dataTag subType)).message ++ " (" ++ slot.place ++ ")")
      return encoder.placeholder subType := by
  rw [entry_object encoder textual, held]
  dsimp only
  unfold Tree.first?
  cases children : first.under (dataTag subType) with
  | nil => rw [children] at mem; cases mem
  | cons found rest =>
    rw [List.head?_cons]
    dsimp only
    rw [value_of_unknown encoder unknown, orElseUnknown_throw, finalSegment_of_unqualified unqualified]

theorem collectionEntry_of_unresolved :
    encoder.entry slot (.collection subType) = do
      report ((UnknownStructure.mk (dataTag subType)).message ++ " (" ++ slot.place ++ ")")
      return "[]" := by
  rw [entry_collection encoder textual, held]
  dsimp only
  cases children : first.under (dataTag subType) with
  | nil => rw [children] at mem; cases mem
  | cons found rest =>
    dsimp only
    rw [items, value_of_unknown encoder unknown, finalSegment_of_unqualified unqualified]
    rfl

/-- Below a property of an unknown type every datum is unresolved. -/
theorem unresolved_of_unknown {kind : PropertyKind} (h : kind = .object subType ∨ kind = .collection subType) :
    Unresolved encoder slot kind (dataTag subType) child where
  value := by
    have inner := Tree.textual_of_mem_under (Slot.textual_of_wrapping? textual held) mem
    exact fun indent => (encoder.value_eq_unknown_iff unqualified inner indent).2 unknown
  entry := by
    rcases h with rfl | rfl
    · exact encoder.objectEntry_of_unresolved textual unqualified unknown held mem
    · exact encoder.collectionEntry_of_unresolved textual unqualified unknown held mem

end

/-- A placeholder is of the type that the property is declared as, in every registry. -/
theorem placeholder_eq (className property : String) {kind : PropertyKind} {subType : String}
    (h : kind = .object subType ∨ kind = .enum subType) :
    encoder.placeholder subType =
      "undefined as any as " ++ (propertyType encoder.registry className property kind).value := by
  have refers : kind.reference? = some subType := by rcases h with rfl | rfl <;> rfl
  have own : ownType kind = declaredType subType := by rcases h with rfl | rfl <;> rfl
  have fallback : fallbackType kind = unknownType := by rcases h with rfl | rfl <;> rfl
  unfold placeholder referencedType propertyType unresolved?
  rw [refers]
  cases named : namedType? encoder.registry subType with
  | none =>
    rw [Option.filter, if_pos (by simp [named])]
    exact congrArg ("undefined as any as " ++ ·) fallback.symm
  | some type =>
    obtain ⟨resolved, -⟩ := Option.filter_eq_some_iff.1 named
    have same : type = declaredType subType := by
      unfold resolvedType? at resolved
      split at resolved <;> cases resolved
      rfl
    rw [Option.filter, if_neg (by simp [named])]
    exact congrArg ("undefined as any as " ++ ·) (same.trans own.symm)

/-- **Both modules agree on what resolves.** In every registry that comes from sources, an object or
collection property is declared as its own type, without a warning, exactly if there is a structure for the
tag of its elements; otherwise it is declared as unknown, with one warning. Data below it are unresolved
exactly in the second case. In every registry, loaded or not, the placeholder of an object or enum property
is of the type that the property is declared as. -/
theorem declared_iff_resolved {sources : List Source} {registry : Registry}
    (loaded : (load sources).outcome = .ok registry) :
    (∀ className properties, .classType className properties ∈ registry.structures →
      ∀ property kind subType, (property, kind) ∈ properties.entries →
        kind = .object subType ∨ kind = .collection subType →
          (DeclaresOwnType registry className property kind ↔ registry.lookup? (dataTag subType) ≠ none) ∧
          (DeclaresUnknown registry className property subType kind ↔
            registry.lookup? (dataTag subType) = none) ∧
          ∀ encoder : Encoder, encoder.registry = registry →
            ∀ tree indent first child, tree.isTextual = true →
              tree.first? (className ++ "." ++ property) = some first →
                child ∈ first.under (dataTag subType) →
                  (Unresolved encoder ⟨className, property, tree, indent⟩ kind (dataTag subType) child ↔
                    DeclaresUnknown registry className property subType kind)) ∧
    ∀ (encoder : Encoder) className property kind subType, kind = .object subType ∨ kind = .enum subType →
      encoder.placeholder subType =
        "undefined as any as " ++ (propertyType encoder.registry className property kind).value := by
  have invariant := isLoaded_of_load loaded
  refine ⟨?_, fun encoder className property _ _ => encoder.placeholder_eq className property⟩
  intro className properties mem property kind subType held refersTo
  have refers : kind.reference? = some subType := by rcases refersTo with rfl | rfl <;> rfl
  obtain ⟨own, unknown⟩ := declares_iff_lookup? invariant mem held refers
  refine ⟨own, unknown, ?_⟩
  rintro encoder rfl tree indent first child textual wrapping below
  have unqualified := dataTag_unqualified (unqualified_of_loaded invariant mem held refers)
  have inner := Tree.textual_of_mem_under (Tree.textual_of_first? textual wrapping) below
  rw [unknown]
  constructor
  · intro unresolved
    exact (encoder.value_eq_unknown_iff unqualified inner "").1 (unresolved.value "")
  · intro missing
    have held : (Slot.mk className property tree indent).wrapping? = some first := wrapping
    exact encoder.unresolved_of_unknown textual unqualified missing held below refersTo

def lossyCard : Tree :=
  .element [
    ("Card.Lost", .list [.element [("Missing", .list [.text "stray"])]]),
    ("Card.Next", .list [.element [("Card", .list [.text ""])]])]

/-- The lost property is declared as unknown and its data are unresolved; the next card is neither, and its
placeholder is a card. -/
theorem declared_iff_resolved_lossyCard :
    (load [lossySource]).outcome = .ok lossyRegistry ∧
      DeclaresUnknown lossyRegistry "Card" "Lost" "Missing" (.collection "Missing") ∧
      Unresolved ⟨lossyRegistry, 2, "Bangers"⟩ ⟨"Card", "Lost", lossyCard, "  "⟩ (.collection "Missing")
        "Missing" (.text "stray") ∧
      DeclaresOwnType lossyRegistry "Card" "Next" (.object "Card") ∧
      ¬ Unresolved ⟨lossyRegistry, 2, "Bangers"⟩ ⟨"Card", "Next", lossyCard, "  "⟩ (.object "Card")
        "Card" (.text "") ∧
      (Encoder.mk lossyRegistry 2 "Bangers").placeholder "Card" = "undefined as any as Card" := by
  have loaded : (load [lossySource]).outcome = .ok lossyRegistry := rfl
  obtain ⟨agree, typed⟩ := declared_iff_resolved loaded
  have card : .classType "Card" (Table.ofList
      [("Lost", .collection "Missing"), ("Next", .object "Card"), ("Face", .font)]) ∈
        lossyRegistry.structures :=
    Registry.mem_structures_add.2 (.inl rfl)
  obtain ⟨-, unknown, lost⟩ := agree _ _ card "Lost" (.collection "Missing") "Missing"
    List.mem_cons_self (.inr rfl)
  obtain ⟨own, known, next⟩ := agree _ _ card "Next" (.object "Card") "Card"
    (List.mem_cons_of_mem _ List.mem_cons_self) (.inl rfl)
  have missing := unknown.2 rfl
  have found : lossyRegistry.lookup? (dataTag "Card") ≠ none := nofun
  refine ⟨loaded, missing, ?_, own.2 found, ?_, typed _ "Card" "Next" (.object "Card") "Card" (.inl rfl)⟩
  · exact (lost ⟨lossyRegistry, 2, "Bangers"⟩ rfl lossyCard "  " _ _ rfl rfl List.mem_cons_self).2 missing
  · intro unresolved
    have fallen := (next ⟨lossyRegistry, 2, "Bangers"⟩ rfl lossyCard "  " _ _ rfl rfl List.mem_cons_self).1
      unresolved
    exact found (known.1 fallen)

end Encoder

end Literal

end ViewModel
