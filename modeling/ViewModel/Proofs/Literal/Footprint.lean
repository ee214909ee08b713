import ViewModel.Literal.Encoder
import ViewModel.Proofs.TypesModule.Resolution

/-!
# What encoding looks up

The literal of a tree looks at no more of the registry than the structures under a few names: that of its
type and, with a class, those of the types that the class refers to and of the tags of their elements.
Encoders whose registries agree on names that are closed in this way encode every tree alike.

* `declaration_congr`: a declaration looks up the types that the structure refers to;
* `AgreeOn.entry`, `AgreeOn.value`: properties and trees over agreeing registries;
* `Footprint`, `agreeOn_footprint`: the least names that a type leads to, and that they are closed.
-/

namespace ViewModel

namespace Schema

/-- The part after the last point has no point of its own. -/
theorem finalSegment_finalSegment (typeName : String) :
    finalSegment (finalSegment typeName) = finalSegment typeName := by
  apply TypesModule.finalSegment_of_unqualified
  simp only [finalSegment, Text.lastSegment, String.toList_ofList]
  exact Text.mark_not_mem_afterLast '.' _

theorem Registry.lookup?_finalSegment (registry : Registry) (typeName : String) :
    registry.lookup? (finalSegment typeName) = registry.lookup? typeName := by
  rw [lookup?, lookup?, finalSegment_finalSegment]

/-- The names that the literals of a type may look up: its own, and with that of a class those of the types
that its properties refer to, and of the tags that their elements stand under. -/
inductive Registry.Footprint (registry : Registry) (typeName : String) : String → Prop
  | root : registry.Footprint typeName (finalSegment typeName)
  | subType {name : String} {found : Structure} {subType : String} :
      registry.Footprint typeName name → registry.lookup? name = some found → subType ∈ found.references →
      registry.Footprint typeName (finalSegment subType)
  | dataTag {name : String} {found : Structure} {subType : String} :
      registry.Footprint typeName name → registry.lookup? name = some found → subType ∈ found.references →
      registry.Footprint typeName (finalSegment (dataTag subType))

/-- With every structure that the registry holds under one of the names, the names include those of the
types that it refers to and of their tags. -/
def Registry.IsClosed (registry : Registry) (names : String → Prop) : Prop :=
  ∀ name found, names name → registry.lookup? name = some found → ∀ subType ∈ found.references,
    names (finalSegment subType) ∧ names (finalSegment (dataTag subType))

theorem Registry.isClosed_footprint (registry : Registry) (typeName : String) :
    registry.IsClosed (registry.Footprint typeName) := by
  intro name found inside looked subType refers
  exact ⟨.subType inside looked refers, .dataTag inside looked refers⟩

theorem mem_references {name : String} {properties : Table PropertyKind} {property : String × PropertyKind}
    {subType : String} (held : property ∈ properties.entries) (refers : property.2.reference? = some subType) :
    subType ∈ (Structure.classType name properties).references :=
  List.mem_filterMap.2 ⟨property, held, refers⟩

end Schema

open Schema

namespace TypesModule

variable {registry other : Registry}

theorem namedType?_congr {subType : String} (same : registry.lookup? subType = other.lookup? subType) :
    namedType? registry subType = namedType? other subType := by
  unfold namedType? resolvedType?
  rw [same]

theorem referencedType_congr {subType : String} (same : registry.lookup? subType = other.lookup? subType) :
    referencedType registry subType = referencedType other subType := by
  unfold referencedType
  rw [namedType?_congr same]

theorem propertyType_congr {kind : PropertyKind}
    (same : ∀ subType, kind.reference? = some subType → registry.lookup? subType = other.lookup? subType)
    (className property : String) :
    propertyType registry className property kind = propertyType other className property kind := by
  have unresolved : unresolved? registry kind = unresolved? other kind := by
    unfold unresolved?
    cases refers : kind.reference? with
    | none => rfl
    | some subType =>
      have named := namedType?_congr (same subType refers)
      simp only [Option.filter, named]
  unfold propertyType
  rw [unresolved]

/-- A structure is declared by what is found under the types that it refers to. -/
theorem declaration_congr {found : Structure}
    (same : ∀ subType ∈ found.references, registry.lookup? subType = other.lookup? subType) (indent : String) :
    declaration registry indent found = declaration other indent found := by
  cases found with
  | classType name properties =>
    have typed : ∀ property ∈ properties.entries,
        propertyType registry name property.1 property.2 = propertyType other name property.1 property.2 := by
      intro property held
      apply propertyType_congr
      intro subType refers
      exact same subType (mem_references held refers)
    rw [declaration, declaration]
    refine congrArg (· >>= _) (mapM_congr_of_forall₂ (List.forall₂_same.2 ?_))
    intro property held
    dsimp only
    rw [typed property held]
  | enumType => rfl
  | builtIn => rfl

end TypesModule

namespace Literal.Encoder

/-- The encoders lay out alike and find the same under the names, which are closed under what is found. -/
structure AgreeOn (names : String → Prop) (encoder other : Encoder) : Prop where
  indent : encoder.indent = other.indent
  defaultFont : encoder.defaultFont = other.defaultFont
  found : ∀ name, names name → encoder.registry.lookup? name = other.registry.lookup? name
  closed : encoder.registry.IsClosed names

/-- Trees that weigh less than the bound are encoded alike as any type of the names. -/
def AgreeBelow (names : String → Prop) (encoder other : Encoder) (bound : Nat) : Prop :=
  ∀ child : Tree, child.weight < bound → ∀ typeName, names (finalSegment typeName) → ∀ indent,
    encoder.value typeName child indent = other.value typeName child indent

namespace AgreeOn

variable {names : String → Prop} {encoder other : Encoder} (agree : AgreeOn names encoder other)
include agree

theorem lookup? {typeName : String} (inside : names (finalSegment typeName)) :
    encoder.registry.lookup? typeName = other.registry.lookup? typeName := by
  rw [← Registry.lookup?_finalSegment, ← other.registry.lookup?_finalSegment]
  exact agree.found _ inside

theorem step : encoder.step = other.step := congrArg TypesModule.spaces agree.indent

theorem placeholder {subType : String} (inside : names (finalSegment subType)) :
    encoder.placeholder subType = other.placeholder subType :=
  congrArg ("undefined as any as " ++ ·) (TypesModule.referencedType_congr (agree.lookup? inside))

theorem builtIn (name : String) (tree : Tree) (indent : String) :
    encoder.builtIn name tree indent = other.builtIn name tree indent := by
  have command : encoder.commandLiteral tree indent = other.commandLiteral tree indent := by
    unfold commandLiteral
    rw [agree.step]
  unfold Encoder.builtIn
  rw [command]

theorem enumEntry {subType : String} (inside : names (finalSegment subType)) (slot : Slot) :
    encoder.enumEntry slot subType = other.enumEntry slot subType := by
  unfold Encoder.enumEntry
  rw [agree.lookup? inside, agree.placeholder inside]

theorem objectEntry {slot : Slot} (below : AgreeBelow names encoder other slot.tree.weight) {subType : String}
    (inside : names (finalSegment subType)) (tagged : names (finalSegment (dataTag subType))) :
    encoder.entry slot (.object subType) = other.entry slot (.object subType) := by
  rw [entry, entry, agree.placeholder inside]
  split
  · rfl
  · rfl
  · rfl
  · rename_i first child found
    have light := weight_lt_of_wrapped found
    dsimp only
    rw [below child light (dataTag subType) tagged]

omit agree in
theorem items {tag indent : String} {trees : List Tree} {bound : Nat}
    (below : AgreeBelow names encoder other bound) (tagged : names (finalSegment tag))
    (light : Tree.weightItems trees < bound) :
    encoder.items tag indent trees = other.items tag indent trees := by
  induction trees with
  | nil => rw [Encoder.items, Encoder.items]
  | cons tree rest ih =>
    rw [Tree.weightItems] at light
    have here := below tree (by omega) tag tagged indent
    have there := ih (by omega)
    rw [Encoder.items, Encoder.items, here, there]

theorem collectionEntry {slot : Slot} (below : AgreeBelow names encoder other slot.tree.weight)
    {subType : String} (tagged : names (finalSegment (dataTag subType))) :
    encoder.entry slot (.collection subType) = other.entry slot (.collection subType) := by
  rw [entry, entry, agree.step]
  split
  · rfl
  · rfl
  · rfl
  · rename_i first item rest found
    have light := weightItems_lt_of_wrapped found
    dsimp only
    rw [items below tagged light]

/-- A property is encoded alike if the names include what it refers to. -/
theorem entry {slot : Slot} (below : AgreeBelow names encoder other slot.tree.weight) {kind : PropertyKind}
    (inside : ∀ subType, kind.reference? = some subType →
      names (finalSegment subType) ∧ names (finalSegment (dataTag subType))) :
    encoder.entry slot kind = other.entry slot kind := by
  cases kind with
  | object subType =>
    obtain ⟨named, tagged⟩ := inside subType rfl
    exact agree.objectEntry below named tagged
  | collection subType =>
    obtain ⟨-, tagged⟩ := inside subType rfl
    exact agree.collectionEntry below tagged
  | enum subType =>
    obtain ⟨named, -⟩ := inside subType rfl
    rw [Encoder.entry, Encoder.entry, agree.enumEntry named]
  | string => rw [Encoder.entry, Encoder.entry]
  | number => rw [Encoder.entry, Encoder.entry]
  | boolean => rw [Encoder.entry, Encoder.entry]
  | font => rw [Encoder.entry, Encoder.entry, fontEntry, fontEntry, agree.defaultFont]
  | image => simp only [Encoder.entry, imageEntry, agree.builtIn]
  | brush => simp only [Encoder.entry, brushEntry, agree.builtIn]
  | command => simp only [Encoder.entry, commandEntry, commandLiteral, agree.step]

theorem entries {tree : Tree} (below : AgreeBelow names encoder other tree.weight)
    (structureName indent : String) {properties : List (String × PropertyKind)}
    (inside : ∀ property ∈ properties, ∀ subType, property.2.reference? = some subType →
      names (finalSegment subType) ∧ names (finalSegment (dataTag subType))) :
    encoder.entries structureName tree indent properties = other.entries structureName tree indent properties := by
  induction properties with
  | nil => rw [Encoder.entries, Encoder.entries]
  | cons property rest ih =>
    obtain ⟨here, there⟩ := List.forall_mem_cons.1 inside
    rw [Encoder.entries, Encoder.entries, agree.entry below here, ih there]

/-- Encoders that agree on closed names write the same and report the same for every type of these names. -/
theorem value {typeName : String} (inside : names (finalSegment typeName)) (tree : Tree) (indent : String) :
    encoder.value typeName tree indent = other.value typeName tree indent := by
  -- By weight and for all types of the names at once: what a property refers to need not be smaller, as
  -- classes may refer to each other, but its tree is.
  induction weight : tree.weight using Nat.strongRecOn generalizing tree typeName indent with
  | ind bound ih =>
    have below : AgreeBelow names encoder other tree.weight := by
      intro child lighter typeName inside indent
      exact ih child.weight (weight ▸ lighter) inside child indent rfl
    have resolved : encoder.registry.resolve typeName = other.registry.resolve typeName := by
      unfold Registry.resolve
      rw [agree.lookup? inside]
    rw [Encoder.value, Encoder.value, ← resolved]
    cases looked : encoder.registry.lookup? typeName with
    | none => simp only [Registry.resolve, looked]
    | some found =>
      simp only [Registry.resolve, looked]
      cases found with
      | classType name properties =>
        have refers := agree.closed _ _ inside ((Registry.lookup?_finalSegment _ _).trans looked)
        have alike := agree.entries below name (indent ++ encoder.step) fun property held subType reference =>
          refers subType (mem_references held reference)
        simp only [alike, ← agree.step]
      | enumType => rfl
      | builtIn name => exact agree.builtIn name tree indent

end AgreeOn

/-- Encoders over registries that agree on the footprint of a type. -/
theorem agreeOn_footprint {registry other : Registry} {typeName : String}
    (same : ∀ name, registry.Footprint typeName name → registry.lookup? name = other.lookup? name)
    (indent : Nat) (font : String) :
    AgreeOn (registry.Footprint typeName) (Encoder.mk registry indent font) (Encoder.mk other indent font) :=
  ⟨rfl, rfl, same, registry.isClosed_footprint typeName⟩

end Literal.Encoder

end ViewModel
