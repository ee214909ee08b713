import ViewModel.Proofs.Literal.Encoded
import ViewModel.Proofs.Literal.Resolution

/-!
# References to members

The members of enums that a literal refers to. A property of an enum type has its member looked up among
the items, and one that is none of them is logged. At four places a reference is written unseen: for
elements and roots of an enum type, for fonts that are given, for fonts that are left to the default, and
for enum properties whose type is no enum.

* `Datum.references`: the references of a datum;
* `Declares`: a registry declares the enum and the member among its items;
* `Unchecked`: a reference that is written unseen;
* `mem_references_of_unchecked`, `declared_or_unchecked`: which references these are;
* `silent_references_declared_iff`: an encoding that logs nothing writes declared references only, exactly
  if those that it writes unseen are declared.
-/

namespace ViewModel.Literal

open Schema Attempt

/-- A member of an enum, as it is referred to by the two names. -/
structure Reference where
  enum : String
  member : String

namespace Datum

mutual

/-- The members of enums that a datum refers to. -/
def references : Datum → List Reference
  | .member enum name => [⟨enum, name⟩]
  | .object entries => referencesOfEntries entries
  | .list items => referencesOfItems items
  | .quoted _ | .bare _ | .flag _ | .integer _ | .decimal _ | .command _ => []

def referencesOfEntries : List (String × Datum) → List Reference
  | [] => []
  | (_, datum) :: rest => references datum ++ referencesOfEntries rest

def referencesOfItems : List Datum → List Reference
  | [] => []
  | datum :: rest => references datum ++ referencesOfItems rest

end

theorem not_mem_references_bare (text : String) (reference : Reference) :
    reference ∉ (bare text).references := by
  rw [references]
  exact List.not_mem_nil

theorem referencesOfEntries_eq_flatMap (entries : List (String × Datum)) :
    referencesOfEntries entries = entries.flatMap fun entry => references entry.2 := by
  induction entries with
  | nil => rw [referencesOfEntries, List.flatMap_nil]
  | cons entry rest ih => rw [referencesOfEntries, ih, List.flatMap_cons]

theorem referencesOfItems_eq_flatMap (items : List Datum) :
    referencesOfItems items = items.flatMap references := by
  induction items with
  | nil => rw [referencesOfItems, List.flatMap_nil]
  | cons item rest ih => rw [referencesOfItems, ih, List.flatMap_cons]

end Datum

/-- The registry holds the enum, and the member is one of its items. -/
def Declares (registry : Registry) (reference : Reference) : Prop :=
  ∃ items, .enumType reference.enum items ∈ registry.structures ∧ items.contains reference.member = true

section

variable {registry : Registry} {subType : String}

/-- The members declared under the name of a structure are the items of the enum that it is. -/
theorem declares_iff_of_lookup? (unqualified : '.' ∉ subType.toList) {found : Structure}
    (h : registry.lookup? subType = some found) (member : String) :
    Declares registry ⟨subType, member⟩ ↔
      ∃ items, found = .enumType subType items ∧ items.contains member = true := by
  have plain := TypesModule.finalSegment_of_unqualified unqualified
  constructor
  · rintro ⟨items, mem, listed⟩
    have held := Registry.lookup?_eq_some_iff.2 ⟨mem, plain.symm⟩
    rw [h, Option.some.injEq] at held
    exact ⟨items, held, listed⟩
  · rintro ⟨items, rfl, listed⟩
    exact ⟨items, Registry.mem_structures_of_lookup? h, listed⟩

end

namespace Encoder

variable (encoder : Encoder)

/-- A reference that is written for a tree of the named type with no look at the items of the enum. -/
inductive Unchecked : String → Tree → Reference → Prop
  /-- The tree is itself of an enum type. -/
  | value {typeName name items tree} : encoder.registry.lookup? typeName = some (.enumType name items) →
      Unchecked typeName tree ⟨name, plain tree⟩
  | font {typeName name properties property tree} :
      encoder.registry.lookup? typeName = some (.classType name properties) →
      (property, .font) ∈ properties.entries →
      Unchecked typeName tree
        ⟨TypesModule.fontEnum, ((tree.first? property).map plain).getD encoder.defaultFont⟩
  /-- The type of an enum property is no enum. -/
  | misdirected {typeName name properties property subType found value tree} :
      encoder.registry.lookup? typeName = some (.classType name properties) →
      (property, .enum subType) ∈ properties.entries →
      encoder.registry.lookup? subType = some found → (∀ enum items, found ≠ .enumType enum items) →
      tree.first? property = some value →
      Unchecked typeName tree ⟨subType, plain value⟩
  | object {typeName name properties property subType child reference tree} :
      encoder.registry.lookup? typeName = some (.classType name properties) →
      (property, .object subType) ∈ properties.entries →
      (tree.wrapped (name ++ "." ++ property) (dataTag subType)).head? = some child →
      Unchecked (dataTag subType) child reference → Unchecked typeName tree reference
  | collection {typeName name properties property subType child reference tree} :
      encoder.registry.lookup? typeName = some (.classType name properties) →
      (property, .collection subType) ∈ properties.entries →
      child ∈ tree.wrapped (name ++ "." ++ property) (dataTag subType) →
      Unchecked (dataTag subType) child reference → Unchecked typeName tree reference

variable {encoder} in
theorem Unchecked.known {typeName : String} {tree : Tree} {reference : Reference}
    (h : encoder.Unchecked typeName tree reference) : encoder.registry.lookup? typeName ≠ none := by
  intro unknown
  cases h <;> simp_all

section

variable {typeName name : String} {properties : Table PropertyKind} {property : String} {tree : Tree}
  {reference : Reference}
  (found : encoder.registry.lookup? typeName = some (.classType name properties))
include found

/-- The references of an object are those of its properties. -/
theorem mem_references_object_iff :
    reference ∈ (encoder.datum typeName tree).references ↔
      ∃ entry ∈ properties.entries,
        reference ∈ (encoder.entryDatum name entry.1 tree entry.2).references := by
  rw [datum, found]
  dsimp only
  rw [Datum.references, Datum.referencesOfEntries_eq_flatMap, List.flatMap_map, List.mem_flatMap]

end

/-- A reference that is written unseen is one of those that are written. -/
theorem mem_references_of_unchecked {typeName : String} {tree : Tree} {reference : Reference}
    (h : encoder.Unchecked typeName tree reference) :
    reference ∈ (encoder.datum typeName tree).references := by
  induction h with
  | value found =>
    rw [datum, found]
    dsimp only
    rw [Datum.references]
    exact List.mem_singleton_self _
  | font found mem =>
    apply (encoder.mem_references_object_iff found).2
    refine ⟨_, mem, ?_⟩
    rw [entryDatum, Datum.references]
    exact List.mem_singleton_self _
  | misdirected found mem resolved other given =>
    apply (encoder.mem_references_object_iff found).2
    refine ⟨_, mem, ?_⟩
    rw [entryDatum, given, resolved]
    dsimp only
    rw [Datum.references]
    exact List.mem_singleton_self _
  | object found mem held inner ih =>
    apply (encoder.mem_references_object_iff found).2
    refine ⟨_, mem, ?_⟩
    rw [entryDatum_object, held]
    dsimp only
    rw [if_pos (Option.isSome_iff_ne_none.2 inner.known)]
    exact ih
  | collection found mem held inner ih =>
    apply (encoder.mem_references_object_iff found).2
    refine ⟨_, mem, ?_⟩
    rw [entryDatum_collection, if_pos ⟨List.ne_nil_of_mem held, inner.known⟩, Datum.references,
      Datum.referencesOfItems_eq_flatMap, List.flatMap_map]
    exact List.mem_flatMap.2 ⟨_, held, ih⟩

/-- References of a tree below that weighs less than the bound, and is encoded without a warning, are
declared or unchecked. -/
def VouchedBelow (bound : Nat) : Prop :=
  ∀ child : Tree, child.isTextual = true → child.weight < bound →
    ∀ typeName indent, encoder.registry.lookup? typeName ≠ none →
      ¬ (encoder.value typeName child indent).Warns →
      ∀ reference ∈ (encoder.datum typeName child).references,
        Declares encoder.registry reference ∨ encoder.Unchecked typeName child reference

section

variable {typeName name : String} {properties : Table PropertyKind} {property : String} {tree : Tree}
  {indent : String} {reference : Reference}
  (found : encoder.registry.lookup? typeName = some (.classType name properties))
  (textual : tree.isTextual = true)
include found textual

/-- The member of an enum property is looked up unless the type is no enum. -/
theorem vouched_enum {subType : String} (unqualified : '.' ∉ subType.toList)
    (mem : (property, .enum subType) ∈ properties.entries)
    (silent : ¬ (encoder.entry ⟨name, property, tree, indent⟩ (.enum subType)).Warns)
    (written : reference ∈ (encoder.entryDatum name property tree (.enum subType)).references) :
    Declares encoder.registry reference ∨ encoder.Unchecked typeName tree reference := by
  have given : (Slot.mk name property tree indent).given? = tree.first? property := rfl
  rw [entry, enumEntry_of_textual encoder textual, given] at silent
  rw [entryDatum] at written
  cases value : tree.first? property with
  | none =>
    rw [value] at written
    exact absurd written (Datum.not_mem_references_bare _ _)
  | some value' =>
    rw [value] at written silent
    cases resolved : encoder.registry.lookup? subType with
    | none =>
      rw [resolved] at written
      exact absurd written (Datum.not_mem_references_bare _ _)
    | some referred =>
      rw [resolved] at written silent
      dsimp only at written silent
      rw [Datum.references, List.mem_singleton] at written
      subst written
      by_cases isEnum : ∃ enum items, referred = .enumType enum items
      · obtain ⟨enum, items, rfl⟩ := isEnum
        have named : enum = subType := by
          have same := (Registry.lookup?_eq_some_iff.1 resolved).2
          exact same.trans (TypesModule.finalSegment_of_unqualified unqualified)
        have listed : items.contains (plain value') = true := by
          by_contra outside
          apply silent
          rw [Bool.not_eq_true] at outside
          dsimp only
          rw [outside]
          exact warns_warn _ _
        have declared := declares_iff_of_lookup? unqualified resolved (plain value')
        exact .inl (declared.2 ⟨items, by rw [named], listed⟩)
      · have other : ∀ enum items, referred ≠ .enumType enum items := by
          intro enum items same
          exact isEnum ⟨enum, items, same⟩
        exact .inr (.misdirected found mem resolved other value)

/-- References of a property that is encoded without a warning are declared or unchecked. -/
theorem vouched_entry {kind : PropertyKind} (below : encoder.VouchedBelow tree.weight)
    (unqualified : ∀ subType, kind.reference? = some subType → '.' ∉ subType.toList)
    (mem : (property, kind) ∈ properties.entries)
    (silent : ¬ (encoder.entry ⟨name, property, tree, indent⟩ kind).Warns)
    (written : reference ∈ (encoder.entryDatum name property tree kind).references) :
    Declares encoder.registry reference ∨ encoder.Unchecked typeName tree reference := by
  cases kind with
  | enum subType => exact encoder.vouched_enum found textual (unqualified subType rfl) mem silent written
  | font =>
    rw [entryDatum, Datum.references, List.mem_singleton] at written
    subst written
    exact .inr (.font found mem)
  | object subType =>
    rw [entryDatum_object] at written
    cases held : (tree.wrapped (name ++ "." ++ property) (dataTag subType)).head? with
    | none =>
      rw [held] at written
      exact absurd written (Datum.not_mem_references_bare _ _)
    | some child =>
      rw [held] at written
      dsimp only at written
      by_cases known : encoder.registry.lookup? (dataTag subType) = none
      · rw [known, Option.isSome_none, if_neg Bool.false_ne_true] at written
        exact absurd written (Datum.not_mem_references_bare _ _)
      · rw [if_pos (Option.isSome_iff_ne_none.2 known)] at written
        rw [encoder.entry_object_of_known ⟨name, property, tree, indent⟩ textual held known] at silent
        have inside := List.mem_of_mem_head? held
        have inner := Tree.textual_of_mem_wrapped textual inside
        have vouched := below child inner (Tree.weight_lt_of_mem_wrapped inside) _ _ known silent _ written
        exact vouched.imp_right fun unseen => .object found mem held unseen
  | collection subType =>
    rw [entryDatum_collection] at written
    by_cases given : tree.wrapped (name ++ "." ++ property) (dataTag subType) ≠ [] ∧
        encoder.registry.lookup? (dataTag subType) ≠ none
    · obtain ⟨filled, known⟩ := given
      rw [if_pos ⟨filled, known⟩, Datum.references, Datum.referencesOfItems_eq_flatMap,
        List.flatMap_map] at written
      obtain ⟨child, inside, written⟩ := List.mem_flatMap.1 written
      have inner := Tree.textual_of_mem_wrapped textual inside
      have quiet : ¬ (encoder.value (dataTag subType) child (indent ++ encoder.step)).Warns := by
        intro warns
        exact silent (encoder.entry_warns_of_item ⟨name, property, tree, indent⟩ textual inside known
          warns)
      have vouched := below child inner (Tree.weight_lt_of_mem_wrapped inside) _ _ known quiet _ written
      exact vouched.imp_right fun unseen => .collection found mem inside unseen
    · rw [if_neg given] at written
      exact absurd written (Datum.not_mem_references_bare _ _)
  | number =>
    rw [entryDatum] at written
    split at written <;> (rw [Datum.references] at written; cases written)
  | boolean =>
    rw [entryDatum] at written
    split at written <;> (rw [Datum.references] at written; cases written)
  | image | brush | command =>
    rw [entryDatum] at written
    split at written <;> (rw [Datum.references] at written; cases written)
  | string =>
    rw [entryDatum, Datum.references] at written
    cases written

end

theorem references_builtInDatum (name : String) (tree : Tree) : (builtInDatum name tree).references = [] := by
  unfold builtInDatum
  split <;> rw [Datum.references]

/-- Without a warning every reference is declared or written unseen. -/
theorem declared_or_unchecked (loaded : encoder.registry.IsLoaded) {typeName : String} {tree : Tree}
    (textual : tree.isTextual = true) (known : encoder.registry.lookup? typeName ≠ none) (indent : String)
    (silent : ¬ (encoder.value typeName tree indent).Warns) :
    ∀ reference ∈ (encoder.datum typeName tree).references,
      Declares encoder.registry reference ∨ encoder.Unchecked typeName tree reference := by
  -- By weight and for all types at once, as trees settle.
  induction weight : tree.weight using Nat.strongRecOn generalizing tree typeName indent with
  | ind bound ih =>
    have below : encoder.VouchedBelow tree.weight := by
      intro child inner lighter typeName indent known silent
      exact ih child.weight (weight ▸ lighter) inner known indent silent rfl
    intro reference written
    cases found : encoder.registry.lookup? typeName with
    | none => exact absurd found known
    | some referred =>
      cases referred with
      | classType name properties =>
        obtain ⟨⟨property, kind⟩, mem, written⟩ := (encoder.mem_references_object_iff found).1 written
        have quiet : ¬ (encoder.entry ⟨name, property, tree, indent ++ encoder.step⟩ kind).Warns := by
          intro warns
          exact silent (encoder.value_warns_of_entry textual found mem warns)
        have unqualified : ∀ subType, kind.reference? = some subType → '.' ∉ subType.toList := by
          intro subType refers
          apply loaded.unqualified _ (Registry.mem_structures_of_lookup? found)
          exact List.mem_filterMap.2 ⟨_, mem, refers⟩
        exact encoder.vouched_entry found textual below unqualified mem quiet written
      | enumType name items =>
        rw [datum, found] at written
        dsimp only at written
        rw [Datum.references, List.mem_singleton] at written
        subst written
        exact .inr (.value found)
      | builtIn name =>
        rw [datum, found] at written
        dsimp only at written
        rw [references_builtInDatum] at written
        cases written

/-- **References of a silent encoding.** What is written is the layout of a datum. If nothing was logged at
the level of a warning or above, then all members that it refers to are declared exactly if those are that
were written unseen. -/
theorem silent_references_declared_iff {sources : List Source}
    (loaded : (load sources).outcome = .ok encoder.registry) {typeName : String} {tree : Tree}
    (textual : tree.isTextual = true) (known : encoder.registry.lookup? typeName ≠ none) :
    (encoder.encode typeName tree).outcome = .ok ((encoder.datum typeName tree).layout encoder.step "") ∧
      (¬ (encoder.encode typeName tree).Warns →
        ((∀ reference ∈ (encoder.datum typeName tree).references, Declares encoder.registry reference) ↔
          ∀ reference, encoder.Unchecked typeName tree reference → Declares encoder.registry reference)) := by
  refine ⟨encoder.outcome_value_eq_layout textual known "", ?_⟩
  intro silent
  constructor
  · intro declared reference unseen
    exact declared reference (encoder.mem_references_of_unchecked unseen)
  · intro declared reference written
    have vouched := encoder.declared_or_unchecked (isLoaded_of_load loaded) textual known "" silent
    exact (vouched reference written).elim id (declared reference)

def posterSource : Source :=
  ⟨"poster.xml", "Class", .element [
    ("Name", .list [.text "Poster"]),
    ("Property", .list [
      .element [("Name", .list [.text "Face"]), ("Type", .list [.text "Object"]),
        ("SubType", .list [.text "FontFamily"])],
      .element [("Name", .list [.text "Shown"]), ("Type", .list [.text "Enum"]),
        ("SubType", .list [.text "Visibility"])]])]⟩

def posterProperties : Table PropertyKind := Table.ofList [("Face", .font), ("Shown", .enum "Visibility")]

def posterRegistry : Registry := Registry.empty.seed.add (.classType "Poster" posterProperties)

def poster : Tree := .element [("Shown", .list [.text "Hidden"])]

/-- What is written for the poster refers to the default font, and to a member of the enum. -/
theorem references_poster (font : String) :
    ((Encoder.mk posterRegistry 2 font).datum "Poster" poster).references =
      [⟨"FontFamily", font⟩, ⟨"Visibility", "Hidden"⟩] := by
  have found : posterRegistry.lookup? "Poster" = some (.classType "Poster" posterProperties) := rfl
  have entries : posterProperties.entries = [("Face", .font), ("Shown", .enum "Visibility")] := rfl
  rw [datum, found]
  dsimp only
  rw [entries, Datum.references, Datum.referencesOfEntries_eq_flatMap, List.map_cons, List.map_singleton,
    entryDatum, entryDatum]
  rfl

/-- Nothing is logged for the poster. -/
theorem silent_poster (font : String) :
    ¬ ((Encoder.mk posterRegistry 2 font).encode "Poster" poster).Warns := by
  have found : posterRegistry.lookup? "Poster" = some (.classType "Poster" posterProperties) := rfl
  have entries : posterProperties.entries = [("Face", .font), ("Shown", .enum "Visibility")] := rfl
  rw [encode, value_of_classType _ found, entries_eq_mapM, entries]
  simp only [List.mapM_cons, List.mapM_nil, entry]
  rintro ⟨record, mem, -⟩
  cases mem

/-- The default font of the poster is declared or not, and that decides over all that the poster refers to. -/
theorem silent_references_declared_poster :
    (load [posterSource]).outcome = .ok posterRegistry ∧
      (∀ reference, (Encoder.mk posterRegistry 2 "Bangers").Unchecked "Poster" poster reference →
        Declares posterRegistry reference) ∧
      ¬ ∀ reference ∈ ((Encoder.mk posterRegistry 2 "Comic").datum "Poster" poster).references,
        Declares posterRegistry reference := by
  have loaded : (load [posterSource]).outcome = .ok posterRegistry := rfl
  have textual : poster.isTextual = true := rfl
  have known : posterRegistry.lookup? "Poster" ≠ none := nofun
  obtain ⟨-, declared⟩ := silent_references_declared_iff ⟨posterRegistry, 2, "Bangers"⟩ loaded textual known
  obtain ⟨-, undeclared⟩ := silent_references_declared_iff ⟨posterRegistry, 2, "Comic"⟩ loaded textual known
  have shown : Declares posterRegistry ⟨"Visibility", "Hidden"⟩ :=
    (declares_iff_of_lookup? (by decide) rfl _).2 ⟨_, rfl, by decide⟩
  have bangers : Declares posterRegistry ⟨"FontFamily", "Bangers"⟩ :=
    (declares_iff_of_lookup? (by decide) rfl _).2 ⟨_, rfl, by decide⟩
  have comic : ¬ Declares posterRegistry ⟨"FontFamily", "Comic"⟩ := by
    rw [declares_iff_of_lookup? (by decide) rfl]
    rintro ⟨items, same, listed⟩
    cases same
    exact absurd listed (by decide)
  refine ⟨loaded, (declared (silent_poster _)).1 ?_, fun all => comic ?_⟩
  · rw [references_poster]
    simp only [List.forall_mem_cons]
    exact ⟨bangers, shown, nofun⟩
  · have face : ("Face", PropertyKind.font) ∈ posterProperties.entries := List.mem_cons_self
    exact (undeclared (silent_poster _)).1 all _ (.font rfl face)

/-- A root of an enum type is written with no look at the items, and nothing is logged. -/
theorem unlisted_member_written :
    (load []).outcome = .ok Registry.empty.seed ∧
      (Encoder.mk Registry.empty.seed 2 "Bangers").encode "Visibility" (.text "Nope") =
        pure "Visibility.Nope" ∧
      ¬ Declares Registry.empty.seed ⟨"Visibility", "Nope"⟩ := by
  have found : Registry.empty.seed.lookup? "Visibility" =
      some (.enumType "Visibility" (Table.ofList [("Collapsed", 0), ("Visible", 1), ("Hidden", 2)])) := rfl
  refine ⟨rfl, ?_, ?_⟩
  · rw [encode, value_of_enumType _ found]
    rfl
  · rw [declares_iff_of_lookup? (by decide) found]
    rintro ⟨items, same, listed⟩
    cases same
    exact absurd listed (by decide)

end Encoder

end ViewModel.Literal
