import ViewModel.Proofs.Literal.Children
import ViewModel.Proofs.Literal.Datum

/-!
# The datum that is written for a tree

What the encoder writes is the layout of a datum, whether the tree conforms to its type or not: where
something is missing or of no use, the datum holds the default of the kind.

* `datum`, `entryDatum`: the datum of a tree and of a property;
* `outcome_entry_eq_layout`, `outcome_value_eq_layout`: the encoder writes its layout.
-/

namespace ViewModel.Literal

open Schema Attempt

namespace Datum

theorem layoutEntries_eq_map (step : String) (entries : List (String × Datum)) (indent : String) :
    layoutEntries step entries indent =
      entries.map fun entry => indent ++ entry.1 ++ ": " ++ layout step entry.2 indent ++ "," := by
  induction entries with
  | nil => rw [layoutEntries, List.map_nil]
  | cons entry rest ih => rw [layoutEntries, ih, List.map_cons]

theorem layoutItems_eq_map (step : String) (items : List Datum) (indent : String) :
    layoutItems step items indent = items.map fun item => indent ++ layout step item indent ++ "," := by
  induction items with
  | nil => rw [layoutItems, List.map_nil]
  | cons item rest ih => rw [layoutItems, ih, List.map_cons]

end Datum

namespace Encoder

variable (encoder : Encoder)

def builtInDatum (name : String) (tree : Tree) : Datum :=
  match name with
  | "Single" | "Boolean" => .bare (plain tree.scalar)
  | "Color" => .bare (plain tree)
  | "String" => .quoted (plain tree)
  | "BitmapImage" => .quoted (((tree.first? "UriSource").bind imagePath?).getD "")
  | "SolidColorBrush" => .quoted (((tree.first? "Color").map plain).getD "")
  | "MessageCommand" => .command (messageOf tree)
  | _ => .bare ""

mutual

/-- The datum that is written for a tree of the named type. -/
def datum (encoder : Encoder) (typeName : String) (tree : Tree) : Datum :=
  match encoder.registry.lookup? typeName with
  | some (.classType name properties) =>
    .object (properties.entries.map fun property =>
      (property.1, encoder.entryDatum name property.1 tree property.2))
  | some (.enumType name _) => .member name (plain tree)
  | some (.builtIn name) => builtInDatum name tree
  | none => .bare ""
termination_by (tree.weight, 1)

/-- The datum that is written for a property of an object of the named class. -/
def entryDatum (encoder : Encoder) (name property : String) (tree : Tree) : PropertyKind → Datum
  | .string .. => .quoted (((tree.first? property).map plain).getD "")
  | .number .. =>
    match (tree.first? property).map Tree.scalar with
    | some (.integer n) => .integer n
    | some (.decimal x) => .decimal x
    | _ => .integer 0
  | .boolean =>
    match (tree.first? property).map Tree.scalar with
    | some (.flag value) => .flag value
    | _ => .flag false
  | .enum subType =>
    match tree.first? property, encoder.registry.lookup? subType with
    | some value, some _ => .member subType (plain value)
    | _, _ => .bare (encoder.placeholder subType)
  | .font => .member TypesModule.fontEnum (((tree.first? property).map plain).getD encoder.defaultFont)
  | .image _ =>
    match tree.first? property with
    | some source => .quoted ((imagePath? source).getD "")
    | none => .quoted ((((tree.wrapped (name ++ "." ++ property) "BitmapImage").head?.bind
        (·.first? "UriSource")).bind imagePath?).getD "")
  | .brush =>
    match tree.first? property with
    | some color => .quoted (plain color)
    | none => .quoted ((((tree.wrapped (name ++ "." ++ property) "SolidColorBrush").head?.bind
        (·.first? "Color")).map plain).getD "")
  | .command =>
    match (tree.wrapped (name ++ "." ++ property) "MessageCommand").head? with
    | some command => .command (messageOf command)
    | none =>
      .bare (if (tree.first? (name ++ "." ++ property)).isSome then commandNotRecognized else commandNotDefined)
  | .object subType =>
    match _ : (tree.wrapped (name ++ "." ++ property) (dataTag subType)).head? with
    | some child =>
      if (encoder.registry.lookup? (dataTag subType)).isSome then encoder.datum (dataTag subType) child
      else .bare (encoder.placeholder subType)
    | none => .bare (encoder.placeholder subType)
  | .collection subType =>
    let items := (tree.wrapped (name ++ "." ++ property) (dataTag subType)).attach.map fun child =>
      encoder.datum (dataTag subType) child.1
    if !items.isEmpty && (encoder.registry.lookup? (dataTag subType)).isSome then .list items
    else .bare "[]"
termination_by (tree.weight, 0)
decreasing_by
  · rename_i held _
    have lighter := Tree.weight_lt_of_mem_wrapped (List.mem_of_mem_head? held)
    simp only [Prod.lex_def]
    omega
  · have lighter := Tree.weight_lt_of_mem_wrapped child.2
    simp only [Prod.lex_def]
    omega

end

theorem entryDatum_object (name property : String) (tree : Tree) (subType : String) :
    encoder.entryDatum name property tree (.object subType) =
      match (tree.wrapped (name ++ "." ++ property) (dataTag subType)).head? with
      | some child =>
        if (encoder.registry.lookup? (dataTag subType)).isSome then encoder.datum (dataTag subType) child
        else .bare (encoder.placeholder subType)
      | none => .bare (encoder.placeholder subType) := by
  rw [entryDatum]
  split <;> rename_i held <;> simp only [held]

theorem entryDatum_collection (name property : String) (tree : Tree) (subType : String) :
    encoder.entryDatum name property tree (.collection subType) =
      if tree.wrapped (name ++ "." ++ property) (dataTag subType) ≠ [] ∧
          encoder.registry.lookup? (dataTag subType) ≠ none then
        .list ((tree.wrapped (name ++ "." ++ property) (dataTag subType)).map
          (encoder.datum (dataTag subType)))
      else .bare "[]" := by
  have items := List.attach_map_val (l := tree.wrapped (name ++ "." ++ property) (dataTag subType))
    (f := encoder.datum (dataTag subType))
  rw [entryDatum]
  simp only [items]
  congr 1
  simp [Option.isSome_iff_ne_none]

theorem outcome_builtIn_eq_layout {name : String} {tree : Tree} (textual : tree.isTextual = true)
    (indent : String) :
    (encoder.builtIn name tree indent).outcome = .ok ((builtInDatum name tree).layout encoder.step indent) := by
  by_cases listed : name ∈ Registry.builtInTypes
  · simp only [Registry.builtInTypes, List.mem_cons, List.not_mem_nil, or_false] at listed
    rcases listed with rfl | rfl | rfl | rfl | rfl | rfl | rfl
    · rw [builtInDatum, Datum.layout]
      rfl
    · rw [builtInDatum, Datum.layout]
      rfl
    · rw [builtInDatum, Datum.layout]
      rfl
    · rw [builtInDatum, Datum.layout]
      rfl
    · rw [builtIn_bitmapImage encoder textual, builtInDatum, Datum.layout]
      cases (tree.first? "UriSource").bind imagePath? <;> rfl
    · rw [builtIn_solidColorBrush encoder textual, builtInDatum, Datum.layout]
      cases tree.first? "Color" <;> rfl
    · rw [builtIn_messageCommand encoder textual, builtInDatum, Datum.layout]
      rfl
  · rw [builtIn_unknown encoder listed]
    simp only [Registry.builtInTypes, List.mem_cons, List.not_mem_nil, or_false, not_or] at listed
    obtain ⟨single, boolean, string, color, bitmap, brush, command⟩ := listed
    unfold builtInDatum
    split <;> first | contradiction | rw [Datum.layout]; rfl

theorem imageText_eq (path? : Option String) : imageText path? = quote (path?.getD "") := by
  cases path? <;> rfl

theorem brushText_eq (color? : Option Tree) : brushText color? = quote ((color?.map plain).getD "") := by
  cases color? <;> rfl

/-- Every tree of a known type that weighs less than the bound is written as the layout of its datum. -/
def LaidOutBelow (bound : Nat) : Prop :=
  ∀ child : Tree, child.isTextual = true → child.weight < bound →
    ∀ typeName indent, encoder.registry.lookup? typeName ≠ none →
      (encoder.value typeName child indent).outcome =
        .ok ((encoder.datum typeName child).layout encoder.step indent)

section

variable {name property : String} {tree : Tree} {indent : String} (textual : tree.isTextual = true)
  (below : encoder.LaidOutBelow tree.weight)
include textual below

theorem outcome_object_eq_layout (subType : String) :
    (encoder.entry ⟨name, property, tree, indent⟩ (.object subType)).outcome =
      .ok ((encoder.entryDatum name property tree (.object subType)).layout encoder.step indent) := by
  let slot : Slot := ⟨name, property, tree, indent⟩
  have unresolved := @outcome_object_of_unknown encoder slot textual subType
  rw [entryDatum_object]
  cases found : (tree.wrapped (name ++ "." ++ property) (dataTag subType)).head? with
  | none =>
    dsimp only
    rw [unresolved (.inl found), Datum.layout]
  | some child =>
    dsimp only
    by_cases known : encoder.registry.lookup? (dataTag subType) = none
    · rw [unresolved (.inr known), known, Option.isSome_none, if_neg Bool.false_ne_true, Datum.layout]
    · have mem := List.mem_of_mem_head? found
      have inner := Tree.textual_of_mem_wrapped textual mem
      have written := below child inner (Tree.weight_lt_of_mem_wrapped mem) (dataTag subType) indent known
      rw [if_pos (Option.isSome_iff_ne_none.2 known), ← written]
      exact congrArg Attempt.outcome (encoder.entry_object_of_known slot textual found known)

theorem outcome_collection_eq_layout (subType : String) :
    (encoder.entry ⟨name, property, tree, indent⟩ (.collection subType)).outcome =
      .ok ((encoder.entryDatum name property tree (.collection subType)).layout encoder.step indent) := by
  rw [entryDatum_collection]
  by_cases given : tree.wrapped (name ++ "." ++ property) (dataTag subType) ≠ [] ∧
      encoder.registry.lookup? (dataTag subType) ≠ none
  · obtain ⟨filled, known⟩ := given
    have each : ∀ child ∈ tree.wrapped (name ++ "." ++ property) (dataTag subType),
        (encoder.value (dataTag subType) child (indent ++ encoder.step)).outcome =
          .ok ((encoder.datum (dataTag subType) child).layout encoder.step (indent ++ encoder.step)) := by
      intro child mem
      have inner := Tree.textual_of_mem_wrapped textual mem
      exact below child inner (Tree.weight_lt_of_mem_wrapped mem) _ _ known
    have written := encoder.outcome_collection_of_children ⟨name, property, tree, indent⟩ textual filled known each
    rw [written, if_pos ⟨filled, known⟩, Datum.layout, Datum.layoutItems_eq_map, List.map_map]
    rfl
  · rw [if_neg given, Datum.layout]
    rw [not_and_or, not_not, not_not] at given
    exact encoder.outcome_collection_of_unknown ⟨name, property, tree, indent⟩ textual given

/-- What is written for a property is the layout of its datum. -/
theorem outcome_entry_eq_layout (kind : PropertyKind) :
    (encoder.entry ⟨name, property, tree, indent⟩ kind).outcome =
      .ok ((encoder.entryDatum name property tree kind).layout encoder.step indent) := by
  have given : (Slot.mk name property tree indent).given? = tree.first? property := rfl
  have wrapping : (Slot.mk name property tree indent).wrapping? = tree.first? (name ++ "." ++ property) := rfl
  cases kind with
  | object subType => exact encoder.outcome_object_eq_layout textual below subType
  | collection subType => exact encoder.outcome_collection_eq_layout textual below subType
  | string =>
    rw [entry, stringEntry_of_textual textual, given, entryDatum, Datum.layout]
    cases tree.first? property <;> rfl
  | number =>
    rw [entry, numberEntry_of_textual textual, given, entryDatum]
    cases (tree.first? property).map Tree.scalar with
    | none => rw [Datum.layout]; rfl
    | some value => cases value <;> (rw [Datum.layout]; rfl)
  | boolean =>
    rw [entry, booleanEntry_of_textual textual, given, entryDatum]
    cases (tree.first? property).map Tree.scalar with
    | none => rw [Datum.layout]; rfl
    | some value => cases value <;> (rw [Datum.layout]; rfl)
  | enum subType =>
    rw [entry, enumEntry_of_textual encoder textual, given, entryDatum]
    cases tree.first? property with
    | none => rw [Datum.layout]; rfl
    | some value =>
      cases encoder.registry.lookup? subType with
      | none => rw [Datum.layout]; rfl
      | some found =>
        rw [Datum.layout]
        cases found with
        | enumType _ items =>
          dsimp only
          cases items.contains (plain value) <;> rfl
        | classType | builtIn => rfl
  | font =>
    rw [entry, fontEntry_of_textual encoder textual, given, entryDatum, Datum.layout]
    cases tree.first? property <;> rfl
  | image =>
    rw [entry, outcome_imageEntry encoder textual, given, entryDatum]
    cases tree.first? property with
    | some source =>
      dsimp only
      rw [imageText_eq, Datum.layout]
    | none =>
      dsimp only
      rw [imageText_eq, Datum.layout]
      rfl
  | brush =>
    rw [entry, outcome_brushEntry encoder textual, given, entryDatum]
    cases tree.first? property with
    | some color =>
      dsimp only
      rw [brushText_eq, Datum.layout]
      rfl
    | none =>
      dsimp only
      rw [brushText_eq, Datum.layout]
      rfl
  | command =>
    rw [entry, outcome_commandEntry encoder textual, wrapping, entryDatum]
    cases found : (tree.wrapped (name ++ "." ++ property) "MessageCommand").head? with
    | some command =>
      have held : (tree.first? (name ++ "." ++ property)).isSome = true := by
        cases held : tree.first? (name ++ "." ++ property) with
        | some => rfl
        | none => rw [Tree.wrapped, held] at found; cases found
      rw [held]
      dsimp only [Slot.wrapper]
      rw [found, Datum.layout]
      rfl
    | none =>
      cases held : (tree.first? (name ++ "." ++ property)).isSome with
      | false =>
        rw [Datum.layout]
        rfl
      | true =>
        dsimp only [Slot.wrapper]
        rw [found, Datum.layout]
        rfl

end

/-- What is written for a tree of a known type is the layout of its datum. -/
theorem outcome_value_eq_layout {tree : Tree} (textual : tree.isTextual = true) {typeName : String}
    (known : encoder.registry.lookup? typeName ≠ none) (indent : String) :
    (encoder.value typeName tree indent).outcome =
      .ok ((encoder.datum typeName tree).layout encoder.step indent) := by
  -- By weight and for all types at once, as trees settle.
  induction weight : tree.weight using Nat.strongRecOn generalizing tree typeName indent with
  | ind bound ih =>
    have below : encoder.LaidOutBelow tree.weight := by
      intro child inner lighter typeName indent known
      exact ih child.weight (weight ▸ lighter) inner known indent rfl
    rw [datum]
    cases found : encoder.registry.lookup? typeName with
    | none => exact absurd found known
    | some referred =>
      cases referred with
      | classType name properties =>
        have each : ∀ property ∈ properties.entries,
            (encoder.entry ⟨name, property.1, tree, indent ++ encoder.step⟩ property.2).outcome =
              .ok ((encoder.entryDatum name property.1 tree property.2).layout encoder.step
                (indent ++ encoder.step)) :=
          fun property _ => encoder.outcome_entry_eq_layout textual below property.2
        rw [encoder.outcome_value_of_entries found each]
        dsimp only
        rw [Datum.layout, Datum.layoutEntries_eq_map, List.map_map]
        rfl
      | enumType name items =>
        rw [value_of_enumType encoder found]
        dsimp only
        rw [Datum.layout, outcome_pure]
      | builtIn name =>
        rw [value_of_builtIn encoder found]
        exact encoder.outcome_builtIn_eq_layout textual indent

end Encoder

end ViewModel.Literal
