import ViewModel.Proofs.Lines
import ViewModel.Proofs.Literal.Children
import ViewModel.Proofs.Literal.Footprint

/-!
# The placeholders of a literal

A literal is a sequence of pieces: text, and at any depth the placeholders of enums and objects that are not
given. What is written for a property that refers to no type is text.

* `pieces`, `entryPieces`: the pieces of a tree and of a property;
* `outcome_value_eq_spelled`: the pieces spell what the encoder writes;
* `refers_of_placeholder`: every placeholder is of a type that some class refers to.
-/

namespace ViewModel.Literal

open Schema

/-- A piece of a literal: text, or the placeholder of a sub-type. -/
inductive Piece
  | text (written : String)
  | placeholder (subType : String)

/-- The sub-types of the placeholders among the pieces, in order. -/
def placeholders (pieces : List Piece) : List String :=
  pieces.filterMap fun
    | .text _ => none
    | .placeholder subType => some subType

def entryLine (before : String) (pieces : List Piece) : List Piece := .text before :: pieces ++ [.text ","]

/-- Lines between a first and a last one. -/
def framed (first last : String) (lines : List (List Piece)) : List Piece :=
  .text first :: lines.flatMap (fun line => .text "\n" :: line) ++ [.text "\n", .text last]

/-- The text of an attempt that succeeds. -/
def textOf (attempt : Attempt EncodeError String) : String := attempt.outcome.toOption.getD ""

/-- Some structure of the registry refers to the type. -/
def Refers (registry : Registry) (subType : String) : Prop :=
  ∃ found ∈ registry.structures, subType ∈ found.references

namespace Encoder

variable (encoder : Encoder)

def spell : Piece → String
  | .text written => written
  | .placeholder subType => encoder.placeholder subType

def spelled (pieces : List Piece) : String := String.join (pieces.map encoder.spell)

mutual

/-- The pieces of a tree's literal as a value of the named type. -/
def pieces (encoder : Encoder) (typeName : String) (tree : Tree) (indent : String) : List Piece :=
  match encoder.registry.lookup? typeName with
  | some (.classType name properties) =>
    framed "\x7b" (indent ++ "\x7d") (properties.entries.map fun property =>
      entryLine (indent ++ encoder.step ++ property.1 ++ ": ")
        (encoder.entryPieces ⟨name, property.1, tree, indent ++ encoder.step⟩ property.2))
  | _ => [.text (textOf (encoder.value typeName tree indent))]
termination_by (tree.weight, 1)

/-- The pieces of what is written for a property. -/
def entryPieces (encoder : Encoder) (slot : Slot) : PropertyKind → List Piece
  | .enum subType =>
    if slot.given?.isSome && (encoder.registry.lookup? subType).isSome then
      [.text (textOf (encoder.enumEntry slot subType))]
    else [.placeholder subType]
  | .object subType =>
    match _ : (slot.tree.wrapped slot.wrapper (dataTag subType)).head? with
    | some child =>
      if (encoder.registry.lookup? (dataTag subType)).isSome then
        encoder.pieces (dataTag subType) child slot.indent
      else [.placeholder subType]
    | none => [.placeholder subType]
  | .collection subType =>
    let inner := slot.indent ++ encoder.step
    let items := (slot.tree.wrapped slot.wrapper (dataTag subType)).attach.map fun child =>
      encoder.pieces (dataTag subType) child.1 inner
    if !items.isEmpty && (encoder.registry.lookup? (dataTag subType)).isSome then
      framed "[" (slot.indent ++ "]") (items.map (entryLine inner))
    else [.text "[]"]
  | kind => [.text (textOf (encoder.entry slot kind))]
termination_by (slot.tree.weight, 0)
decreasing_by
  · rename_i held _
    have lighter := Tree.weight_lt_of_mem_wrapped (List.mem_of_mem_head? held)
    simp only [Prod.lex_def]
    omega
  · have lighter := Tree.weight_lt_of_mem_wrapped child.2
    simp only [Prod.lex_def]
    omega

end

theorem entryPieces_object (slot : Slot) (subType : String) :
    encoder.entryPieces slot (.object subType) =
      match (slot.tree.wrapped slot.wrapper (dataTag subType)).head? with
      | some child =>
        if (encoder.registry.lookup? (dataTag subType)).isSome then
          encoder.pieces (dataTag subType) child slot.indent
        else [.placeholder subType]
      | none => [.placeholder subType] := by
  rw [entryPieces]
  split <;> rename_i held <;> simp only [held]

theorem entryPieces_collection (slot : Slot) (subType : String) :
    encoder.entryPieces slot (.collection subType) =
      if slot.tree.wrapped slot.wrapper (dataTag subType) ≠ [] ∧
          encoder.registry.lookup? (dataTag subType) ≠ none then
        framed "[" (slot.indent ++ "]") ((slot.tree.wrapped slot.wrapper (dataTag subType)).map fun child =>
          entryLine (slot.indent ++ encoder.step)
            (encoder.pieces (dataTag subType) child (slot.indent ++ encoder.step)))
      else [.text "[]"] := by
  have items := List.attach_map_val (l := slot.tree.wrapped slot.wrapper (dataTag subType))
    (f := fun child => encoder.pieces (dataTag subType) child (slot.indent ++ encoder.step))
  rw [entryPieces]
  simp only [items, List.map_map, Function.comp_def]
  congr 1
  simp [Option.isSome_iff_ne_none]

/-- What is written for a property that refers to no type is text. -/
theorem entryPieces_of_scalar (slot : Slot) {kind : PropertyKind} (scalar : kind.reference? = none) :
    encoder.entryPieces slot kind = [.text (textOf (encoder.entry slot kind))] := by
  cases kind with
  | enum | object | collection => cases scalar
  | boolean | command | brush | font | string | number | image =>
    rw [entryPieces]
    -- What is left is that the kind is none of the three that refer to a type.
    all_goals
      intro subType same
      cases same

section

variable (pieces : List Piece)

theorem toList_spelled :
    (encoder.spelled pieces).toList = pieces.flatMap fun piece => (encoder.spell piece).toList := by
  rw [spelled, String.toList_join, List.flatMap_map]

theorem spelled_text (written : String) : encoder.spelled [.text written] = written := by
  simp [spelled, spell, String.join]

theorem spelled_placeholder (subType : String) :
    encoder.spelled [.placeholder subType] = encoder.placeholder subType := by
  simp [spelled, spell, String.join]

theorem spelled_entryLine (before : String) :
    encoder.spelled (entryLine before pieces) = before ++ encoder.spelled pieces ++ "," := by
  apply String.toList_injective
  simp only [toList_spelled, entryLine, String.toList_append, List.cons_append, List.flatMap_cons,
    List.flatMap_append, List.flatMap_nil, List.append_nil, List.append_assoc]
  rfl

theorem spelled_framed (first last : String) (lines : List (List Piece)) :
    encoder.spelled (framed first last lines) =
      "\n".intercalate (first :: lines.map encoder.spelled ++ [last]) := by
  apply String.toList_injective
  have lineBreak : (encoder.spell (.text "\n")).toList = ['\n'] := by simp [spell]
  rw [toList_lines, toList_spelled, List.flatMap_map]
  simp only [framed, toList_spelled, List.cons_append, List.flatMap_cons, List.flatMap_append, List.flatMap_nil,
    List.append_nil, List.append_assoc, List.flatMap_assoc, lineBreak, List.nil_append]
  rfl

end

/-- Lighter trees are written as their pieces. -/
def SpelledBelow (bound : Nat) : Prop :=
  ∀ child : Tree, child.isTextual = true → child.weight < bound →
    ∀ typeName indent, encoder.registry.lookup? typeName ≠ none →
      (encoder.value typeName child indent).outcome = .ok (encoder.spelled (encoder.pieces typeName child indent))

theorem outcome_eq_textOf {attempt : Attempt EncodeError String} (h : ∃ text, attempt.outcome = .ok text) :
    attempt.outcome = .ok (encoder.spelled [.text (textOf attempt)]) := by
  obtain ⟨text, ended⟩ := h
  rw [spelled_text, textOf, ended]
  rfl

section

variable {slot : Slot} (textual : slot.tree.isTextual = true)
include textual

theorem enumEntry_eq_spelled (subType : String) :
    (encoder.enumEntry slot subType).outcome =
      .ok (encoder.spelled (encoder.entryPieces slot (.enum subType))) := by
  have settles : Attempt.Settles (Familiar encoder.registry) (encoder.enumEntry slot subType) :=
    encoder.enumEntry_settles textual subType
  rw [entryPieces]
  cases given : slot.given? with
  | none =>
    rw [enumEntry_of_textual encoder textual, given]
    exact congrArg Except.ok (encoder.spelled_placeholder subType).symm
  | some value =>
    cases looked : encoder.registry.lookup? subType with
    | none =>
      rw [enumEntry_of_textual encoder textual, given]
      simp only [looked]
      exact congrArg Except.ok (encoder.spelled_placeholder subType).symm
    | some found => exact encoder.outcome_eq_textOf settles.1

variable (below : encoder.SpelledBelow slot.tree.weight)
include below

theorem objectEntry_eq_spelled (subType : String) :
    (encoder.entry slot (.object subType)).outcome =
      .ok (encoder.spelled (encoder.entryPieces slot (.object subType))) := by
  rw [entryPieces_object]
  cases found : (slot.tree.wrapped slot.wrapper (dataTag subType)).head? with
  | none =>
    rw [encoder.outcome_object_of_unknown slot textual (.inl found)]
    exact congrArg Except.ok (encoder.spelled_placeholder subType).symm
  | some child =>
    dsimp only
    by_cases known : encoder.registry.lookup? (dataTag subType) = none
    · rw [encoder.outcome_object_of_unknown slot textual (.inr known), known]
      exact congrArg Except.ok (encoder.spelled_placeholder subType).symm
    · have mem := List.mem_of_mem_head? found
      have written := below child (Tree.textual_of_mem_wrapped textual mem) (Tree.weight_lt_of_mem_wrapped mem)
        (dataTag subType) slot.indent known
      rw [encoder.entry_object_of_known slot textual found known, written,
        if_pos (Option.isSome_iff_ne_none.2 known)]

theorem collectionEntry_eq_spelled (subType : String) :
    (encoder.entry slot (.collection subType)).outcome =
      .ok (encoder.spelled (encoder.entryPieces slot (.collection subType))) := by
  rw [entryPieces_collection]
  by_cases given : slot.tree.wrapped slot.wrapper (dataTag subType) ≠ [] ∧
      encoder.registry.lookup? (dataTag subType) ≠ none
  · obtain ⟨filled, known⟩ := given
    have each : ∀ child ∈ slot.tree.wrapped slot.wrapper (dataTag subType),
        (encoder.value (dataTag subType) child (slot.indent ++ encoder.step)).outcome =
          .ok (encoder.spelled (encoder.pieces (dataTag subType) child (slot.indent ++ encoder.step))) := by
      intro child mem
      have inner := Tree.textual_of_mem_wrapped textual mem
      exact below child inner (Tree.weight_lt_of_mem_wrapped mem) _ _ known
    rw [encoder.outcome_collection_of_children slot textual filled known each, if_pos ⟨filled, known⟩,
      spelled_framed, List.map_map]
    simp only [Function.comp_def, spelled_entryLine]
  · rw [if_neg given, spelled_text]
    rw [not_and_or, not_not, not_not] at given
    exact encoder.outcome_collection_of_unknown slot textual given

/-- What is written for a property is what its pieces spell. -/
theorem entry_eq_spelled (kind : PropertyKind) :
    (encoder.entry slot kind).outcome = .ok (encoder.spelled (encoder.entryPieces slot kind)) := by
  have settles : encoder.SettlesBelow slot.tree.weight := fun child inner _ _ indent known =>
    encoder.value_settles inner known indent
  have settled := (encoder.entry_settles textual settles kind).1
  cases kind with
  | object subType => exact encoder.objectEntry_eq_spelled textual below subType
  | collection subType => exact encoder.collectionEntry_eq_spelled textual below subType
  | enum subType =>
    rw [entry]
    exact encoder.enumEntry_eq_spelled textual subType
  | boolean | command | brush | font | string | number | image =>
    rw [encoder.entryPieces_of_scalar slot rfl]
    exact encoder.outcome_eq_textOf settled

end

/-- What is written for a tree of a known type is what its pieces spell. -/
theorem outcome_value_eq_spelled {tree : Tree} (textual : tree.isTextual = true) {typeName : String}
    (known : encoder.registry.lookup? typeName ≠ none) (indent : String) :
    (encoder.value typeName tree indent).outcome =
      .ok (encoder.spelled (encoder.pieces typeName tree indent)) := by
  -- By weight and for all types at once, as trees settle.
  induction weight : tree.weight using Nat.strongRecOn generalizing tree typeName indent with
  | ind bound ih =>
    have below : encoder.SpelledBelow tree.weight := by
      intro child inner lighter typeName indent known
      exact ih child.weight (weight ▸ lighter) inner known indent rfl
    have settled := (encoder.value_settles textual known indent).1
    rw [pieces]
    cases found : encoder.registry.lookup? typeName with
    | none => exact absurd found known
    | some referred =>
      cases referred with
      | classType name properties =>
        have each : ∀ property ∈ properties.entries,
            (encoder.entry ⟨name, property.1, tree, indent ++ encoder.step⟩ property.2).outcome =
              .ok (encoder.spelled
                (encoder.entryPieces ⟨name, property.1, tree, indent ++ encoder.step⟩ property.2)) :=
          fun property _ => encoder.entry_eq_spelled textual below property.2
        rw [encoder.outcome_value_of_entries found each]
        dsimp only
        rw [spelled_framed, List.map_map]
        simp only [Function.comp_def, spelled_entryLine]
      | enumType => exact encoder.outcome_eq_textOf settled
      | builtIn => exact encoder.outcome_eq_textOf settled

/-- The placeholders of lighter trees are of types that the registry refers to. -/
def ReferredBelow (bound : Nat) : Prop :=
  ∀ child : Tree, child.weight < bound → ∀ typeName indent,
    ∀ subType ∈ placeholders (encoder.pieces typeName child indent), Refers encoder.registry subType

theorem mem_placeholders_entryLine {before subType : String} {pieces : List Piece}
    (h : subType ∈ placeholders (entryLine before pieces)) : subType ∈ placeholders pieces := by
  rw [entryLine, placeholders, List.cons_append, List.filterMap_cons, List.filterMap_append] at h
  rcases List.mem_append.1 h with inside | outside
  · exact inside
  · cases outside

theorem mem_placeholders_framed {first last subType : String} {lines : List (List Piece)}
    (h : subType ∈ placeholders (framed first last lines)) : ∃ line ∈ lines, subType ∈ placeholders line := by
  rw [framed, placeholders, List.cons_append, List.filterMap_cons, List.filterMap_append,
    List.filterMap_flatMap] at h
  rcases List.mem_append.1 h with inside | outside
  · obtain ⟨line, mem, inside⟩ := List.mem_flatMap.1 inside
    exact ⟨line, mem, inside⟩
  · cases outside

theorem refers_of_entryPieces {slot : Slot} (below : encoder.ReferredBelow slot.tree.weight)
    {kind : PropertyKind}
    (refers : ∀ subType, kind.reference? = some subType → Refers encoder.registry subType) :
    ∀ subType ∈ placeholders (encoder.entryPieces slot kind), Refers encoder.registry subType := by
  intro subType mem
  cases kind with
  | object own =>
    rw [entryPieces_object] at mem
    split at mem
    · rename_i child found
      split at mem
      · exact below child (Tree.weight_lt_of_mem_wrapped (List.mem_of_mem_head? found)) _ _ subType mem
      · obtain rfl := List.mem_singleton.1 mem
        exact refers _ rfl
    · obtain rfl := List.mem_singleton.1 mem
      exact refers _ rfl
  | collection own =>
    rw [entryPieces_collection] at mem
    split at mem
    · obtain ⟨line, listed, inside⟩ := mem_placeholders_framed mem
      obtain ⟨child, held, rfl⟩ := List.mem_map.1 listed
      exact below child (Tree.weight_lt_of_mem_wrapped held) _ _ subType (mem_placeholders_entryLine inside)
    · cases mem
  | enum own =>
    rw [entryPieces] at mem
    split at mem
    · cases mem
    · obtain rfl := List.mem_singleton.1 mem
      exact refers _ rfl
  | boolean | command | brush | font | string | number | image =>
    rw [encoder.entryPieces_of_scalar slot rfl] at mem
    cases mem

/-- Every placeholder is of a type that some class of the registry refers to. -/
theorem refers_of_placeholder (typeName : String) (tree : Tree) (indent : String) :
    ∀ subType ∈ placeholders (encoder.pieces typeName tree indent), Refers encoder.registry subType := by
  induction weight : tree.weight using Nat.strongRecOn generalizing tree typeName indent with
  | ind bound ih =>
    have below : encoder.ReferredBelow tree.weight := by
      intro child lighter typeName indent
      exact ih child.weight (weight ▸ lighter) typeName child indent rfl
    intro subType mem
    rw [pieces] at mem
    split at mem
    · rename_i name properties looked
      have held := Registry.mem_structures_of_lookup? looked
      obtain ⟨line, listed, inside⟩ := mem_placeholders_framed mem
      obtain ⟨property, declared, rfl⟩ := List.mem_map.1 listed
      have inner := mem_placeholders_entryLine inside
      refine encoder.refers_of_entryPieces ?_ ?_ subType inner
      · exact below
      · intro own reference
        exact ⟨_, held, mem_references declared reference⟩
    · cases mem

end Encoder

end ViewModel.Literal
