import ViewModel.Proofs.Literal.Textual
import ViewModel.Schema.Source

/-!
# Scalars of built-in types

A number or truth-value property writes a scalar of its kind as it is, and for anything else the default of
the kind, with a warning. The built-in types of numbers and truth values write whatever scalar they find, and
a text as it stands. So they follow the policy of the properties exactly where the value is a scalar of the
type.

* `ScalarType.Obeys`: the policy;
* `entry_obeys`: properties follow it;
* `entry_object_scalar`, `entry_collection_scalar`: scalars below object and collection properties;
* `scalar_obeys_iff`: when a built-in type follows it, wherever it is reached.
-/

namespace ViewModel

/-- The number that a text stands for is finite. -/
theorem Tree.finite_of_scalar {tree : Tree} (textual : tree.isTextual = true) {x : Float}
    (h : tree.scalar = .decimal x) : (Number.Binary.ofFloat x).isFinite = true := by
  cases tree with
  | text value =>
    change (scalarOf? value).getD (text value) = decimal x at h
    unfold scalarOf? at h
    dsimp only at h
    split at h
    · cases h
    · split at h
      · cases h
      · split at h
        · cases h
        · split at h
          · cases h
          · split at h
            · split at h
              · rename_i finite
                cases h
                exact finite
              · cases h
            · cases h
  | element fields => cases h
  | _ => cases textual

namespace Literal

open Schema Attempt

/-- The built-in types of single scalars. -/
inductive ScalarType
  | number
  | flag
  deriving DecidableEq, Repr

namespace ScalarType

def typeName : ScalarType → String
  | number => "Single"
  | flag => "Boolean"

/-- What stands for a value that is no scalar of the type. -/
def default : ScalarType → String
  | number => "0"
  | flag => "false"

/-- Whether a scalar is one of the type: a finite number, or a truth value. -/
def accepts : ScalarType → Tree → Bool
  | number, .integer _ => true
  | number, .decimal x => (Number.Binary.ofFloat x).isFinite
  | flag, .flag _ => true
  | _, _ => false

/-- The properties that hold scalars of the type. -/
inductive HasKind : ScalarType → PropertyKind → Prop
  | number (low high : Option Float) (count : Option Int) : HasKind .number (.number low high count)
  | flag : HasKind .flag .boolean

/-- The policy for a value: a scalar of the type is written as it is and without a record; for anything else
the default is written, with one warning. -/
def Obeys (type : ScalarType) (value : Tree) (written : Attempt EncodeError String) : Prop :=
  if type.accepts value.scalar then written = pure (plain value.scalar)
  else written.outcome = .ok type.default ∧
    ∃ message, written.records = [⟨.warning, logger, message⟩]

theorem obeys_of_accepts {type : ScalarType} {value : Tree} (h : type.accepts value.scalar = true) :
    type.Obeys value (pure (plain value.scalar)) := by
  rw [Obeys, if_pos h]

theorem obeys_warn {type : ScalarType} {value : Tree} (h : type.accepts value.scalar = false)
    (message : String) : type.Obeys value (do warn message; return type.default) := by
  rw [Obeys, if_neg (by simp [h])]
  exact ⟨rfl, message, rfl⟩

/-- What is written without a record follows the policy only for a scalar of the type. -/
theorem obeys_pure_iff {type : ScalarType} {value : Tree} :
    type.Obeys value (pure (plain value.scalar)) ↔ type.accepts value.scalar = true := by
  refine ⟨fun obeys => ?_, obeys_of_accepts⟩
  cases accepted : type.accepts value.scalar with
  | true => rfl
  | false =>
    rw [Obeys, if_neg (by simp [accepted])] at obeys
    obtain ⟨-, message, made⟩ := obeys
    cases made

end ScalarType

namespace Encoder

variable (encoder : Encoder)

section

variable {slot : Slot} (textual : slot.tree.isTextual = true)
include textual

/-- Number and truth-value properties follow the policy. -/
theorem entry_obeys {type : ScalarType} {kind : PropertyKind} (h : type.HasKind kind) {value : Tree}
    (given : slot.given? = some value) : type.Obeys value (encoder.entry slot kind) := by
  have written := @ScalarType.obeys_of_accepts type value
  have warned := @ScalarType.obeys_warn type value
  cases h with
  | number low high count =>
    rw [entry, numberEntry_of_textual textual, given, Option.map_some]
    cases scalar : value.scalar with
    | integer n => rw [scalar] at written; exact written rfl
    | decimal x =>
      have finite := Tree.finite_of_scalar (Tree.textual_of_first? textual given) scalar
      rw [scalar] at written
      exact written finite
    | _ => rw [scalar] at warned; exact warned rfl _
  | flag =>
    rw [entry, booleanEntry_of_textual textual, given, Option.map_some]
    cases scalar : value.scalar with
    | flag truth => rw [scalar] at written; exact written rfl
    | _ => rw [scalar] at warned; exact warned rfl _

end

section

variable {type : ScalarType}
  (builtIn : encoder.registry.lookup? type.typeName = some (.builtIn type.typeName))
include builtIn

/-- The built-in type writes whatever scalar it finds, and never records anything. -/
theorem value_scalar (tree : Tree) (indent : String) :
    encoder.value type.typeName tree indent = pure (plain tree.scalar) := by
  rw [value_of_builtIn encoder builtIn]
  cases type <;> rfl

theorem items_scalar (indent : String) (trees : List Tree) :
    encoder.items type.typeName indent trees =
      pure (trees.map fun tree => indent ++ plain tree.scalar ++ ",") := by
  induction trees with
  | nil => rw [items]; rfl
  | cons tree rest ih =>
    rw [items, encoder.value_scalar builtIn, pure_bind, ih, pure_bind, List.map_cons]

variable {slot : Slot} (textual : slot.tree.isTextual = true) {subType : String}
  (tagged : dataTag subType = type.typeName) {first : Tree} (held : slot.wrapping? = some first)
include textual tagged held

/-- A scalar below an object property. -/
theorem entry_object_scalar {child : Tree} (found : first.first? type.typeName = some child) :
    encoder.entry slot (.object subType) = pure (plain child.scalar) := by
  rw [entry_object encoder textual, held, tagged]
  dsimp only
  rw [found]
  dsimp only
  rw [encoder.value_scalar builtIn]
  exact orElseUnknown_of_ok rfl _

/-- The scalars below a collection property. -/
theorem entry_collection_scalar (filled : first.under type.typeName ≠ []) :
    encoder.entry slot (.collection subType) =
      pure ("\n".intercalate ("[" :: (first.under type.typeName).map
        (fun child => slot.indent ++ encoder.step ++ plain child.scalar ++ ",") ++ [slot.indent ++ "]"])) := by
  rw [entry_collection encoder textual, held, tagged]
  dsimp only
  cases children : first.under type.typeName with
  | nil => exact absurd children filled
  | cons item rest =>
    dsimp only
    rw [encoder.items_scalar builtIn, pure_bind]
    exact orElseUnknown_of_ok rfl _

end

/-- **A built-in scalar follows the policy exactly where the value is a scalar of its type.** Properties of
numbers and truth values follow it for every value. The built-in types write whatever scalar they find
without a record: as the root, below an object property, and one line for each element of a collection. -/
theorem scalar_obeys_iff {type : ScalarType}
    (builtIn : encoder.registry.lookup? type.typeName = some (.builtIn type.typeName)) :
    (∀ slot kind value, slot.tree.isTextual = true → type.HasKind kind → slot.given? = some value →
      type.Obeys value (encoder.entry slot kind)) ∧
    (∀ tree indent, encoder.value type.typeName tree indent = pure (plain tree.scalar) ∧
      (type.Obeys tree (encoder.value type.typeName tree indent) ↔ type.accepts tree.scalar = true)) ∧
    ∀ slot subType first, slot.tree.isTextual = true → dataTag subType = type.typeName →
      slot.wrapping? = some first →
        (∀ child, first.first? type.typeName = some child →
          encoder.entry slot (.object subType) = pure (plain child.scalar) ∧
          (type.Obeys child (encoder.entry slot (.object subType)) ↔ type.accepts child.scalar = true)) ∧
        (first.under type.typeName ≠ [] →
          encoder.entry slot (.collection subType) =
            pure ("\n".intercalate ("[" :: (first.under type.typeName).map
              (fun child => slot.indent ++ encoder.step ++ plain child.scalar ++ ",") ++
                [slot.indent ++ "]"]))) := by
  refine ⟨?_, ?_, ?_⟩
  · intro slot kind value textual h given
    exact encoder.entry_obeys textual h given
  · intro tree indent
    have written := encoder.value_scalar builtIn tree indent
    exact ⟨written, written ▸ ScalarType.obeys_pure_iff⟩
  · intro slot subType first textual tagged held
    refine ⟨?_, encoder.entry_collection_scalar builtIn textual tagged held⟩
    intro child found
    have written := encoder.entry_object_scalar builtIn textual tagged held found
    exact ⟨written, written ▸ ScalarType.obeys_pure_iff⟩

/-- The source of a class with a collection of numbers and a property of a truth value. -/
def scoresSource : Source :=
  ⟨"scores.xml", "Class", .element [
    ("Name", .list [.text "Scores"]),
    ("Property", .list [
      .element [("Name", .list [.text "Points"]), ("Type", .list [.text "Collection"]),
        ("SubType", .list [.text "Single"])],
      .element [("Name", .list [.text "Final"]), ("Type", .list [.text "Object"]),
        ("SubType", .list [.text "Bool"])]])]⟩

def scoresRegistry : Registry :=
  Registry.empty.seed.add
    (.classType "Scores" (Table.ofList [("Points", .collection "Single"), ("Final", .object "Bool")]))

/-- Scores of which the first is no number, and whose truth value is empty. -/
def scribbledScores : Tree :=
  .element [
    ("Scores.Points", .list [.element [("Single", .list [.text "abc", .text "3"])]]),
    ("Scores.Final", .list [.element [("Boolean", .list [.text ""])]])]

/-- The built-in type of numbers follows the policy for the second of the points and not for the first. -/
theorem scalar_obeys_iff_points :
    (load [scoresSource]).outcome = .ok scoresRegistry ∧
      ScalarType.Obeys .number (.text "3")
        ((Encoder.mk scoresRegistry 2 "Bangers").value "Single" (.text "3") "    ") ∧
      ¬ ScalarType.Obeys .number (.text "abc")
        ((Encoder.mk scoresRegistry 2 "Bangers").value "Single" (.text "abc") "    ") ∧
      (Encoder.mk scoresRegistry 2 "Bangers").entry ⟨"Scores", "Points", scribbledScores, "  "⟩
        (.collection "Single") = pure "[\n    abc,\n    3,\n  ]" := by
  obtain ⟨-, values, wrapped⟩ := scalar_obeys_iff ⟨scoresRegistry, 2, "Bangers"⟩
    (show scoresRegistry.lookup? (ScalarType.typeName .number) = _ from rfl)
  have number : ScalarType.accepts .number (Tree.text "3").scalar = true := rfl
  have word : ScalarType.accepts .number (Tree.text "abc").scalar ≠ true := nofun
  refine ⟨rfl, (values (.text "3") "    ").2.2 number, mt (values (.text "abc") "    ").2.1 word, ?_⟩
  exact (wrapped ⟨"Scores", "Points", scribbledScores, "  "⟩ "Single" _ rfl rfl rfl).2 nofun

/-- A word among the points and an empty truth value are written as they stand, and nothing is recorded. -/
theorem scalar_written_as_it_stands :
    (load [scoresSource]).outcome = .ok scoresRegistry ∧ scribbledScores.isTextual = true ∧
      (Encoder.mk scoresRegistry 2 "Bangers").encode "Scores" scribbledScores =
        pure "\x7b\n  Points: [\n    abc,\n    3,\n  ],\n  Final: ,\n\x7d" := by
  refine ⟨rfl, rfl, ?_⟩
  let encoder : Encoder := ⟨scoresRegistry, 2, "Bangers"⟩
  have number : encoder.registry.lookup? (ScalarType.typeName .number) = some (.builtIn _) := rfl
  have flag : encoder.registry.lookup? (ScalarType.typeName .flag) = some (.builtIn _) := rfl
  have points : encoder.entry ⟨"Scores", "Points", scribbledScores, "  "⟩ (.collection "Single") =
      pure "[\n    abc,\n    3,\n  ]" := by
    rw [encoder.entry_collection_scalar number rfl rfl rfl (by nofun)]
    rfl
  have final : encoder.entry ⟨"Scores", "Final", scribbledScores, "  "⟩ (.object "Bool") = pure "" := by
    rw [encoder.entry_object_scalar flag rfl rfl rfl rfl]
    rfl
  rw [encode, value_of_classType _ rfl]
  change (encoder.entries "Scores" scribbledScores "  "
    [("Points", .collection "Single"), ("Final", .object "Bool")] >>= _) = _
  rw [entries, points, pure_bind, entries, final, pure_bind, entries]
  rfl

end Encoder

end Literal

end ViewModel
