import ViewModel.Proofs.Literal.Children

/-!
# Degraded properties

A property whose wrapper is there but of no use is written as a default: the wrapper lacks the child that
the kind is read from, the type of the child is unknown, or the child is a bitmap without a path or a brush
without a colour. A warning or an error tells so, unless it is an image or a brush whose wrapper lacks the
child.

* `Unfilled`, `Unreadable`, `Degrades`: what is wrong with the wrapper;
* `Overlooked`: what nothing tells;
* `outcome_of_unfilled`, `builtIn_of_unreadable`, `entry_of_messageCommand`: what is written;
* `degraded_warns_iff`: a degraded property is logged unless it is overlooked.
-/

namespace ViewModel.Literal

open Schema Attempt

/-- The wrapper lacks the child of the kind, or the type of the child is unknown. -/
inductive Unfilled (registry : Registry) (first : Tree) : PropertyKind → Prop
  | childless {kind tag} : childTag? kind = some tag → first.first? tag = none →
      Unfilled registry first kind
  | object {subType} : registry.lookup? (dataTag subType) = none →
      Unfilled registry first (.object subType)
  | collection {subType} : registry.lookup? (dataTag subType) = none →
      Unfilled registry first (.collection subType)

/-- An element of the built-in type that lacks what its literal is made of. -/
inductive Unreadable : String → Tree → Prop
  | pathless {tree} : (tree.first? "UriSource").bind imagePath? = none → Unreadable "BitmapImage" tree
  | colorless {tree} : tree.first? "Color" = none → Unreadable "SolidColorBrush" tree

/-- A default is written for the property, or for an item of it. -/
inductive Degrades (registry : Registry) (first : Tree) : PropertyKind → Prop
  | unfilled {kind} : Unfilled registry first kind → Degrades registry first kind
  | image {path child} : first.first? "BitmapImage" = some child → Unreadable "BitmapImage" child →
      Degrades registry first (.image path)
  | brush {child} : first.first? "SolidColorBrush" = some child → Unreadable "SolidColorBrush" child →
      Degrades registry first .brush
  | object {subType child name} : first.first? (dataTag subType) = some child →
      registry.lookup? (dataTag subType) = some (.builtIn name) → Unreadable name child →
      Degrades registry first (.object subType)
  | collection {subType child name} : child ∈ first.under (dataTag subType) →
      registry.lookup? (dataTag subType) = some (.builtIn name) → Unreadable name child →
      Degrades registry first (.collection subType)

/-- The wrapper of an image or a brush lacks the child of the kind. -/
def Overlooked (first : Tree) : PropertyKind → Prop
  | .image _ => first.first? "BitmapImage" = none
  | .brush => first.first? "SolidColorBrush" = none
  | _ => False

namespace Encoder

variable (encoder : Encoder)

/-- What is written for a property whose wrapper is of no use. -/
def instead : PropertyKind → String
  | .object subType => encoder.placeholder subType
  | .collection _ => "[]"
  | .command => commandNotRecognized
  | _ => "\"\""

/-- An unreadable element is written as the empty text, and a warning tells so. -/
theorem builtIn_of_unreadable {name : String} {tree : Tree} (unreadable : Unreadable name tree)
    (textual : tree.isTextual = true) (indent : String) :
    (encoder.builtIn name tree indent).outcome = .ok "\"\"" ∧ (encoder.builtIn name tree indent).Warns := by
  cases unreadable with
  | pathless none =>
    rw [builtIn_bitmapImage encoder textual, none]
    exact ⟨rfl, warns_warn _ _⟩
  | colorless none =>
    rw [builtIn_solidColorBrush encoder textual, none]
    exact ⟨rfl, warns_warn _ _⟩

section

variable {slot : Slot} {first : Tree} {kind : PropertyKind} (textual : slot.tree.isTextual = true)
  (held : slot.wrapping? = some first)

include textual held

theorem warns_object_of_unfilled {subType : String}
    (h : first.first? (dataTag subType) = none ∨ encoder.registry.lookup? (dataTag subType) = none) :
    (encoder.entry slot (.object subType)).Warns := by
  rw [entry_object encoder textual, held]
  dsimp only
  cases found : first.first? (dataTag subType) with
  | none => exact warns_warn _ _
  | some child =>
    have unknown := h.resolve_left (by rw [found]; nofun)
    dsimp only
    rw [value_of_unknown encoder unknown, orElseUnknown_throw]
    exact warns_report _ _

theorem warns_collection_of_unfilled {subType : String}
    (h : first.under (dataTag subType) = [] ∨ encoder.registry.lookup? (dataTag subType) = none) :
    (encoder.entry slot (.collection subType)).Warns := by
  rw [entry_collection encoder textual, held]
  dsimp only
  cases found : first.under (dataTag subType) with
  | nil => exact warns_warn _ _
  | cons item rest =>
    have unknown := h.resolve_left (by rw [found]; nofun)
    dsimp only
    rw [items, value_of_unknown encoder unknown]
    exact warns_report _ _

/-- An unfilled property is logged unless it is overlooked. -/
theorem warns_of_unfilled (unfilled : Unfilled encoder.registry first kind)
    (seen : ¬ Overlooked first kind) : (encoder.entry slot kind).Warns := by
  cases unfilled with
  | object unknown => exact encoder.warns_object_of_unfilled textual held (.inr unknown)
  | collection unknown => exact encoder.warns_collection_of_unfilled textual held (.inr unknown)
  | childless tagged childless =>
    cases kind with
    | object =>
      cases tagged
      exact encoder.warns_object_of_unfilled textual held (.inl childless)
    | collection =>
      cases tagged
      have empty := List.head?_eq_none_iff.1 childless
      exact encoder.warns_collection_of_unfilled textual held (.inl empty)
    | image | brush =>
      cases tagged
      exact absurd childless seen
    | command =>
      cases tagged
      rw [entry, commandEntry_of_textual encoder textual, held]
      dsimp only
      rw [childless]
      exact warns_warn _ _
    | _ => cases tagged

variable (absent : slot.given? = none)
include absent

/-- An unfilled property is written as the default of its kind. -/
theorem outcome_of_unfilled (unfilled : Unfilled encoder.registry first kind) :
    (encoder.entry slot kind).outcome = .ok (encoder.instead kind) := by
  cases unfilled with
  | object unknown => exact encoder.outcome_object_of_unknown slot textual (.inr unknown)
  | collection unknown => exact encoder.outcome_collection_of_unknown slot textual (.inr unknown)
  | childless tagged childless =>
    cases kind with
    | object subType =>
      cases tagged
      apply encoder.outcome_object_of_unknown slot textual
      left
      rw [wrapped_of_held held]
      exact childless
    | collection subType =>
      cases tagged
      apply encoder.outcome_collection_of_unknown slot textual
      left
      rw [wrapped_of_held held]
      exact List.head?_eq_none_iff.1 childless
    | image =>
      cases tagged
      rw [entry, imageEntry_of_textual encoder textual, absent, held, Option.bind_some, childless]
      rfl
    | brush =>
      cases tagged
      rw [entry, brushEntry_of_textual encoder textual, absent, held, Option.bind_some, childless]
      rfl
    | command =>
      cases tagged
      rw [entry, commandEntry_of_textual encoder textual, held]
      dsimp only
      rw [childless]
      rfl
    | _ => cases tagged

/-- Nothing tells that an image or a brush is missing in its wrapper. -/
theorem entry_of_overlooked (overlooked : Overlooked first kind) : encoder.entry slot kind = pure "\"\"" := by
  cases kind with
  | image =>
    change first.first? "BitmapImage" = none at overlooked
    rw [entry, imageEntry_of_textual encoder textual, absent, held, Option.bind_some, overlooked]
  | brush =>
    change first.first? "SolidColorBrush" = none at overlooked
    rw [entry, brushEntry_of_textual encoder textual, absent, held, Option.bind_some, overlooked]
  | _ => exact overlooked.elim

/-- A degraded property is logged unless it is overlooked. -/
theorem warns_of_degrades (degrades : Degrades encoder.registry first kind) (seen : ¬ Overlooked first kind) :
    (encoder.entry slot kind).Warns := by
  have inner := Slot.textual_of_wrapping? textual held
  cases degrades with
  | unfilled unfilled => exact encoder.warns_of_unfilled textual held unfilled seen
  | image found unreadable =>
    rw [entry, imageEntry_of_textual encoder textual, absent, held, Option.bind_some, found]
    exact (encoder.builtIn_of_unreadable unreadable (Tree.textual_of_first? inner found) _).2
  | brush found unreadable =>
    rw [entry, brushEntry_of_textual encoder textual, absent, held, Option.bind_some, found]
    exact (encoder.builtIn_of_unreadable unreadable (Tree.textual_of_first? inner found) _).2
  | @object subType _ _ found known unreadable =>
    have here : (slot.tree.wrapped slot.wrapper (dataTag subType)).head? = some _ :=
      (congrArg List.head? (wrapped_of_held held _)).trans found
    rw [encoder.entry_object_of_known slot textual here (known ▸ Option.some_ne_none _), value_of_builtIn _ known]
    exact (encoder.builtIn_of_unreadable unreadable (Tree.textual_of_first? inner found) _).2
  | collection mem known unreadable =>
    rw [← wrapped_of_held held] at mem
    apply encoder.entry_warns_of_item slot textual mem (known ▸ Option.some_ne_none _)
    rw [value_of_builtIn _ known]
    exact (encoder.builtIn_of_unreadable unreadable (Tree.textual_of_mem_wrapped textual mem) _).2

omit absent in
/-- A message command is written as its function, without a message as that of the empty one. -/
theorem entry_of_messageCommand {command : Tree} (found : first.first? "MessageCommand" = some command) :
    encoder.entry slot .command = pure (commandText encoder.step (messageOf command) slot.indent) := by
  have inner := Tree.textual_of_first? (Slot.textual_of_wrapping? textual held) found
  rw [entry, commandEntry_of_textual encoder textual, held]
  dsimp only
  rw [found]
  exact commandLiteral_of_textual encoder inner slot.indent

end

/-- **Degraded properties are logged.** If nothing is given under the name of a property and its wrapper is
of no use, then the property logs it at the level of a warning or above, and with it the object, unless the
wrapper of an image or a brush lacks its child: that is silently the empty text. Without a child of a known
type the default of the kind is written. A message command is of use even without a message. -/
theorem degraded_warns_iff {typeName name property : String} {properties : Table PropertyKind}
    {kind : PropertyKind} {tree first : Tree} (textual : tree.isTextual = true)
    (found : encoder.registry.lookup? typeName = some (.classType name properties))
    (mem : (property, kind) ∈ properties.entries) (absent : tree.first? property = none)
    (held : tree.first? (name ++ "." ++ property) = some first) (indent : String) :
    (Degrades encoder.registry first kind →
      ((encoder.entry ⟨name, property, tree, indent ++ encoder.step⟩ kind).Warns ↔ ¬ Overlooked first kind) ∧
      (¬ Overlooked first kind → (encoder.value typeName tree indent).Warns)) ∧
    (Overlooked first kind →
      encoder.entry ⟨name, property, tree, indent ++ encoder.step⟩ kind = pure "\"\"") ∧
    (Unfilled encoder.registry first kind →
      (encoder.entry ⟨name, property, tree, indent ++ encoder.step⟩ kind).outcome =
        .ok (encoder.instead kind)) ∧
    ∀ command, kind = .command → first.first? "MessageCommand" = some command →
      encoder.entry ⟨name, property, tree, indent ++ encoder.step⟩ kind =
        pure (commandText encoder.step (messageOf command) (indent ++ encoder.step)) := by
  let slot : Slot := ⟨name, property, tree, indent ++ encoder.step⟩
  have empty : Overlooked first kind → encoder.entry slot kind = pure "\"\"" :=
    encoder.entry_of_overlooked textual held absent
  refine ⟨?_, empty, ?_, ?_⟩
  · intro degrades
    have warns : ¬ Overlooked first kind → (encoder.entry slot kind).Warns :=
      encoder.warns_of_degrades textual held absent degrades
    refine ⟨⟨?_, warns⟩, ?_⟩
    · intro logged overlooked
      rw [empty overlooked] at logged
      exact Warns.not_pure _ logged
    · intro seen
      exact encoder.value_warns_of_entry textual found mem (warns seen)
  · intro unfilled
    have written : (encoder.entry slot kind).outcome = .ok (encoder.instead kind) :=
      encoder.outcome_of_unfilled textual held absent unfilled
    exact written
  · rintro command rfl inside
    have textual : slot.tree.isTextual = true := textual
    have held : slot.wrapping? = some first := held
    exact encoder.entry_of_messageCommand textual held inside

def tintSource : Source :=
  ⟨"card.xml", "Class", .element [
    ("Name", .list [.text "Card"]),
    ("Property", .list [.element [
      ("Name", .list [.text "Tint"]), ("Type", .list [.text "Object"]), ("SubType", .list [.text "Brush"])]])]⟩

def tintRegistry : Registry := Registry.empty.seed.add (.classType "Card" (Table.ofList [("Tint", .brush)]))

/-- A card whose wrapper holds one element of the tag. -/
def tinted (tag : String) : Tree :=
  .element [("Card.Tint", .list [.element [(tag, .list [.text ""])]])]

/-- A brush without a colour is logged, a brush of another tag is not. -/
theorem degraded_warns_tinted :
    ((Encoder.mk tintRegistry 2 "Bangers").value "Card" (tinted "SolidColorBrush") "").Warns ∧
      ¬ ((Encoder.mk tintRegistry 2 "Bangers").entry
        ⟨"Card", "Tint", tinted "LinearGradientBrush", "" ++ TypesModule.spaces 2⟩ .brush).Warns := by
  have found : tintRegistry.lookup? "Card" = some (.classType "Card" (Table.ofList [("Tint", .brush)])) := rfl
  have mem : ("Tint", PropertyKind.brush) ∈ (Table.ofList [("Tint", PropertyKind.brush)]).entries := .head _
  have textual (tag : String) : (tinted tag).isTextual = true := rfl
  obtain ⟨colorless, -⟩ := degraded_warns_iff ⟨tintRegistry, 2, "Bangers"⟩ (textual "SolidColorBrush") found mem
    rfl rfl ""
  obtain ⟨brushless, -⟩ := degraded_warns_iff ⟨tintRegistry, 2, "Bangers"⟩ (textual "LinearGradientBrush") found
    mem rfl rfl ""
  obtain ⟨-, logged⟩ := colorless (.brush rfl (.colorless rfl))
  obtain ⟨silent, -⟩ := brushless (.unfilled (.childless rfl rfl))
  exact ⟨logged nofun, fun warns => silent.1 warns rfl⟩

/-- The brush of another tag is written as the empty text, and nothing is logged. -/
theorem brush_lost_silently :
    (load [tintSource]).outcome = .ok tintRegistry ∧
      (tinted "LinearGradientBrush").first? "Tint" = none ∧
      (∃ first, (tinted "LinearGradientBrush").first? "Card.Tint" = some first ∧
        Degrades tintRegistry first .brush) ∧
      (Encoder.mk tintRegistry 2 "Bangers").encode "Card" (tinted "LinearGradientBrush") =
        pure "\x7b\n  Tint: \"\",\n\x7d" := by
  have found : tintRegistry.lookup? "Card" = some (.classType "Card" (Table.ofList [("Tint", .brush)])) := rfl
  have entries : (Table.ofList [("Tint", PropertyKind.brush)]).entries = [("Tint", .brush)] := rfl
  refine ⟨rfl, rfl, ⟨_, rfl, .unfilled (.childless rfl rfl)⟩, ?_⟩
  rw [encode, value_of_classType _ found, entries_eq_mapM, entries]
  simp only [List.mapM_cons, List.mapM_nil, entry]
  rfl

end Encoder

end ViewModel.Literal
