import Mathlib.Data.List.Forall2
import ViewModel.Proofs.Literal.Textual
import ViewModel.Proofs.Schema.Registry

/-!
# What encoding reads

Of a tree the encoder reads only what its type declares: the first value under the name of a property, and
in the property's first wrapper the children of the property's tag. Two trees that agree on these at every
depth have the same literal.

* `Agrees`: agreement on what a type declares, at every depth;
* `outcome_objectEntry`, `outcome_collectionEntry`: what the entry of a property reads;
* `entry_congr`, `value_congr`: properties and trees that agree are encoded alike.
-/

namespace ViewModel

/-- The children of the tag in the first wrapper of the name. -/
def Tree.wrapped (tree : Tree) (wrapper tag : String) : List Tree :=
  match tree.first? wrapper with
  | some first => first.under tag
  | none => []

theorem Tree.weight_lt_of_mem_wrapped {tree child : Tree} {wrapper tag : String}
    (h : child ∈ tree.wrapped wrapper tag) : child.weight < tree.weight := by
  unfold wrapped at h
  split at h
  · rename_i first held
    have light := weight_lt_of_mem_under (mem_under_of_first? held)
    have lighter := weight_lt_of_mem_under h
    omega
  · cases h

theorem Tree.textual_of_mem_wrapped {tree child : Tree} {wrapper tag : String}
    (textual : tree.isTextual = true) (h : child ∈ tree.wrapped wrapper tag) : child.isTextual = true := by
  unfold wrapped at h
  split at h
  · rename_i first held
    exact textual_of_mem_under (textual_of_first? textual held) h
  · cases h

namespace Literal

open Schema Attempt

/-- The one field that is read of an element of a built-in type. -/
def recordField? : String → Option String
  | "BitmapImage" => some "UriSource"
  | "SolidColorBrush" => some "Color"
  | "MessageCommand" => some "Message"
  | _ => none

def childTag? : PropertyKind → Option String
  | .object subType | .collection subType => some (dataTag subType)
  | .image _ => some "BitmapImage"
  | .brush => some "SolidColorBrush"
  | .command => some "MessageCommand"
  | _ => none

/-- Kinds of properties that are read from the value under the property's own name. -/
def IsScalar : PropertyKind → Prop
  | .string .. | .number .. | .boolean | .enum _ | .font => True
  | _ => False

/-- The trees agree on what is read of the built-in type. -/
inductive AgreesBuiltIn : String → Tree → Tree → Prop
  | same {name tree} : AgreesBuiltIn name tree tree
  | record {name field tree other} : recordField? name = some field →
      tree.first? field = other.first? field → AgreesBuiltIn name tree other
  | unknown {name tree other} : name ∉ Registry.builtInTypes → AgreesBuiltIn name tree other

mutual

/-- The trees agree on all that is declared by the type of that name. -/
inductive Agrees (registry : Registry) : String → Tree → Tree → Prop
  | unknown {typeName tree other} : registry.lookup? typeName = none → Agrees registry typeName tree other
  | classType {typeName name properties tree other} :
      registry.lookup? typeName = some (.classType name properties) →
      (∀ property kind, (property, kind) ∈ properties.entries →
        AgreesAt registry name property kind tree other) →
      Agrees registry typeName tree other
  | enumType {typeName name items tree} :
      registry.lookup? typeName = some (.enumType name items) → Agrees registry typeName tree tree
  | builtIn {typeName name tree other} :
      registry.lookup? typeName = some (.builtIn name) → AgreesBuiltIn name tree other →
      Agrees registry typeName tree other

/-- The trees of two objects of the named class agree on a property of the kind. -/
inductive AgreesAt (registry : Registry) : String → String → PropertyKind → Tree → Tree → Prop
  | scalar {name property kind tree other} : IsScalar kind →
      tree.first? property = other.first? property → AgreesAt registry name property kind tree other
  | image {name property given tree other} :
      tree.first? property = other.first? property →
      (tree.first? property = none →
        (tree.wrapped (name ++ "." ++ property) "BitmapImage").head?.bind (·.first? "UriSource") =
          (other.wrapped (name ++ "." ++ property) "BitmapImage").head?.bind (·.first? "UriSource")) →
      AgreesAt registry name property (.image given) tree other
  | brush {name property tree other} :
      tree.first? property = other.first? property →
      (tree.first? property = none →
        (tree.wrapped (name ++ "." ++ property) "SolidColorBrush").head?.bind (·.first? "Color") =
          (other.wrapped (name ++ "." ++ property) "SolidColorBrush").head?.bind (·.first? "Color")) →
      AgreesAt registry name property .brush tree other
  | command {name property tree other} :
      (tree.first? (name ++ "." ++ property)).isSome = (other.first? (name ++ "." ++ property)).isSome →
      (tree.wrapped (name ++ "." ++ property) "MessageCommand").head?.map (·.first? "Message") =
        (other.wrapped (name ++ "." ++ property) "MessageCommand").head?.map (·.first? "Message") →
      AgreesAt registry name property .command tree other
  | objectless {name property subType tree other} :
      (tree.wrapped (name ++ "." ++ property) (dataTag subType)).head? = none →
      (other.wrapped (name ++ "." ++ property) (dataTag subType)).head? = none →
      AgreesAt registry name property (.object subType) tree other
  | object {name property subType tree other child child'} :
      (tree.wrapped (name ++ "." ++ property) (dataTag subType)).head? = some child →
      (other.wrapped (name ++ "." ++ property) (dataTag subType)).head? = some child' →
      Agrees registry (dataTag subType) child child' →
      AgreesAt registry name property (.object subType) tree other
  | collection {name property subType tree other} :
      (tree.wrapped (name ++ "." ++ property) (dataTag subType)).length =
        (other.wrapped (name ++ "." ++ property) (dataTag subType)).length →
      (∀ child child', (child, child') ∈
          (tree.wrapped (name ++ "." ++ property) (dataTag subType)).zip
            (other.wrapped (name ++ "." ++ property) (dataTag subType)) →
        Agrees registry (dataTag subType) child child') →
      AgreesAt registry name property (.collection subType) tree other

end

theorem warns_warn (message : String) (next : Unit → Attempt EncodeError α) :
    Attempt.Warns (warn message >>= next) :=
  Warns.bind_left ⟨⟨.warning, logger, message⟩, List.mem_singleton_self _, Nat.le_refl _⟩ next

theorem warns_report (message : String) (next : Unit → Attempt EncodeError α) :
    Attempt.Warns (report message >>= next) := by
  have grave : Level.warning.rank ≤ Level.error.rank := by decide
  exact Warns.bind_left ⟨⟨.error, logger, message⟩, List.mem_singleton_self _, grave⟩ next

theorem outcome_orElseUnknown (attempt : Attempt EncodeError α)
    (instead : UnknownStructure → Attempt EncodeError α) :
    (orElseUnknown attempt instead).outcome =
      match attempt.outcome with
      | .ok value => .ok value
      | .error (.unknown error) => (instead error).outcome
      | .error (.misfit misfit) => .error (.misfit misfit) := by
  obtain ⟨result, records⟩ := attempt
  cases result with
  | ok value => rfl
  | error error => cases error <;> rfl

/-- What is written instead depends on the attempts only by their outcomes. -/
theorem orElseUnknown_congr {attempt attempt' : Attempt EncodeError α}
    {instead instead' : UnknownStructure → Attempt EncodeError α} (h : attempt.outcome = attempt'.outcome)
    (h' : ∀ error, (instead error).outcome = (instead' error).outcome) :
    (orElseUnknown attempt instead).outcome = (orElseUnknown attempt' instead').outcome := by
  rw [outcome_orElseUnknown, outcome_orElseUnknown, h]
  split <;> simp [h']

namespace Encoder

variable (encoder : Encoder)

theorem builtIn_congr {name : String} {tree other : Tree} (agrees : AgreesBuiltIn name tree other)
    (textual : tree.isTextual = true) (textual' : other.isTextual = true) (indent : String) :
    (encoder.builtIn name tree indent).outcome = (encoder.builtIn name other indent).outcome := by
  cases agrees with
  | same => rfl
  | unknown unlisted => rw [builtIn_unknown encoder unlisted, builtIn_unknown encoder unlisted]
  | record read same =>
    unfold recordField? at read
    split at read <;> cases read
    · rw [builtIn_bitmapImage encoder textual, builtIn_bitmapImage encoder textual', same]
    · rw [builtIn_solidColorBrush encoder textual, builtIn_solidColorBrush encoder textual', same]
    · rw [builtIn_messageCommand encoder textual, builtIn_messageCommand encoder textual', messageOf, same]
      rfl

/-- Every tree that weighs less than the bound has the outcome of each tree that it agrees with. -/
def CongruentBelow (bound : Nat) : Prop :=
  ∀ child child' : Tree, child.isTextual = true → child'.isTextual = true → child.weight < bound →
    ∀ typeName, Agrees encoder.registry typeName child child' →
      ∀ indent, (encoder.value typeName child indent).outcome = (encoder.value typeName child' indent).outcome

def imageText (path? : Option String) : String := path?.elim "\"\"" quote

def brushText (color? : Option Tree) : String := color?.elim "\"\"" fun color => quote (plain color)

theorem child_eq_head?_wrapped (slot : Slot) (tag : String) :
    slot.wrapping?.bind (·.first? tag) = (slot.tree.wrapped slot.wrapper tag).head? := by
  unfold Tree.wrapped
  change (slot.tree.first? slot.wrapper).bind _ = _
  cases slot.tree.first? slot.wrapper <;> rfl

section

variable {slot : Slot} (textual : slot.tree.isTextual = true)
include textual

theorem textual_of_child {tag : String} {child : Tree}
    (h : (slot.tree.wrapped slot.wrapper tag).head? = some child) : child.isTextual = true :=
  Tree.textual_of_mem_wrapped textual (List.mem_of_mem_head? h)

theorem outcome_imageEntry :
    (encoder.imageEntry slot).outcome =
      match slot.given? with
      | some source => .ok (imageText (imagePath? source))
      | none => .ok (imageText (((slot.tree.wrapped slot.wrapper "BitmapImage").head?.bind
          (·.first? "UriSource")).bind imagePath?)) := by
  rw [imageEntry_of_textual encoder textual]
  cases slot.given? with
  | some source =>
    dsimp only
    cases imagePath? source <;> rfl
  | none =>
    dsimp only
    rw [child_eq_head?_wrapped]
    cases found : (slot.tree.wrapped slot.wrapper "BitmapImage").head? with
    | none => rfl
    | some bitmap =>
      dsimp only
      rw [builtIn_bitmapImage encoder (textual_of_child textual found), Option.bind_some]
      cases (bitmap.first? "UriSource").bind imagePath? <;> rfl

theorem outcome_brushEntry :
    (encoder.brushEntry slot).outcome =
      match slot.given? with
      | some color => .ok (brushText (some color))
      | none => .ok (brushText ((slot.tree.wrapped slot.wrapper "SolidColorBrush").head?.bind
          (·.first? "Color"))) := by
  rw [brushEntry_of_textual encoder textual]
  cases slot.given? with
  | some color => rfl
  | none =>
    dsimp only
    rw [child_eq_head?_wrapped]
    cases found : (slot.tree.wrapped slot.wrapper "SolidColorBrush").head? with
    | none => rfl
    | some brush =>
      dsimp only
      rw [builtIn_solidColorBrush encoder (textual_of_child textual found), Option.bind_some]
      cases brush.first? "Color" <;> rfl

theorem outcome_commandEntry :
    (encoder.commandEntry slot).outcome =
      match slot.wrapping?.isSome,
        (slot.tree.wrapped slot.wrapper "MessageCommand").head?.map (·.first? "Message") with
      | false, _ => .ok commandNotDefined
      | true, none => .ok commandNotRecognized
      | true, some message =>
        .ok (commandText encoder.step ((message.map plain).getD "") slot.indent) := by
  rw [commandEntry_of_textual encoder textual, ← child_eq_head?_wrapped]
  cases held : slot.wrapping? with
  | none => rfl
  | some first =>
    rw [Option.bind_some]
    dsimp only
    cases found : first.first? "MessageCommand" with
    | none => rfl
    | some command =>
      have inner := Tree.textual_of_first? (Slot.textual_of_wrapping? textual held) found
      dsimp only
      rw [commandLiteral_of_textual encoder inner]
      rfl

/-- An object's entry by its first child of the wanted tag, wherever the wrapper is. -/
theorem outcome_objectEntry (subType : String) :
    (encoder.entry slot (.object subType)).outcome =
      match (slot.tree.wrapped slot.wrapper (dataTag subType)).head? with
      | none => .ok (encoder.placeholder subType)
      | some child =>
        (orElseUnknown (encoder.value (dataTag subType) child slot.indent)
          fun _ => pure (encoder.placeholder subType)).outcome := by
  rw [entry_object encoder textual, ← child_eq_head?_wrapped]
  cases slot.wrapping? with
  | none => rfl
  | some first =>
    rw [Option.bind_some]
    dsimp only
    cases first.first? (dataTag subType) with
    | none => rfl
    | some child => exact orElseUnknown_congr rfl fun _ => rfl

/-- A collection's entry by its children of the wanted tag, wherever the wrapper is. -/
theorem outcome_collectionEntry (subType : String) :
    (encoder.entry slot (.collection subType)).outcome =
      match slot.tree.wrapped slot.wrapper (dataTag subType) with
      | [] => .ok "[]"
      | item :: rest =>
        (orElseUnknown
          (do
            let lines ← encoder.items (dataTag subType) (slot.indent ++ encoder.step) (item :: rest)
            return "\n".intercalate ("[" :: lines ++ [slot.indent ++ "]"]))
          fun _ => pure "[]").outcome := by
  have found : slot.tree.wrapped slot.wrapper (dataTag subType) =
      match slot.wrapping? with
      | some first => first.under (dataTag subType)
      | none => [] := rfl
  rw [entry_collection encoder textual, found]
  cases slot.wrapping? with
  | none => rfl
  | some first =>
    dsimp only
    cases first.under (dataTag subType) with
    | nil => rfl
    | cons item rest => exact orElseUnknown_congr rfl fun _ => rfl

end

/-- The items of two collections come to the same if they do one by one. -/
theorem items_congr {tag indent : String} {trees others : List Tree}
    (h : List.Forall₂ (fun tree other =>
      (encoder.value tag tree indent).outcome = (encoder.value tag other indent).outcome) trees others) :
    (encoder.items tag indent trees).outcome = (encoder.items tag indent others).outcome := by
  rw [items_eq_mapM, items_eq_mapM, outcome_mapM, outcome_mapM]
  refine mapM_congr_of_forall₂ (h.imp fun tree other same => ?_)
  rw [outcome_bind, outcome_bind, same]

section

variable {name property : String} {tree other : Tree} {indent : String} (textual : tree.isTextual = true)
  (textual' : other.isTextual = true)
include textual textual'

/-- Entries that are read from the property's own value. -/
theorem scalarEntry_congr {kind : PropertyKind} (scalar : IsScalar kind)
    (same : tree.first? property = other.first? property) :
    (encoder.entry ⟨name, property, tree, indent⟩ kind).outcome =
      (encoder.entry ⟨name, property, other, indent⟩ kind).outcome := by
  have given : (Slot.mk name property tree indent).given? = (Slot.mk name property other indent).given? := same
  cases kind with
  | string => rw [entry, entry, stringEntry_of_textual textual, stringEntry_of_textual textual', given]
  | number =>
    rw [entry, entry, numberEntry_of_textual textual, numberEntry_of_textual textual', given]
    rfl
  | boolean =>
    rw [entry, entry, booleanEntry_of_textual textual, booleanEntry_of_textual textual', given]
    rfl
  | enum subType =>
    rw [entry, entry, enumEntry_of_textual encoder textual, enumEntry_of_textual encoder textual', given]
    rfl
  | font =>
    rw [entry, entry, fontEntry_of_textual encoder textual, fontEntry_of_textual encoder textual', given]
  | _ => exact scalar.elim

/-- Trees that agree on a property have entries of the same outcome. -/
theorem entry_congr {kind : PropertyKind} (below : encoder.CongruentBelow tree.weight)
    (agrees : AgreesAt encoder.registry name property kind tree other) :
    (encoder.entry ⟨name, property, tree, indent⟩ kind).outcome =
      (encoder.entry ⟨name, property, other, indent⟩ kind).outcome := by
  cases agrees with
  | scalar scalar same => exact scalarEntry_congr encoder textual textual' scalar same
  | image same source =>
    rw [entry, entry, outcome_imageEntry encoder textual, outcome_imageEntry encoder textual']
    simp only [Slot.given?, Slot.wrapper, ← same]
    cases absent : tree.first? property with
    | some value => rfl
    | none => rw [source absent]
  | brush same color =>
    rw [entry, entry, outcome_brushEntry encoder textual, outcome_brushEntry encoder textual']
    simp only [Slot.given?, Slot.wrapper, ← same]
    cases absent : tree.first? property with
    | some value => rfl
    | none => rw [color absent]
  | command presence message =>
    rw [entry, entry, outcome_commandEntry encoder textual, outcome_commandEntry encoder textual']
    simp only [Slot.wrapping?, Slot.wrapper, presence, message]
  | objectless childless childless' =>
    rw [outcome_objectEntry encoder textual, outcome_objectEntry encoder textual']
    simp only [Slot.wrapper, childless, childless']
  | object found found' agrees =>
    rw [outcome_objectEntry encoder textual, outcome_objectEntry encoder textual']
    simp only [Slot.wrapper, found, found']
    have inner := Tree.textual_of_mem_wrapped textual (List.mem_of_mem_head? found)
    have inner' := Tree.textual_of_mem_wrapped textual' (List.mem_of_mem_head? found')
    have lighter := Tree.weight_lt_of_mem_wrapped (List.mem_of_mem_head? found)
    exact orElseUnknown_congr (below _ _ inner inner' lighter _ agrees indent) fun _ => rfl
  | @collection _ _ subType _ _ length agrees =>
    rw [outcome_collectionEntry encoder textual, outcome_collectionEntry encoder textual']
    simp only [Slot.wrapper]
    have listed (deeper : String) :
        (encoder.items (dataTag subType) deeper
            (tree.wrapped (name ++ "." ++ property) (dataTag subType))).outcome =
          (encoder.items (dataTag subType) deeper
            (other.wrapped (name ++ "." ++ property) (dataTag subType))).outcome := by
      refine encoder.items_congr (List.forall₂_iff_zip.2 ⟨length, fun {child child'} mem => ?_⟩)
      obtain ⟨here, there⟩ := List.of_mem_zip mem
      have inner := Tree.textual_of_mem_wrapped textual here
      have inner' := Tree.textual_of_mem_wrapped textual' there
      have lighter := Tree.weight_lt_of_mem_wrapped here
      exact below _ _ inner inner' lighter _ (agrees child child' mem) deeper
    cases children : tree.wrapped (name ++ "." ++ property) (dataTag subType) with
    | nil =>
      rw [children, List.length_nil] at length
      rw [List.length_eq_zero_iff.1 length.symm]
    | cons item rest =>
      cases children' : other.wrapped (name ++ "." ++ property) (dataTag subType) with
      | nil =>
        rw [children, children'] at length
        cases length
      | cons item' rest' =>
        rw [children, children'] at listed
        refine orElseUnknown_congr ?_ fun _ => rfl
        rw [outcome_bind, outcome_bind, listed]

end

/-- **Trees that agree are encoded alike**, at every type and indentation. -/
theorem value_congr {typeName : String} {tree other : Tree}
    (agrees : Agrees encoder.registry typeName tree other) (textual : tree.isTextual = true)
    (textual' : other.isTextual = true) (indent : String) :
    (encoder.value typeName tree indent).outcome = (encoder.value typeName other indent).outcome := by
  -- By weight and for all types at once, as the types may refer to each other in a cycle.
  induction weight : tree.weight using Nat.strongRecOn generalizing tree other typeName indent with
  | ind bound ih =>
    have below : encoder.CongruentBelow tree.weight := by
      intro child child' inner inner' lighter typeName agrees indent
      exact ih child.weight (weight ▸ lighter) agrees inner inner' indent rfl
    cases agrees with
    | unknown unresolved => rw [value_of_unknown encoder unresolved, value_of_unknown encoder unresolved]
    | enumType => rfl
    | builtIn found agrees =>
      rw [value_of_builtIn encoder found, value_of_builtIn encoder found]
      exact encoder.builtIn_congr agrees textual textual' indent
    | classType found agrees =>
      rw [value_of_classType encoder found, value_of_classType encoder found, outcome_bind, outcome_bind,
        entries_eq_mapM, entries_eq_mapM, outcome_mapM, outcome_mapM]
      congr 1
      refine mapM_congr_of_forall₂ (List.forall₂_same.2 fun entry mem => ?_)
      rw [outcome_bind, outcome_bind, encoder.entry_congr textual textual' below (agrees _ _ mem)]

end Encoder

end Literal

end ViewModel
