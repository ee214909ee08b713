import ViewModel.Literal.Encoder
import ViewModel.Proofs.Log
import ViewModel.Proofs.Tree.Textual

/-!
# Encoding textual trees

What the parts of the encoder do on a textual tree, said with the children of the tree. Nothing in it is a
misfit, so every look at a field succeeds, and each entry is a choice between the value given, the value in
the wrapper, and the default of the kind.

* `value_of_unknown`, `value_of_classType`, `value_of_enumType`, `value_of_builtIn`: a value goes by the
  structure that its type name refers to;
* `entries_eq_mapM`, `items_eq_mapM`: the lines of an object and of a collection, one by one;
* `outcome_items`, `records_items`: a collection whose items are all written;
* `entry_object`, `entry_collection`: the entries that go on with other types.
-/

namespace ViewModel.Literal

open Schema

section

variable {tree : Tree} (textual : tree.isTextual = true)
include textual

theorem firstValue?_of_textual (name : String) : firstValue? (tree.field? name) = .ok (tree.first? name) :=
  Tree.head?_of_textual textual name

theorem firstChild?_of_textual (tag : String) : firstChild? tree tag = .ok (tree.first? tag) := by
  unfold firstChild?
  rw [firstValue?_of_textual textual]
  split
  · rename_i found
    have held := Tree.textual_of_first? textual (Except.ok.inj found)
    exact absurd rfl (Tree.not_textual_nothing held)
  · rfl

theorem wrapped?_of_textual {wrapper : String} (find : Tree → Except Misfit α) :
    wrapped? tree wrapper find =
      match tree.first? wrapper with
      | none => .ok none
      | some first => (find first).map fun found => some (first, found) := by
  unfold wrapped?
  rw [firstValue?_of_textual textual]
  cases tree.first? wrapper <;> rfl

end

@[simp] theorem orElseUnknown_throw (error : UnknownStructure)
    (instead : UnknownStructure → Attempt EncodeError α) :
    orElseUnknown (throw (.unknown error)) instead = instead error := rfl

theorem orElseUnknown_of_ok {attempt : Attempt EncodeError α} {value : α} (h : attempt.outcome = .ok value)
    (instead : UnknownStructure → Attempt EncodeError α) : orElseUnknown attempt instead = attempt := by
  obtain ⟨result, records⟩ := attempt
  obtain rfl : result = .ok value := h
  change (⟨.ok value, records ++ []⟩ : Logged (Except EncodeError α)) = ⟨.ok value, records⟩
  rw [List.append_nil]

namespace Slot

/-- The property's value as it is given under the property's own name. -/
def given? (slot : Slot) : Option Tree := slot.tree.first? slot.property

def wrapping? (slot : Slot) : Option Tree := slot.tree.first? slot.wrapper

variable {slot : Slot} (textual : slot.tree.isTextual = true)
include textual

theorem value?_of_textual : slot.value? = .ok slot.given? := firstValue?_of_textual textual _

theorem textual_of_wrapping? {first : Tree} (h : slot.wrapping? = some first) : first.isTextual = true :=
  Tree.textual_of_first? textual h

theorem wrapped?_firstChild (tag : String) :
    wrapped? slot.tree slot.wrapper (firstChild? · tag) =
      .ok (slot.wrapping?.map fun first => (first, first.first? tag)) := by
  rw [wrapped?_of_textual textual]
  change (match slot.wrapping? with | none => _ | some first => _) = _
  cases held : slot.wrapping? with
  | none => rfl
  | some first =>
    simp only [firstChild?_of_textual (textual_of_wrapping? textual held)]
    rfl

theorem wrapped?_children (tag : String) :
    wrapped? slot.tree slot.wrapper (fun first => .ok (listedChildren first tag)) =
      .ok (slot.wrapping?.map fun first => (first, first.under tag)) := by
  rw [wrapped?_of_textual textual]
  change (match slot.wrapping? with | none => _ | some first => _) = _
  cases slot.wrapping? <;> rfl

theorem child?_of_textual (tag : String) : slot.child? tag = .ok (slot.wrapping?.bind (·.first? tag)) := by
  unfold child?
  rw [wrapped?_firstChild textual]
  cases slot.wrapping? <;> rfl

end Slot

namespace Encoder

variable (encoder : Encoder)

/-- The function that logs a message, as it is written at an indentation. -/
def commandText (step message indent : String) : String :=
  "(parameter?: unknown) => \x7b\n" ++ indent ++ step ++ "console.log(\"" ++ escape message ++
    "\", parameter ? parameter : \"\");\n" ++ indent ++ "\x7d"

/-- The message of a command; a command without one has the empty message. -/
def messageOf (command : Tree) : String := ((command.first? "Message").map plain).getD ""

section

variable {tree : Tree} (textual : tree.isTextual = true)
include textual

theorem commandLiteral_of_textual (indent : String) :
    encoder.commandLiteral tree indent = pure (commandText encoder.step (messageOf tree) indent) := by
  unfold commandLiteral
  rw [firstChild?_of_textual textual]
  rfl

theorem builtIn_bitmapImage (indent : String) :
    encoder.builtIn "BitmapImage" tree indent =
      match (tree.first? "UriSource").bind imagePath? with
      | some path => pure (quote path)
      | none => do
        warn ("Image path not found for built-in structure BitmapImage: " ++
          ((tree.first? "UriSource").getD .nothing).written)
        return "\"\"" := by
  unfold builtIn
  rw [firstChild?_of_textual textual "UriSource"]
  rfl

theorem builtIn_solidColorBrush (indent : String) :
    encoder.builtIn "SolidColorBrush" tree indent =
      match tree.first? "Color" with
      | some color => pure (quote (plain color))
      | none => do
        warn "SolidColorBrush without a Color"
        return "\"\"" := by
  unfold builtIn
  rw [firstChild?_of_textual textual "Color"]
  rfl

theorem builtIn_messageCommand (indent : String) :
    encoder.builtIn "MessageCommand" tree indent = pure (commandText encoder.step (messageOf tree) indent) :=
  encoder.commandLiteral_of_textual textual indent

end

/-- A name that is none of the built-in types' has no literal. -/
theorem builtIn_unknown {name : String} (h : name ∉ Registry.builtInTypes) (tree : Tree) (indent : String) :
    encoder.builtIn name tree indent = (do
      report ("Unknown built-in: " ++ name)
      return "") := by
  simp only [Registry.builtInTypes, List.mem_cons, List.not_mem_nil, or_false, not_or] at h
  obtain ⟨single, boolean, string, color, bitmap, brush, command⟩ := h
  unfold builtIn
  split <;> first | contradiction | rfl

section

variable {slot : Slot} (textual : slot.tree.isTextual = true)
include textual

theorem stringEntry_of_textual :
    stringEntry slot =
      match slot.given? with
      | some value => pure (quote (plain value))
      | none => pure "\"\"" := by
  unfold stringEntry
  rw [Slot.value?_of_textual textual]
  rfl

theorem numberEntry_of_textual :
    numberEntry slot =
      match slot.given?.map Tree.scalar with
      | none => pure "0"
      | some (.integer n) => pure (plain (.integer n))
      | some (.decimal x) => pure (plain (.decimal x))
      | some value => do
        warn ("Value " ++ value.quoted ++ " of " ++ slot.place ++ " is not a number")
        return "0" := by
  unfold numberEntry
  rw [Slot.value?_of_textual textual]
  rfl

theorem booleanEntry_of_textual :
    booleanEntry slot =
      match slot.given?.map Tree.scalar with
      | none => pure "false"
      | some (.flag value) => pure (plain (.flag value))
      | some value => do
        warn ("Value " ++ value.quoted ++ " of " ++ slot.place ++ " is not a boolean")
        return "false" := by
  unfold booleanEntry
  rw [Slot.value?_of_textual textual]
  rfl

theorem enumEntry_of_textual (subType : String) :
    encoder.enumEntry slot subType =
      match slot.given? with
      | none => pure (encoder.placeholder subType)
      | some value =>
        match encoder.registry.lookup? subType with
        | none => do
          report ("Unknown structure type: " ++ subType ++ " (" ++ slot.place ++ ")")
          return encoder.placeholder subType
        | some (.enumType _ items) => do
          if !items.contains (plain value) then
            warn ("Value " ++ plain value ++ " of " ++ slot.place ++ " is not a member of " ++ subType)
          return memberRef subType (plain value)
        | some _ => pure (memberRef subType (plain value)) := by
  unfold enumEntry
  rw [Slot.value?_of_textual textual]
  rfl

theorem fontEntry_of_textual :
    encoder.fontEntry slot =
      match slot.given? with
      | some value => pure (memberRef TypesModule.fontEnum (plain value))
      | none => pure (memberRef TypesModule.fontEnum encoder.defaultFont) := by
  unfold fontEntry
  rw [Slot.value?_of_textual textual]
  rfl

theorem imageEntry_of_textual :
    encoder.imageEntry slot =
      match slot.given? with
      | some source =>
        match imagePath? source with
        | some path => pure (quote path)
        | none => do
          warn ("Image path not found for " ++ slot.place ++ ": " ++ source.written)
          return "\"\""
      | none =>
        match slot.wrapping?.bind (·.first? "BitmapImage") with
        | some bitmap => encoder.builtIn "BitmapImage" bitmap slot.indent
        | none => pure "\"\"" := by
  unfold imageEntry
  rw [Slot.value?_of_textual textual, Slot.child?_of_textual textual]
  rfl

theorem brushEntry_of_textual :
    encoder.brushEntry slot =
      match slot.given? with
      | some color => pure (quote (plain color))
      | none =>
        match slot.wrapping?.bind (·.first? "SolidColorBrush") with
        | some brush => encoder.builtIn "SolidColorBrush" brush slot.indent
        | none => pure "\"\"" := by
  unfold brushEntry
  rw [Slot.value?_of_textual textual, Slot.child?_of_textual textual]
  rfl

theorem commandEntry_of_textual :
    encoder.commandEntry slot =
      match slot.wrapping? with
      | none => pure commandNotDefined
      | some first =>
        match first.first? "MessageCommand" with
        | some command => encoder.commandLiteral command slot.indent
        | none => do
          warn ("Unknown command type for " ++ slot.place ++ ": " ++ first.quoted)
          return commandNotRecognized := by
  unfold commandEntry
  rw [Slot.wrapped?_firstChild textual]
  cases slot.wrapping? with
  | none => rfl
  | some first =>
    rw [Option.map_some]
    dsimp only
    cases first.first? "MessageCommand" <;> rfl

/-- An object's entry: the first child of the wanted tag in the first wrapper. -/
theorem entry_object (subType : String) :
    encoder.entry slot (.object subType) =
      match slot.wrapping? with
      | none => pure (encoder.placeholder subType)
      | some first =>
        match first.first? (dataTag subType) with
        | none => do
          warn ("Expected " ++ dataTag subType ++ " element for object " ++ slot.place)
          return encoder.placeholder subType
        | some child =>
          orElseUnknown (encoder.value (dataTag subType) child slot.indent) fun error => do
            report (error.message ++ " (" ++ slot.place ++ ")")
            return encoder.placeholder subType := by
  have found := Slot.wrapped?_firstChild textual (dataTag subType)
  rw [entry]
  cases held : slot.wrapping? with
  | none =>
    rw [held, Option.map_none] at found
    split <;> rename_i h <;> rw [found] at h <;> cases h
  | some first =>
    rw [held, Option.map_some] at found
    cases inner : first.first? (dataTag subType) <;> rw [inner] at found
    all_goals split <;> rename_i h <;> rw [found] at h <;> cases h
    all_goals simp only [inner]

/-- A collection's entry: every child of the wanted tag in the first wrapper. -/
theorem entry_collection (subType : String) :
    encoder.entry slot (.collection subType) =
      match slot.wrapping? with
      | none => pure "[]"
      | some first =>
        match first.under (dataTag subType) with
        | [] => do
          warn ("Expected array for collection property " ++ slot.property ++ " type " ++
            dataTag subType ++ " of structure " ++ slot.structureName)
          return "[]"
        | item :: rest =>
          orElseUnknown
            (do
              let lines ← encoder.items (dataTag subType) (slot.indent ++ encoder.step) (item :: rest)
              return "\n".intercalate ("[" :: lines ++ [slot.indent ++ "]"]))
            fun error => do
              report (error.message ++ " (" ++ slot.place ++ ")")
              return "[]" := by
  have found := Slot.wrapped?_children textual (dataTag subType)
  rw [entry]
  cases held : slot.wrapping? with
  | none =>
    rw [held, Option.map_none] at found
    split <;> rename_i h <;> rw [found] at h <;> cases h
  | some first =>
    rw [held, Option.map_some] at found
    cases children : first.under (dataTag subType) <;> rw [children] at found
    all_goals split <;> rename_i h <;> rw [found] at h <;> cases h
    all_goals simp only [children]

end

theorem value_of_unknown {typeName : String} (h : encoder.registry.lookup? typeName = none) (tree : Tree)
    (indent : String) :
    encoder.value typeName tree indent = throw (.unknown ⟨finalSegment typeName⟩) := by
  rw [value, Registry.resolve, h]

theorem value_of_classType {typeName name : String} {properties : Table PropertyKind}
    (h : encoder.registry.lookup? typeName = some (.classType name properties)) (tree : Tree)
    (indent : String) :
    encoder.value typeName tree indent = (do
      let lines ← encoder.entries name tree (indent ++ encoder.step) properties.entries
      return "\n".intercalate ("\x7b" :: lines ++ [indent ++ "\x7d"])) := by
  rw [value, Registry.resolve, h]

theorem value_of_enumType {typeName name : String} {items : Table Int}
    (h : encoder.registry.lookup? typeName = some (.enumType name items)) (tree : Tree)
    (indent : String) :
    encoder.value typeName tree indent = pure (memberRef name (plain tree)) := by
  rw [value, Registry.resolve, h]

theorem value_of_builtIn {typeName name : String}
    (h : encoder.registry.lookup? typeName = some (.builtIn name)) (tree : Tree) (indent : String) :
    encoder.value typeName tree indent = encoder.builtIn name tree indent := by
  rw [value, Registry.resolve, h]

theorem entries_eq_mapM (structureName : String) (tree : Tree) (indent : String)
    (properties : List (String × PropertyKind)) :
    encoder.entries structureName tree indent properties =
      properties.mapM fun (property, kind) => do
        let literal ← encoder.entry ⟨structureName, property, tree, indent⟩ kind
        return indent ++ property ++ ": " ++ literal ++ "," := by
  induction properties with
  | nil => rw [entries, List.mapM_nil]
  | cons entry rest ih =>
    rw [entries, List.mapM_cons, ih]
    simp only [bind_assoc, pure_bind]

theorem items_eq_mapM (tag indent : String) (trees : List Tree) :
    encoder.items tag indent trees =
      trees.mapM fun tree => do
        let literal ← encoder.value tag tree indent
        return indent ++ literal ++ "," := by
  induction trees with
  | nil => rw [items, List.mapM_nil]
  | cons tree rest ih =>
    rw [items, List.mapM_cons, ih]
    simp only [bind_assoc, pure_bind]

section

variable {tag indent : String} {trees : List Tree} {written : Tree → String}
  (each : ∀ tree ∈ trees, (encoder.value tag tree indent).outcome = .ok (written tree))
include each

/-- The lines of a collection whose items are all written. -/
theorem outcome_items : (encoder.items tag indent trees).outcome =
    .ok (trees.map fun tree => indent ++ written tree ++ ",") := by
  rw [items_eq_mapM, Attempt.outcome_mapM]
  refine Attempt.mapM_of_ok fun tree mem => ?_
  rw [Attempt.outcome_bind_ok (each tree mem)]
  rfl

/-- What is told about its items is told about a collection, in order. -/
theorem records_items : (encoder.items tag indent trees).records =
    trees.flatMap fun tree => (encoder.value tag tree indent).records := by
  have line : ∀ tree ∈ trees, Attempt.outcome (do
      let literal ← encoder.value tag tree indent
      return indent ++ literal ++ ",") = .ok (indent ++ written tree ++ ",") := by
    intro tree mem
    rw [Attempt.outcome_bind_ok (each tree mem)]
    rfl
  rw [items_eq_mapM, Attempt.records_mapM_of_ok line]
  refine congrArg List.flatten (List.map_congr_left fun tree mem => ?_)
  rw [Attempt.records_bind_ok (each tree mem), Attempt.records_pure, List.append_nil]

end

end Encoder

end ViewModel.Literal
