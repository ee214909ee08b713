import ViewModel.Proofs.Literal.Textual
import ViewModel.Schema.Source

/-!
# Other ways to give a value

An image, a brush or a command is given under a property of its own kind, as an object, or as an element of a
collection, and the first two also as a plain value in place of an element. Each way is read by an entry of its
own; what is written is the same text each time.

* `ValueType.Gives`, `ValueType.Holds`: the ways, and the content that an element of the type holds;
* `outcome_builtIn_of_holds`: an element is written as the text of its content;
* `outcome_entry_of_value`, `outcome_collection_of_holds`: so is whatever gives the content;
* `given_alike`: the ways agree, in every registry that has the built-in type.
-/

namespace ViewModel.Literal

open Schema Attempt

/-- The built-in types that properties of a kind of their own hold, too. -/
inductive ValueType
  | image
  | brush
  | command
  deriving DecidableEq, Repr

namespace ValueType

/-- The tag of the type's elements, which is its name. -/
def tag : ValueType → String
  | image => "BitmapImage"
  | brush => "SolidColorBrush"
  | command => "MessageCommand"

/-- The field of an element that holds its content. -/
def field : ValueType → String
  | image => "UriSource"
  | brush => "Color"
  | command => "Message"

/-- The properties of the type's own kind. -/
inductive HasKind : ValueType → PropertyKind → Prop
  | image (path : Option String) : HasKind .image (.image path)
  | brush : HasKind .brush .brush
  | command : HasKind .command .command

/-- The text of a value with some content or none, at an indentation. -/
def text (step indent : String) : ValueType → Option Tree → String
  | image, content => quote ((content.bind imagePath?).getD "")
  | brush, content => quote ((content.map plain).getD "")
  | command, content => Encoder.commandText step ((content.map plain).getD "") indent

/-- An element of the type holds the content, or has none. -/
def Holds (type : ValueType) (element : Tree) (content : Option Tree) : Prop :=
  firstChild? element type.field = .ok content

/-- The ways to give a single value with some content. -/
inductive Gives (type : ValueType) (slot : Slot) (content : Option Tree) : PropertyKind → Prop
  | directly {kind : PropertyKind} {value : Tree} : type ≠ .command → type.HasKind kind →
      slot.value? = .ok (some value) → content = some value → Gives type slot content kind
  | wrapped {kind : PropertyKind} {element : Tree} : type.HasKind kind →
      (type ≠ .command → slot.value? = .ok none) → slot.child? type.tag = .ok (some element) →
      type.Holds element content → Gives type slot content kind
  | object {subType : String} {element : Tree} : dataTag subType = type.tag →
      slot.child? type.tag = .ok (some element) → type.Holds element content →
      Gives type slot content (.object subType)

end ValueType

namespace Slot

/-- The children under a tag in the property's first wrapper. -/
def Lists (slot : Slot) (tag : String) (items : List Tree) : Prop :=
  ∃ first, wrapped? slot.tree slot.wrapper (fun first => .ok (listedChildren first tag)) = .ok (some (first, items))

theorem exists_wrapped_of_child? {slot : Slot} {tag : String} {element : Tree}
    (h : slot.child? tag = .ok (some element)) :
    ∃ first, wrapped? slot.tree slot.wrapper (firstChild? · tag) = .ok (some (first, some element)) := by
  unfold child? at h
  cases found : wrapped? slot.tree slot.wrapper (firstChild? · tag) with
  | error misfit => rw [found] at h; cases h
  | ok held =>
    rw [found] at h
    cases held with
    | none => cases h
    | some held =>
      obtain ⟨first, inner⟩ := held
      obtain rfl : inner = some element := Except.ok.inj h
      exact ⟨first, rfl⟩

end Slot

namespace Encoder

variable (encoder : Encoder) {type : ValueType} {content : Option Tree}

/-- An element is written as the text of its content. -/
theorem outcome_builtIn_of_holds {element : Tree} (holds : type.Holds element content) (indent : String) :
    (encoder.builtIn type.tag element indent).outcome = .ok (type.text encoder.step indent content) := by
  unfold ValueType.Holds at holds
  cases type with
  | image =>
    change firstChild? element "UriSource" = .ok content at holds
    change (encoder.builtIn "BitmapImage" element indent).outcome = .ok (quote ((content.bind imagePath?).getD ""))
    have looked : look (firstChild? element "UriSource") = pure content := by
      rw [holds]
      rfl
    unfold builtIn
    rw [looked, pure_bind]
    cases content.bind imagePath? <;> rfl
  | brush =>
    change firstChild? element "Color" = .ok content at holds
    change (encoder.builtIn "SolidColorBrush" element indent).outcome = .ok (quote ((content.map plain).getD ""))
    unfold builtIn
    rw [holds]
    cases content <;> rfl
  | command =>
    change firstChild? element "Message" = .ok content at holds
    change (encoder.commandLiteral element indent).outcome = _
    unfold commandLiteral
    rw [holds]
    rfl

/-- A plain value in place of an element is written as the text of its content. -/
theorem outcome_entry_of_value {slot : Slot} {kind : PropertyKind} (plainly : type ≠ .command)
    (h : type.HasKind kind) {value : Tree} (given : slot.value? = .ok (some value)) :
    (encoder.entry slot kind).outcome = .ok (type.text encoder.step slot.indent (some value)) := by
  cases h with
  | image path =>
    rw [entry]
    unfold imageEntry
    have looked : look slot.value? = pure (some value) := by
      rw [given]
      rfl
    rw [looked, pure_bind, ValueType.text, Option.bind_some]
    dsimp only
    cases imagePath? value <;> rfl
  | brush =>
    rw [entry]
    unfold brushEntry
    rw [given]
    rfl
  | command => exact absurd rfl plainly

/-- A property of the type's kind goes on with the element in its wrapper. -/
theorem entry_of_element {slot : Slot} {kind : PropertyKind} (h : type.HasKind kind)
    (absent : type ≠ .command → slot.value? = .ok none) {element : Tree}
    (found : slot.child? type.tag = .ok (some element)) :
    encoder.entry slot kind = encoder.builtIn type.tag element slot.indent := by
  cases h with
  | image path =>
    change slot.child? "BitmapImage" = _ at found
    rw [entry]
    unfold imageEntry
    rw [absent (by decide), found]
    rfl
  | brush =>
    change slot.child? "SolidColorBrush" = _ at found
    rw [entry]
    unfold brushEntry
    rw [absent (by decide), found]
    rfl
  | command =>
    change slot.child? "MessageCommand" = _ at found
    obtain ⟨first, held⟩ := Slot.exists_wrapped_of_child? found
    rw [entry]
    unfold commandEntry
    rw [held]
    rfl

section

variable (builtIn : encoder.registry.lookup? type.tag = some (.builtIn type.tag)) {slot : Slot} {subType : String}
  (tagged : dataTag subType = type.tag)
include builtIn tagged

/-- So does an object property whose elements have the type's tag. -/
theorem outcome_object_of_holds {element : Tree} (found : slot.child? type.tag = .ok (some element))
    (holds : type.Holds element content) :
    (encoder.entry slot (.object subType)).outcome = .ok (type.text encoder.step slot.indent content) := by
  have written : (encoder.value (dataTag subType) element slot.indent).outcome =
      .ok (type.text encoder.step slot.indent content) := by
    rw [tagged, value_of_builtIn encoder builtIn]
    exact encoder.outcome_builtIn_of_holds holds slot.indent
  rw [← tagged] at found
  obtain ⟨first, held⟩ := Slot.exists_wrapped_of_child? found
  rw [entry]
  split <;> rename_i h <;> rw [held] at h <;> cases h
  rw [orElseUnknown_of_ok written]
  exact written

/-- A collection of elements with the type's tag has a line for each, with the text of its content. -/
theorem outcome_collection_of_holds {items : List Tree} (listed : slot.Lists type.tag items) (filled : items ≠ [])
    {content : Tree → Option Tree} (holds : ∀ item ∈ items, type.Holds item (content item)) :
    (encoder.entry slot (.collection subType)).outcome = .ok ("\n".intercalate ("[" ::
      items.map (fun item => slot.indent ++ encoder.step ++
        type.text encoder.step (slot.indent ++ encoder.step) (content item) ++ ",") ++ [slot.indent ++ "]"])) := by
  have each : ∀ item ∈ items, (encoder.value (dataTag subType) item (slot.indent ++ encoder.step)).outcome =
      .ok (type.text encoder.step (slot.indent ++ encoder.step) (content item)) := by
    intro item mem
    rw [tagged, value_of_builtIn encoder builtIn]
    exact encoder.outcome_builtIn_of_holds (holds item mem) _
  have lines := encoder.outcome_items each
  rw [← tagged] at listed
  obtain ⟨first, held⟩ := listed
  rw [entry]
  split <;> rename_i h <;> rw [held] at h <;> cases h
  · exact absurd rfl filled
  · rw [orElseUnknown_of_ok (outcome_bind_ok lines _)]
    exact outcome_bind_ok lines _

end

/-- **A value is written the same whichever way it is given.** In a registry that has the built-in type, all
ways that give a content in a single place are written as the text of that content: a plain value, an element
below a property of the type's kind, and one below an object property. An element of a collection is written as
that text, too, on a line of its own. The text depends on nothing but the content, and for a command on the
indentation. -/
theorem given_alike (builtIn : encoder.registry.lookup? type.tag = some (.builtIn type.tag)) :
    (∀ slot kind content, type.Gives slot content kind →
      (encoder.entry slot kind).outcome = .ok (type.text encoder.step slot.indent content)) ∧
    (∀ slot subType items (content : Tree → Option Tree), dataTag subType = type.tag →
      slot.Lists type.tag items → items ≠ [] → (∀ item ∈ items, type.Holds item (content item)) →
      (encoder.entry slot (.collection subType)).outcome = .ok ("\n".intercalate ("[" ::
        items.map (fun item => slot.indent ++ encoder.step ++
          type.text encoder.step (slot.indent ++ encoder.step) (content item) ++ ",") ++ [slot.indent ++ "]"]))) ∧
    (type ≠ .command → ∀ indent other content,
      type.text encoder.step indent content = type.text encoder.step other content) := by
  refine ⟨?_, ?_, ?_⟩
  · intro slot kind content gives
    cases gives with
    | directly plainly h given same =>
      subst same
      exact encoder.outcome_entry_of_value plainly h given
    | wrapped h absent found holds =>
      rw [encoder.entry_of_element h absent found]
      exact encoder.outcome_builtIn_of_holds holds slot.indent
    | object tagged found holds => exact encoder.outcome_object_of_holds builtIn tagged found holds
  · intro slot subType items content tagged listed filled holds
    exact encoder.outcome_collection_of_holds builtIn tagged listed filled holds
  · intro plainly indent other content
    cases type with
    | image => rfl
    | brush => rfl
    | command => exact absurd rfl plainly

/-- The source of a class with an image, a bitmap, a collection of images, a command and an object for one. -/
def albumSource : Source :=
  ⟨"album.xml", "Class", .element [
    ("Name", .list [.text "Album"]),
    ("Property", .list [
      .element [("Name", .list [.text "Cover"]), ("Type", .list [.text "Object"]),
        ("SubType", .list [.text "ImageSource"])],
      .element [("Name", .list [.text "Photo"]), ("Type", .list [.text "Object"]),
        ("SubType", .list [.text "BitmapImage"])],
      .element [("Name", .list [.text "Shots"]), ("Type", .list [.text "Collection"]),
        ("SubType", .list [.text "ImageSource"])],
      .element [("Name", .list [.text "Press"]), ("Type", .list [.text "Command"])],
      .element [("Name", .list [.text "Hook"]), ("Type", .list [.text "Object"]),
        ("SubType", .list [.text "BaseCommand"])]])]⟩

def albumRegistry : Registry :=
  Registry.empty.seed.add (.classType "Album" (Table.ofList [("Cover", .image none), ("Photo", .object "BitmapImage"),
    ("Shots", .collection "ImageSource"), ("Press", .command), ("Hook", .object "BaseCommand")]))

def quotedPath : Tree := .text "pack://app;component/\"a\".png"

def quotedBitmap : Tree := .element [("UriSource", .list [quotedPath])]

/-- An album with an image as a plain value and below it the same image three times, once beside a bitmap
without a path; and a message under a command and under an object. -/
def quotedAlbum : Tree :=
  .element [
    ("Cover", .list [quotedPath]),
    ("Album.Photo", .list [.element [("BitmapImage", .list [quotedBitmap])]]),
    ("Album.Shots", .list [.element [("BitmapImage", .list [quotedBitmap, .text ""])]]),
    ("Album.Press", .list [.element [("MessageCommand", .list [.element [("Message", .list [.text "Go"])]])]]),
    ("Album.Hook", .list [.element [("MessageCommand", .list [.element [("Message", .list [.text "Go"])]])]])]

/-- The image has one text in all places, and the command as well. -/
theorem given_alike_album :
    (load [albumSource]).outcome = .ok albumRegistry ∧
      let encoder : Encoder := ⟨albumRegistry, 2, "Bangers"⟩
      let image := quote "\"a\".png"
      (encoder.entry ⟨"Album", "Cover", quotedAlbum, "  "⟩ (.image none)).outcome = .ok image ∧
      (encoder.entry ⟨"Album", "Photo", quotedAlbum, "  "⟩ (.object "BitmapImage")).outcome = .ok image ∧
      (encoder.entry ⟨"Album", "Shots", quotedAlbum, "  "⟩ (.collection "ImageSource")).outcome =
        .ok ("\n".intercalate ["[", "    " ++ image ++ ",", "    " ++ quote "" ++ ",", "  ]"]) ∧
      (encoder.entry ⟨"Album", "Press", quotedAlbum, "  "⟩ .command).outcome =
        .ok (commandText "  " "Go" "  ") ∧
      (encoder.entry ⟨"Album", "Hook", quotedAlbum, "  "⟩ (.object "BaseCommand")).outcome =
        .ok (commandText "  " "Go" "  ") := by
  let encoder : Encoder := ⟨albumRegistry, 2, "Bangers"⟩
  let go : Option Tree := some (.text "Go")
  have bitmap : encoder.registry.lookup? (ValueType.tag .image) = some (.builtIn (ValueType.tag .image)) := rfl
  have command : encoder.registry.lookup? (ValueType.tag .command) = some (.builtIn (ValueType.tag .command)) := rfl
  obtain ⟨image, images, -⟩ := given_alike encoder bitmap
  obtain ⟨message, -, -⟩ := given_alike encoder command
  have path : ((some quotedPath).bind imagePath?).getD "" = "\"a\".png" := by decide
  rw [← path]
  refine ⟨rfl, ?_, ?_, ?_, ?_, ?_⟩
  · exact image ⟨"Album", "Cover", quotedAlbum, "  "⟩ _ (some quotedPath) (.directly nofun (.image none) rfl rfl)
  · exact image ⟨"Album", "Photo", quotedAlbum, "  "⟩ _ (some quotedPath) (.object rfl rfl rfl)
  · refine images ⟨"Album", "Shots", quotedAlbum, "  "⟩ "ImageSource" [quotedBitmap, .text ""]
      (fun item => item.first? "UriSource") rfl ⟨_, rfl⟩ nofun ?_
    exact List.forall_mem_cons.2 ⟨rfl, List.forall_mem_singleton.2 rfl⟩
  · exact message ⟨"Album", "Press", quotedAlbum, "  "⟩ _ go (.wrapped .command (absurd rfl) rfl rfl)
  · exact message ⟨"Album", "Hook", quotedAlbum, "  "⟩ _ go (.object rfl rfl rfl)

end Encoder

end ViewModel.Literal
