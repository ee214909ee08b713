import ViewModel.Proofs.Literal.Pieces
import ViewModel.Proofs.Tree.Children
import ViewModel.Proofs.Tree.Document
import ViewModel.Schema.Source

/-!
# Collections keep every element

A collection property is written as the elements of its tag in its first wrapper: one entry for each, in document
order, whatever prefixes they carry and whatever stands between them. Nothing is lost, repeated or moved on the
way from the document over the tree to the literal. The one name that an element cannot have is that of the
field for the text: text beside other content is kept under it, and is taken for an element.

* `wrapping?_ofNode`: a property is read from the first child of its wrapper's name;
* `entry_collection_of_values`: a collection of a known type, child by child;
* `entry_collection_of_empty`, `entry_collection_of_lost`: a collection without children, and one of an unknown
  type;
* `collection_keeps_elements`: the three together, for the elements of a document.
-/

namespace ViewModel.Literal

open Schema Attempt Xml

namespace Slot

/-- The slot of a property of an element. -/
def ofNode (structureName property : String) (node : Node) (indent : String) : Slot :=
  ⟨structureName, property, node.toTree, indent⟩

/-- A wrapper's name holds a point, so it is not that of the field for the text. -/
theorem wrapper_ne_textField (slot : Slot) : slot.wrapper ≠ textField := by
  intro same
  have point : '.' ∈ slot.wrapper.toList := by
    simp [wrapper, String.toList_append]
  rw [same] at point
  exact absurd point (by decide)

/-- The wrapper of a property is the first child of its name. -/
theorem wrapping?_ofNode {structureName property name wrapper : String} {attributes marks : List (String × String)}
    {content inner : List Node} (unlisted : structureName ++ "." ++ property ∉ attributes.map (·.1))
    (first : content.find? (·.isNamed (structureName ++ "." ++ property)) = some (.element wrapper marks inner))
    (indent : String) :
    (ofNode structureName property (.element name attributes content) indent).wrapping? =
      some (Node.element wrapper marks inner).toTree := by
  let slot := ofNode structureName property (.element name attributes content) indent
  have children : slot.tree.under slot.wrapper = (content.filter (·.isNamed slot.wrapper)).map Node.toTree := by
    rw [← List.append_nil (List.map _ _), ← textUnder_of_ne slot.wrapper_ne_textField attributes content]
    exact under_toTree name unlisted content
  change (slot.tree.under slot.wrapper).head? = _
  rw [children, List.head?_map, List.head?_filter]
  exact congrArg (Option.map Node.toTree) first

end Slot

namespace Encoder

variable (encoder : Encoder)

section

variable (slot : Slot) (textual : slot.tree.isTextual = true) {subType : String}
include textual

/-- A collection of a known type has an entry for each of its children, and tells what these tell. -/
theorem entry_collection_of_values (known : encoder.registry.lookup? (dataTag subType) ≠ none)
    (filled : slot.tree.wrapped slot.wrapper (dataTag subType) ≠ []) :
    let children := slot.tree.wrapped slot.wrapper (dataTag subType)
    let value (child : Tree) := encoder.value (dataTag subType) child (slot.indent ++ encoder.step)
    ∃ literals : List String, (children.map fun child => (value child).outcome) = literals.map .ok ∧
      (encoder.entry slot (.collection subType)).outcome = .ok ("\n".intercalate ("[" ::
        literals.map (fun literal => slot.indent ++ encoder.step ++ literal ++ ",") ++ [slot.indent ++ "]"])) ∧
      (encoder.entry slot (.collection subType)).records = children.flatMap fun child => (value child).records := by
  intro children value
  have written : ∀ child ∈ children, (value child).outcome = .ok (textOf (value child)) := by
    intro child mem
    have inner := Tree.textual_of_mem_wrapped textual mem
    obtain ⟨text, ended⟩ := (encoder.value_settles inner known (slot.indent ++ encoder.step)).1
    change (value child).outcome = .ok text at ended
    rw [textOf, ended]
    rfl
  refine ⟨children.map fun child => textOf (value child), ?_, ?_, ?_⟩
  · rw [List.map_map]
    exact List.map_congr_left written
  · rw [List.map_map]
    exact encoder.outcome_collection_of_children slot textual filled known written
  · rw [encoder.entry_collection_of_known slot textual filled known,
      records_bind_ok (encoder.outcome_items written), records_pure, List.append_nil]
    exact encoder.records_items written

/-- A wrapper without children of the tag is told of once. -/
theorem entry_collection_of_empty {first : Tree} (held : slot.wrapping? = some first)
    (empty : first.under (dataTag subType) = []) :
    encoder.entry slot (.collection subType) = (do
      warn ("Expected array for collection property " ++ slot.property ++ " type " ++ dataTag subType ++
        " of structure " ++ slot.structureName)
      return "[]") := by
  rw [entry_collection encoder textual, held]
  dsimp only
  rw [empty]

/-- So is an unknown type, however many children there are of it. -/
theorem entry_collection_of_lost {first : Tree} (held : slot.wrapping? = some first)
    (filled : first.under (dataTag subType) ≠ []) (lost : encoder.registry.lookup? (dataTag subType) = none) :
    encoder.entry slot (.collection subType) = (do
      report ((UnknownStructure.mk (finalSegment (dataTag subType))).message ++ " (" ++ slot.place ++ ")")
      return "[]") := by
  rw [entry_collection encoder textual, held]
  dsimp only
  cases children : first.under (dataTag subType) with
  | nil => exact absurd children filled
  | cons item rest =>
    dsimp only
    rw [items, value_of_unknown encoder lost]
    rfl

end

/-- **Collections keep every element.** A collection property of an element of a document has an entry for each
element of the tag in the property's first wrapper, in document order, if the tag's type is known; without such
elements it is written as empty with one warning, and if their type is unknown, as empty with one error. This
holds whatever prefixes the elements carry and whatever other elements and text stand between them. For the one
tag that is the name of the field for the text, the text that a wrapper keeps there is the last element. -/
theorem collection_keeps_elements (structureName property subType indent name : String) {wrapper : String}
    {attributes marks : List (String × String)} {content inner : List Node}
    (unlisted : structureName ++ "." ++ property ∉ attributes.map (·.1))
    (first : content.find? (·.isNamed (structureName ++ "." ++ property)) = some (.element wrapper marks inner))
    (unmarked : dataTag subType ∉ marks.map (·.1)) :
    let slot := Slot.ofNode structureName property (.element name attributes content) indent
    let written := encoder.entry slot (.collection subType)
    let elements := (inner.filter (·.isNamed (dataTag subType))).map Node.toTree ++
      textUnder (dataTag subType) marks inner
    let value (element : Tree) := encoder.value (dataTag subType) element (indent ++ encoder.step)
    (encoder.registry.lookup? (dataTag subType) ≠ none → elements ≠ [] → ∃ literals : List String,
      (elements.map fun element => (value element).outcome) = literals.map .ok ∧
      written.outcome = .ok ("\n".intercalate ("[" ::
        literals.map (fun literal => indent ++ encoder.step ++ literal ++ ",") ++ [indent ++ "]"])) ∧
      written.records = elements.flatMap fun element => (value element).records) ∧
    (elements = [] → written.outcome = .ok "[]" ∧ written.records = [⟨.warning, logger,
      "Expected array for collection property " ++ property ++ " type " ++ dataTag subType ++ " of structure " ++
        structureName⟩]) ∧
    (encoder.registry.lookup? (dataTag subType) = none → elements ≠ [] →
      written.outcome = .ok "[]" ∧ written.records = [⟨.error, logger,
        (UnknownStructure.mk (finalSegment (dataTag subType))).message ++ " (" ++ slot.place ++ ")"⟩]) := by
  intro slot written elements value
  have textual : slot.tree.isTextual = true := textual_toTree _
  have held : slot.wrapping? = some (Node.element wrapper marks inner).toTree :=
    Slot.wrapping?_ofNode unlisted first indent
  have inside : (Node.element wrapper marks inner).toTree.under (dataTag subType) = elements :=
    under_toTree wrapper unmarked inner
  have children : slot.tree.wrapped slot.wrapper (dataTag subType) = elements := (wrapped_of_held held _).trans inside
  refine ⟨?_, ?_, ?_⟩
  · intro known filled
    have entries := encoder.entry_collection_of_values slot textual known (children ▸ filled)
    rw [children] at entries
    exact entries
  · intro empty
    have noted := encoder.entry_collection_of_empty slot textual held (inside.trans empty)
    exact ⟨congrArg outcome noted, congrArg records noted⟩
  · intro lost filled
    have noted := encoder.entry_collection_of_lost slot textual held (inside ▸ filled) lost
    exact ⟨congrArg outcome noted, congrArg records noted⟩

/-- The source of a class with inks and lost cards. -/
def potSource : Source :=
  ⟨"pot.xml", "Class", .element [
    ("Name", .list [.text "Pot"]),
    ("Property", .list [
      .element [("Name", .list [.text "Inks"]), ("Type", .list [.text "Collection"]),
        ("SubType", .list [.text "Color"])],
      .element [("Name", .list [.text "Lost"]), ("Type", .list [.text "Collection"]),
        ("SubType", .list [.text "Card"])]])]⟩

/-- The registry of that source, in which there are no cards. -/
def potRegistry : Registry :=
  Registry.empty.seed.add
    (.classType "Pot" (Table.ofList [("Inks", .collection "Color"), ("Lost", .collection "Card")]))

/-- Two inks beside a text and another element, one of them with a prefix; and a card. -/
def potDocument : String :=
  "<Pot><Pot.Inks>1<x:Color>a</x:Color><b/><Color>c</Color></Pot.Inks><Pot.Lost><Card/></Pot.Lost></Pot>"

def potContent : List Node :=
  [.element "Pot.Inks" [] [.text "1", .element "x:Color" [] [.text "a"], .element "b" [] [],
      .element "Color" [] [.text "c"]],
    .element "Pot.Lost" [] [.element "Card" [] []]]

/-- Both inks are kept and nothing else is an ink, no string is found, and the type of cards is missed. -/
theorem collection_keeps_elements_pot :
    (load [potSource]).outcome = .ok potRegistry ∧
      Node.parse potDocument = .ok (.element "Pot" [] potContent) ∧
      let encoder : Encoder := ⟨potRegistry, 2, "Bangers"⟩
      let slot (property : String) := Slot.ofNode "Pot" property (.element "Pot" [] potContent) "  "
      (encoder.entry (slot "Inks") (.collection "Color")).outcome =
        .ok ("\n".intercalate ["[", "    a,", "    c,", "  ]"]) ∧
      (encoder.entry (slot "Inks") (.collection "String")).records = [⟨.warning, logger,
        "Expected array for collection property Inks type String of structure Pot"⟩] ∧
      (encoder.entry (slot "Lost") (.collection "Card")).records = [⟨.error, logger,
        "Unknown structure type: Card (property Lost of structure Pot)"⟩] := by
  let encoder : Encoder := ⟨potRegistry, 2, "Bangers"⟩
  have color : encoder.registry.lookup? (dataTag "Color") = some (.builtIn "Color") := rfl
  have unlisted (name : String) : name ∉ ([] : List (String × String)).map (·.1) := List.not_mem_nil
  obtain ⟨inks, -, -⟩ := collection_keeps_elements encoder "Pot" "Inks" "Color" "  " "Pot"
    (unlisted _) (show potContent.find? _ = _ from rfl) (unlisted _)
  obtain ⟨-, strings, -⟩ := collection_keeps_elements encoder "Pot" "Inks" "String" "  " "Pot"
    (unlisted _) (show potContent.find? _ = _ from rfl) (unlisted _)
  obtain ⟨-, -, lost⟩ := collection_keeps_elements encoder "Pot" "Lost" "Card" "  " "Pot"
    (unlisted _) (show potContent.find? _ = _ from rfl) (unlisted _)
  obtain ⟨literals, each, written, -⟩ := inks (by rw [color]; nofun) nofun
  have plainly : literals = ["a", "c"] := by
    simp only [value_of_builtIn encoder color] at each
    exact List.map_injective_iff.2 (fun _ _ => Except.ok.inj) (each.symm.trans rfl)
  rw [plainly] at written
  exact ⟨rfl, rfl, written, (strings rfl).2, (lost rfl nofun).2⟩

/-- The sources of a class that is named as the field for the text, and of a class with a collection of it. -/
def textSources : List Source :=
  [⟨"text.xml", "Class", .element [("Name", .list [.text "#text"])]⟩,
    ⟨"note.xml", "Class", .element [
      ("Name", .list [.text "Note"]),
      ("Property", .list [.element [("Name", .list [.text "Tags"]), ("Type", .list [.text "Collection"]),
        ("SubType", .list [.text "#text"])]])]⟩]

def textRegistry : Registry :=
  (Registry.empty.seed.add (.classType "#text" (Table.ofList []))).add
    (.classType "Note" (Table.ofList [("Tags", .collection "#text")]))

def textContent : List Node := [.text "a", .element "b" [] []]

/-- Text beside other content is an element of a collection whose tag is the name of the field for the text,
though nothing in the wrapper has that name. -/
theorem text_is_collected :
    (load textSources).outcome = .ok textRegistry ∧
      let root : Node := .element "Note" [] [.element "Note.Tags" [] textContent]
      let entry := (Encoder.mk textRegistry 2 "Bangers").entry (Slot.ofNode "Note" "Tags" root "  ")
        (.collection "#text")
      Node.parse "<Note><Note.Tags>a<b/></Note.Tags></Note>" = .ok root ∧
      textContent.filter (·.isNamed (dataTag "#text")) = [] ∧
      entry.outcome = .ok ("\n".intercalate ["[", "    \x7b\n    \x7d,", "  ]"]) ∧ entry.outcome ≠ .ok "[]" ∧
      entry.records = [] := by
  let encoder : Encoder := ⟨textRegistry, 2, "Bangers"⟩
  let root : Node := .element "Note" [] [.element "Note.Tags" [] textContent]
  let slot := Slot.ofNode "Note" "Tags" root "  "
  have found : encoder.registry.lookup? "#text" = some (.classType "#text" (Table.ofList [])) := rfl
  have children : slot.tree.wrapped slot.wrapper (dataTag "#text") = [.text "a"] := rfl
  have value (child : Tree) : encoder.value "#text" child "    " = pure "\x7b\n    \x7d" := by
    rw [value_of_classType encoder found]
    change (encoder.entries "#text" child _ [] >>= _) = _
    rw [entries, pure_bind]
    rfl
  obtain ⟨literals, each, written, records⟩ := encoder.entry_collection_of_values slot (textual_toTree root)
    (by decide : encoder.registry.lookup? (dataTag "#text") ≠ none) (by rw [children]; exact List.cons_ne_nil _ _)
  rw [children] at each records
  have single : literals = ["\x7b\n    \x7d"] := by
    refine List.map_injective_iff.2 (fun _ _ => Except.ok.inj) (each.symm.trans ?_)
    exact congrArg (fun attempt => [Attempt.outcome attempt]) (value _)
  rw [single] at written
  refine ⟨rfl, rfl, rfl, written, ?_, ?_⟩
  · rw [written]
    decide
  · rw [records]
    exact congrArg (fun attempt => [attempt].flatMap Attempt.records) (value (.text "a"))

end Encoder

end ViewModel.Literal
