import Mathlib.Data.List.Basic
import ViewModel.Proofs.Tree.Described
import ViewModel.Proofs.Tree.Textual

/-!
# The children of an element in its tree

Under a name, the tree of an element holds the children that have this name without their prefix, in document
order, whatever else stands between them. Two things may stand beside them: an attribute of the name, and under
the name of the field for the text the text itself, if the element has more than text.

* `toTree_element`: the tree gathers attributes, children and text under their names;
* `under_treeOf`: what it then holds under one name;
* `under_toTree`: the children of that name, one by one, and the text if it is kept under that name.
-/

namespace ViewModel.Xml

/-- An element of the name, whatever its prefix. -/
def Node.isNamed (name : String) : Node → Bool
  | .text _ => false
  | .element full _ _ => localName full == name

/-- The trees of the elements among some content, each under its name. -/
def namedTrees : List Node → List (String × Tree)
  | [] => []
  | .text _ :: rest => namedTrees rest
  | .element name attributes content :: rest =>
    (localName name, (Node.element name attributes content).toTree) :: namedTrees rest

/-- Text stands in an element beside attributes or other elements. -/
def IsMixed (attributes : List (String × String)) (content : List Node) : Prop :=
  (given attributes ≠ [] ∨ namedTrees content ≠ []) ∧ Text.trim (directText content) ≠ ""

instance (attributes : List (String × String)) (content : List Node) : Decidable (IsMixed attributes content) :=
  inferInstanceAs (Decidable (_ ∧ _))

def textUnder (name : String) (attributes : List (String × String)) (content : List Node) : List Tree :=
  if name = textField ∧ IsMixed attributes content then [.text (Text.trim (directText content))] else []

theorem textUnder_of_ne {name : String} (h : name ≠ textField) (attributes : List (String × String))
    (content : List Node) : textUnder name attributes content = [] :=
  if_neg fun kept => h kept.1

/-- Content is merged by gathering its elements under their names and its text apart from them. -/
theorem mergeContent_grouped (entries : List (String × Tree)) (text : String) (content : List Node) :
    mergeContent (grouped entries) text content =
      (grouped (entries ++ namedTrees content), text ++ directText content) := by
  induction content generalizing entries text with
  | nil => rw [mergeContent, namedTrees, directText, List.append_nil, String.append_empty]
  | cons first rest ih =>
    cases first with
    | text value => rw [mergeContent, ih, namedTrees, directText, String.append_assoc]
    | element name attributes inner =>
      rw [mergeContent, push_grouped, ih, namedTrees, directText, List.append_assoc]
      rfl

theorem toTree_element (name : String) (attributes : List (String × String)) (content : List Node) :
    (Node.element name attributes content).toTree =
      treeOf (grouped ((given attributes).map asText ++ namedTrees content)) (Text.trim (directText content)) := by
  rw [Node.toTree, attributeFields_eq, mergeContent_grouped]
  dsimp only
  rw [String.empty_append]

/-- Under a name stand the entries that were gathered under it, in order. -/
theorem under_grouped (entries : List (String × Tree)) (name : String) :
    (Tree.element ((grouped entries).map fun (name, values) => (name, .list values))).under name =
      (entries.filter (·.1 == name)).map (·.2) := by
  have field : (Tree.element ((grouped entries).map fun (name, values) => (name, .list values))).field? name =
      ((entries.map (·.1)).eraseDups.map fun name =>
        (name, Tree.list ((entries.filter (·.1 == name)).map (·.2)))).lookup name := by
    unfold grouped Tree.field?
    rw [List.map_map]
    rfl
  by_cases known : name ∈ entries.map (·.1)
  · rw [List.lookup_graph _ (List.mem_eraseDups.2 known)] at field
    exact Tree.under_eq_of_field? field
  · have absent : entries.filter (·.1 == name) = [] := by
      rw [List.filter_eq_nil_iff]
      intro entry mem same
      exact known (List.mem_map.2 ⟨entry, mem, beq_iff_eq.1 same⟩)
    have unlisted : ((entries.map (·.1)).eraseDups.map fun name =>
        (name, Tree.list ((entries.filter (·.1 == name)).map (·.2)))).lookup name = none := by
      rw [List.lookup_eq_none_iff]
      intro field mem
      obtain ⟨other, listed, rfl⟩ := List.mem_map.1 mem
      exact bne_iff_ne.2 fun same => known (same ▸ List.mem_eraseDups.1 listed)
    rw [unlisted] at field
    rw [Tree.under_eq_nil_of_field? field, absent, List.map_nil]

theorem grouped_eq_nil_iff {entries : List (String × Tree)} : grouped entries = [] ↔ entries = [] := by
  unfold grouped
  rw [List.map_eq_nil_iff]
  constructor
  · intro none
    rw [List.eq_nil_iff_forall_not_mem]
    intro entry mem
    have listed : entry.1 ∈ (entries.map (·.1)).eraseDups :=
      List.mem_eraseDups.2 (List.mem_map_of_mem mem)
    rw [none] at listed
    cases listed
  · rintro rfl
    rfl

/-- Under a name a tree holds its entries of that name, and its text under the name of the field for the text,
unless it is nothing but that text. -/
theorem under_treeOf (entries : List (String × Tree)) (text name : String) :
    (treeOf (grouped entries) text).under name = (entries.filter (·.1 == name)).map (·.2) ++
      if name = textField ∧ entries ≠ [] ∧ text ≠ "" then [.text text] else [] := by
  unfold treeOf
  by_cases empty : entries = []
  · have unkept : ¬ (name = textField ∧ entries ≠ [] ∧ text ≠ "") := fun kept => kept.2.1 empty
    rw [if_neg unkept, empty]
    rfl
  · have filled : (grouped entries).isEmpty = false :=
      List.isEmpty_eq_false_iff.2 fun none => empty (grouped_eq_nil_iff.1 none)
    rw [filled, if_neg Bool.false_ne_true]
    by_cases blank : text = ""
    · have unkept : ¬ (name = textField ∧ entries ≠ [] ∧ text ≠ "") := fun kept => kept.2.2 blank
      rw [if_neg unkept, blank, List.append_nil]
      exact under_grouped entries name
    · have shown : text.isEmpty = false := by simpa using blank
      dsimp only
      rw [shown, if_neg Bool.false_ne_true, push_grouped, under_grouped, List.filter_append, List.map_append]
      by_cases same : name = textField
      · rw [if_pos ⟨same, empty, blank⟩, same]
        rfl
      · have unkept : ¬ (name = textField ∧ entries ≠ [] ∧ text ≠ "") := fun kept => same kept.1
        rw [if_neg unkept, List.filter_cons_of_neg (by simpa using Ne.symm same)]
        rfl

theorem filter_namedTrees (content : List Node) (name : String) :
    ((namedTrees content).filter (·.1 == name)).map (·.2) = (content.filter (·.isNamed name)).map Node.toTree := by
  induction content with
  | nil => rfl
  | cons first rest ih =>
    cases first with
    | text value => rwa [namedTrees, List.filter_cons_of_neg (by simp [Node.isNamed])]
    | element full attributes inner =>
      rw [namedTrees, List.filter_cons, List.filter_cons, Node.isNamed]
      dsimp only
      split
      · rw [List.map_cons, List.map_cons, ih]
      · exact ih

theorem filter_given {attributes : List (String × String)} {name : String} (h : name ∉ attributes.map (·.1)) :
    ((given attributes).map asText).filter (·.1 == name) = [] := by
  rw [List.filter_eq_nil_iff]
  intro entry mem same
  obtain ⟨field, held, rfl⟩ := List.mem_map.1 mem
  exact h (List.mem_map.2 ⟨field, (List.mem_filter.1 held).1, beq_iff_eq.1 same⟩)

/-- Under a name that no attribute has, the tree of an element holds the trees of its children of that name, and
last the text that it keeps there. -/
theorem under_toTree (name : String) {key : String} {attributes : List (String × String)}
    (absent : key ∉ attributes.map (·.1)) (content : List Node) :
    (Node.element name attributes content).toTree.under key =
      (content.filter (·.isNamed key)).map Node.toTree ++ textUnder key attributes content := by
  have filled : (given attributes).map asText ++ namedTrees content ≠ [] ↔
      given attributes ≠ [] ∨ namedTrees content ≠ [] := by
    rw [ne_eq, List.append_eq_nil_iff, List.map_eq_nil_iff, not_and_or]
  rw [toTree_element, under_treeOf, List.filter_append, filter_given absent, List.nil_append, filter_namedTrees]
  simp only [filled]
  rfl

end ViewModel.Xml
