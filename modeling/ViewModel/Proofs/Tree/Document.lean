import ViewModel.Proofs.Tree.Textual
import ViewModel.Xml.Merge

/-!
# The trees of documents

Whatever is read from a document is a textual tree, so nothing that follows a parsed document ever meets a
field without a list.

* `textual_toTree`: by induction on an element and its content, with `Gathers` for the fields that are
  gathered on the way;
* `Tree.textual_of_ofXml?`: the tree of a document is textual.
-/

namespace ViewModel

namespace Xml

/-- Every value gathered in some fields is textual. -/
def Gathers (fields : List (String × List Tree)) : Prop :=
  ∀ field ∈ fields, ∀ value ∈ field.2, value.isTextual = true

theorem Gathers.nil : Gathers [] := fun _ mem => absurd mem List.not_mem_nil

theorem Gathers.push {fields : List (String × List Tree)} (gathers : Gathers fields) (name : String)
    {value : Tree} (textual : value.isTextual = true) : Gathers (push fields name value) := by
  induction fields with
  | nil => simpa [Xml.push, Gathers] using textual
  | cons first rest ih =>
    obtain ⟨key, values⟩ := first
    obtain ⟨here, there⟩ := List.forall_mem_cons.1 gathers
    by_cases same : key = name
    · rw [Xml.push, if_pos same]
      refine List.forall_mem_cons.2 ⟨?_, there⟩
      intro added mem
      rcases List.mem_append.1 mem with mem | mem
      · exact here added mem
      · rwa [List.mem_singleton.1 mem]
    · rw [Xml.push, if_neg same]
      exact List.forall_mem_cons.2 ⟨here, ih there⟩

theorem gathers_attributeFields (attributes : List (String × String)) :
    Gathers (attributeFields attributes) := by
  unfold attributeFields
  refine List.foldlRecOn attributes _ Gathers.nil fun fields gathers field _ => ?_
  dsimp only
  split
  · exact gathers
  · exact gathers.push _ rfl

theorem Gathers.fieldsTextual {fields : List (String × List Tree)} (gathers : Gathers fields) :
    Tree.fieldsTextual (fields.map fun (name, values) => (name, .list values)) = true := by
  induction fields with
  | nil => rfl
  | cons first rest ih =>
    obtain ⟨here, there⟩ := List.forall_mem_cons.1 gathers
    rw [List.map_cons, Tree.fieldsTextual, Bool.and_eq_true]
    exact ⟨Tree.itemsTextual_iff.2 here, ih there⟩

theorem Gathers.treeOf {fields : List (String × List Tree)} (gathers : Gathers fields) (text : String) :
    (treeOf fields text).isTextual = true := by
  unfold Xml.treeOf
  split
  · rfl
  · dsimp only
    split
    · exact gathers.fieldsTextual
    · exact (gathers.push textField rfl).fieldsTextual

mutual

theorem textual_toTree (node : Node) : node.toTree.isTextual = true := by
  cases node with
  | text value => rfl
  | element name attributes content =>
    rw [Node.toTree]
    exact (gathers_mergeContent (gathers_attributeFields attributes) "" content).treeOf _

theorem gathers_mergeContent {fields : List (String × List Tree)} (gathers : Gathers fields)
    (text : String) (content : List Node) : Gathers (mergeContent fields text content).1 := by
  cases content with
  | nil => exact gathers
  | cons first rest =>
    cases first with
    | text value =>
      rw [mergeContent]
      exact gathers_mergeContent gathers _ rest
    | element name attributes inner =>
      rw [mergeContent]
      exact gathers_mergeContent
        (gathers.push _ (textual_toTree (.element name attributes inner))) text rest

end

end Xml

/-- The tree of a document is textual. -/
theorem Tree.textual_of_ofXml? {text rootTag : String} {tree : Tree}
    (h : Tree.ofXml? text = .ok (rootTag, tree)) : tree.isTextual = true := by
  unfold Tree.ofXml? at h
  cases parsed : Xml.Node.parse text with
  | error error => rw [parsed] at h; cases h
  | ok root =>
    rw [parsed] at h
    cases h
    exact Xml.textual_toTree root

end ViewModel
