import ViewModel.Tree.Basic

/-!
# Textual trees

The trees that documents are read into: a tree is a text, or an element whose every field holds a list of
such trees. Of such a tree only the lists of children under each name matter.

* `under`, `first?`: the children under a name, and the first of them;
* `textual_of_mem_under`, `weight_lt_of_mem_under`: children are textual and lighter than their tree;
* `field?_of_textual`, `head?_of_textual`: a field is absent or holds a list, so asking for its values is
  never a misfit.
-/

namespace ViewModel.Tree

mutual

/-- A text, or an element whose every field holds a list of textual trees. -/
def isTextual : Tree → Bool
  | text _ => true
  | element fields => fieldsTextual fields
  | _ => false

def fieldsTextual : List (String × Tree) → Bool
  | [] => true
  | (_, list items) :: rest => itemsTextual items && fieldsTextual rest
  | _ :: _ => false

def itemsTextual : List Tree → Bool
  | [] => true
  | item :: rest => item.isTextual && itemsTextual rest

end

def under (tree : Tree) (name : String) : List Tree :=
  match tree.field? name with
  | some (.list items) => items
  | _ => []

def first? (tree : Tree) (name : String) : Option Tree := (tree.under name).head?

theorem under_eq_of_field? {tree : Tree} {name : String} {items : List Tree}
    (h : tree.field? name = some (.list items)) : tree.under name = items := by
  simp [under, h]

theorem under_eq_nil_of_field? {tree : Tree} {name : String} (h : tree.field? name = none) :
    tree.under name = [] := by
  simp [under, h]

theorem field?_of_mem_under {tree child : Tree} {name : String} (h : child ∈ tree.under name) :
    tree.field? name = some (.list (tree.under name)) := by
  unfold under at h ⊢
  split at h
  · rename_i items field
    rw [field]
  · cases h

theorem mem_under_of_first? {tree child : Tree} {name : String} (h : tree.first? name = some child) :
    child ∈ tree.under name :=
  List.mem_of_mem_head? h

theorem weight_lt_of_mem_under {tree child : Tree} {name : String} (h : child ∈ tree.under name) :
    child.weight < tree.weight := by
  have field := weight_lt_of_field? (field?_of_mem_under h)
  have light := weight_le_weightItems h
  simp only [weight] at field
  omega

theorem itemsTextual_iff {items : List Tree} :
    itemsTextual items = true ↔ ∀ item ∈ items, item.isTextual = true := by
  induction items with
  | nil => simp [itemsTextual]
  | cons item rest ih => simp [itemsTextual, ih]

theorem listed_of_lookup {fields : List (String × Tree)} {name : String} {value : Tree}
    (textual : fieldsTextual fields = true) (h : fields.lookup name = some value) :
    ∃ items, value = .list items ∧ ∀ item ∈ items, item.isTextual = true := by
  induction fields with
  | nil => cases h
  | cons first rest ih =>
    obtain ⟨key, held⟩ := first
    cases held with
    | list items =>
      obtain ⟨here, there⟩ := Bool.and_eq_true_iff.1 textual
      rw [List.lookup_cons] at h
      split at h
      · cases h
        exact ⟨items, rfl, itemsTextual_iff.1 here⟩
      · exact ih there h
    | _ => simp [fieldsTextual] at textual

section

variable {tree : Tree} (textual : tree.isTextual = true)
include textual

/-- A field of a textual tree is absent or holds a list of textual trees. -/
theorem field?_of_textual (name : String) :
    (tree.field? name = none ∧ tree.under name = []) ∨ tree.field? name = some (.list (tree.under name)) := by
  cases field : tree.field? name with
  | none => exact .inl ⟨rfl, under_eq_nil_of_field? field⟩
  | some value =>
    cases tree with
    | element fields =>
      obtain ⟨items, rfl, -⟩ := listed_of_lookup textual field
      exact .inr (by rw [under_eq_of_field? field])
    | _ => cases field

/-- The first value of a field is the first child under its name, if there is any. -/
theorem head?_of_textual (name : String) :
    (match tree.field? name with
      | none => .ok none
      | some values => values.head?) = Except.ok (tree.first? name) := by
  rcases field?_of_textual textual name with ⟨absent, empty⟩ | field
  · rw [absent, first?, empty]
    rfl
  · rw [field]
    rfl

theorem textual_of_mem_under {child : Tree} {name : String} (h : child ∈ tree.under name) :
    child.isTextual = true := by
  have field := field?_of_mem_under h
  cases tree with
  | element fields =>
    obtain ⟨items, held, all⟩ := listed_of_lookup textual field
    cases held
    exact all child h
  | _ => cases field

theorem textual_of_first? {child : Tree} {name : String} (h : tree.first? name = some child) :
    child.isTextual = true :=
  textual_of_mem_under textual (mem_under_of_first? h)

end

theorem not_textual_nothing {tree : Tree} (textual : tree.isTextual = true) : tree ≠ .nothing := by
  rintro rfl
  simp [isTextual] at textual

end ViewModel.Tree
