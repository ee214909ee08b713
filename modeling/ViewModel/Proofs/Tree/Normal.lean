import ViewModel.Proofs.Tree.Textual
import ViewModel.Tree.Normal

/-!
# Trees in normal form

The form that every tree has once it is normalised: nothing is left out, and every field of an element holds a
list. Textual trees are in this form, and so are trees made by hand of texts, numbers and truth values.

* `isNormal_normalize`: normalising brings every tree into this form;
* `exists_list_of_field?`: a field of a normal tree holds a list;
* `head?_of_normal`: asking for the first value of a field is never a misfit.
-/

namespace ViewModel.Tree

mutual

/-- Not nothing, and if an element, one whose every field holds a list of normal trees. -/
def isNormal : Tree → Bool
  | nothing => false
  | element fields => fieldsNormal fields
  | _ => true

def fieldsNormal : List (String × Tree) → Bool
  | [] => true
  | (_, list items) :: rest => itemsNormal items && fieldsNormal rest
  | _ :: _ => false

def itemsNormal : List Tree → Bool
  | [] => true
  | item :: rest => item.isNormal && itemsNormal rest

end

mutual

/-- Normalising brings every tree into normal form. -/
theorem isNormal_normalize (tree : Tree) : tree.normalize.isNormal = true := by
  cases tree with
  | element fields => exact fieldsNormal_normalizeFields fields
  | _ => rfl

theorem fieldsNormal_normalizeFields (fields : List (String × Tree)) :
    fieldsNormal (normalizeFields fields) = true := by
  match fields with
  | [] => rfl
  | (_, value) :: rest =>
    have later := fieldsNormal_normalizeFields rest
    cases value with
    | list items => exact Bool.and_eq_true_iff.2 ⟨itemsNormal_normalizeItems items, later⟩
    | element inner =>
      have here : itemsNormal [element (normalizeFields inner)] = true :=
        Bool.and_eq_true_iff.2 ⟨fieldsNormal_normalizeFields inner, rfl⟩
      exact Bool.and_eq_true_iff.2 ⟨here, later⟩
    | _ => exact later

theorem itemsNormal_normalizeItems (items : List Tree) : itemsNormal (normalizeItems items) = true := by
  match items with
  | [] => rfl
  | item :: rest => exact Bool.and_eq_true_iff.2 ⟨isNormal_normalize item, itemsNormal_normalizeItems rest⟩

end

theorem exists_list_of_lookup {fields : List (String × Tree)} {name : String} {value : Tree}
    (normal : fieldsNormal fields = true) (h : fields.lookup name = some value) : ∃ items, value = .list items := by
  induction fields with
  | nil => cases h
  | cons first rest ih =>
    obtain ⟨key, held⟩ := first
    cases held with
    | list items =>
      rw [List.lookup_cons] at h
      split at h
      · exact ⟨items, (Option.some.inj h).symm⟩
      · exact ih (Bool.and_eq_true_iff.1 normal).2 h
    | _ => simp [fieldsNormal] at normal

section

variable {tree : Tree} (normal : tree.isNormal = true)
include normal

theorem exists_list_of_field? {name : String} {value : Tree} (h : tree.field? name = some value) :
    ∃ items, value = .list items := by
  cases tree with
  | element fields => exact exists_list_of_lookup normal h
  | _ => cases h

/-- The first value of a field is the first child under its name, if there is any. -/
theorem head?_of_normal (name : String) :
    (match tree.field? name with
      | none => .ok none
      | some values => values.head?) = Except.ok (tree.first? name) := by
  cases field : tree.field? name with
  | none =>
    rw [first?, under_eq_nil_of_field? field]
    rfl
  | some value =>
    obtain ⟨items, rfl⟩ := exists_list_of_field? normal field
    rw [first?, under_eq_of_field? field]
    rfl

end

end ViewModel.Tree
