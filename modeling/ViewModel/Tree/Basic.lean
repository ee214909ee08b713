/-!
# Trees

What a document holds once it is read: texts, and elements with their fields in order. A field holds
the list of all values under its name. Values made by hand may also be numbers, truth values, nothing,
or bare lists.

* `weight_lt_of_field?`, `weight_le_of_head?`: a field of an element weighs less than the element, and
  the first value of a field no more than the field, so whatever follows fields and first values ends.
-/

namespace ViewModel

inductive Tree
  | nothing
  | flag (value : Bool)
  | integer (value : Int)
  | decimal (value : Float)
  | text (value : String)
  | list (items : List Tree)
  | element (fields : List (String × Tree))
  deriving Inhabited

/-- What keeps a field's value from having a first item: it is no list at all, or it is an element. -/
inductive Misfit
  | unlisted
  | keyed
  deriving DecidableEq, Repr

def Misfit.kind : Misfit → String
  | unlisted => "TypeError"
  | keyed => "KeyError"

namespace Tree

mutual

/-- How much a tree holds: one for every list, element and field in it. -/
def weight : Tree → Nat
  | list items => weightItems items + 1
  | element fields => weightFields fields + 1
  | _ => 0

def weightItems : List Tree → Nat
  | [] => 0
  | item :: rest => item.weight + weightItems rest

def weightFields : List (String × Tree) → Nat
  | [] => 0
  | (_, value) :: rest => value.weight + weightFields rest + 1

end

/-- The fields of an element; nothing else has any. -/
def fields : Tree → List (String × Tree)
  | element fields => fields
  | _ => []

def field? (tree : Tree) (name : String) : Option Tree :=
  tree.fields.lookup name

/-- The first of the values that a field holds, if it holds any. A text stands for its characters. -/
def head? : Tree → Except Misfit (Option Tree)
  | nothing => .ok none
  | flag value => if value then .error .unlisted else .ok none
  | integer value => if value = 0 then .ok none else .error .unlisted
  | decimal value => if value == 0 then .ok none else .error .unlisted
  | text value => .ok (value.toList.head?.map fun c => text (String.singleton c))
  | list items => .ok items.head?
  | element [] => .ok none
  | element (_ :: _) => .error .keyed

/-- All the values that a field holds: the items of a list, the characters of a text, the field names of
an element. -/
def items : Tree → Except Misfit (List Tree)
  | text value => .ok (value.toList.map fun c => text (String.singleton c))
  | list items => .ok items
  | element fields => .ok (fields.map fun field => text field.1)
  | _ => .error .unlisted

theorem weight_le_weightItems {items : List Tree} {item : Tree} (h : item ∈ items) :
    item.weight ≤ weightItems items := by
  induction items with
  | nil => cases h
  | cons first rest ih =>
    rcases List.mem_cons.1 h with rfl | h
    · simp [weightItems]
    · have := ih h
      simp only [weightItems]
      omega

theorem weight_lt_weightFields {fields : List (String × Tree)} {name : String} {value : Tree}
    (h : fields.lookup name = some value) : value.weight < weightFields fields := by
  induction fields with
  | nil => cases h
  | cons first rest ih =>
    obtain ⟨key, first⟩ := first
    simp only [List.lookup_cons] at h
    simp only [weightFields]
    split at h
    · cases h
      omega
    · have := ih h
      omega

theorem weight_lt_of_field? {tree value : Tree} {name : String} (h : tree.field? name = some value) :
    value.weight < tree.weight := by
  cases tree with
  | element fields =>
    have : value.weight < weightFields fields := weight_lt_weightFields h
    simp only [weight]
    omega
  | _ => cases h

theorem weight_le_of_head? {tree first : Tree} (h : tree.head? = .ok (some first)) :
    first.weight ≤ tree.weight := by
  cases tree with
  | list items =>
    simp only [head?, Except.ok.injEq] at h
    have := weight_le_weightItems (List.mem_of_mem_head? h)
    simp only [weight]
    omega
  | text value =>
    simp only [head?, Except.ok.injEq, Option.map_eq_some_iff] at h
    obtain ⟨c, -, rfl⟩ := h
    simp [weight]
  | element fields =>
    cases fields with
    | nil => simp [head?] at h
    | cons => simp [head?] at h
  | nothing => simp [head?] at h
  | flag value => cases value <;> simp [head?] at h
  | integer value => simp only [head?] at h; split at h <;> simp at h
  | decimal value => simp only [head?] at h; split at h <;> simp at h

end Tree

end ViewModel
