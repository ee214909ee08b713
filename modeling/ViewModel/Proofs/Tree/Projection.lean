import ViewModel.Proofs.Tree.Handler
import ViewModel.Proofs.Tree.Normal

/-!
# Normalising as a projection

Normalising a tree that is in normal form leaves it as it is, so normalising twice is normalising once. What it
changes is only how values stand: each stands in a list afterwards, under the same name and at the same place as
before, at every depth that a path of names and places leads to.

* `normalizeFields_eq_map`: a field keeps its name, and its values are made normal one by one;
* `normalize_of_isNormal`: a normal tree stays as it is, by the recursion of the normal form;
* `at?_normalize`: a path leads to the same in both trees, made normal in the second one;
* `normalize_projects`: all of it.
-/

namespace ViewModel.Tree

open Xml (asList normalizeFields_cons normalizeItems_eq_map)

def fieldNames (tree : Tree) : List String := tree.fields.map (·.1)

/-- The values of a field, in order. One that stands in no list is the only one. -/
def childrenUnder (tree : Tree) (name : String) : List Tree := ((tree.field? name).map asList).getD []

/-- What a path leads to. A step of it is the name of a field and a place among the field's values. -/
def at? : Tree → List (String × Nat) → Option Tree
  | tree, [] => some tree
  | tree, (name, place) :: path => (tree.childrenUnder name)[place]?.bind (·.at? path)

mutual

theorem normalize_of_isNormal {tree : Tree} (normal : tree.isNormal = true) : tree.normalize = tree := by
  cases tree with
  | nothing => cases normal
  | element fields => rw [normalize, normalizeFields_of_normal normal]
  | _ => rfl

theorem normalizeFields_of_normal {fields : List (String × Tree)} (normal : fieldsNormal fields = true) :
    normalizeFields fields = fields := by
  match fields with
  | [] => rfl
  | (name, value) :: rest =>
    cases value with
    | list items =>
      obtain ⟨here, there⟩ := Bool.and_eq_true_iff.1 normal
      rw [normalizeFields, normalizeItems_of_normal here, normalizeFields_of_normal there]
    | _ => cases normal

theorem normalizeItems_of_normal {items : List Tree} (normal : itemsNormal items = true) :
    normalizeItems items = items := by
  match items with
  | [] => rfl
  | item :: rest =>
    obtain ⟨here, there⟩ := Bool.and_eq_true_iff.1 normal
    rw [normalizeItems, normalize_of_isNormal here, normalizeItems_of_normal there]

end

/-- The normal trees are those that normalising leaves alone. -/
theorem normalize_eq_self_iff {tree : Tree} : tree.normalize = tree ↔ tree.isNormal = true := by
  refine ⟨fun same => ?_, normalize_of_isNormal⟩
  rw [← same]
  exact isNormal_normalize tree

/-- A field keeps its name and its place, and every value of it is made normal. -/
theorem normalizeFields_eq_map (fields : List (String × Tree)) :
    normalizeFields fields = fields.map fun (name, value) => (name, list ((asList value).map normalize)) := by
  induction fields with
  | nil => rfl
  | cons first rest ih =>
    obtain ⟨name, value⟩ := first
    rw [normalizeFields_cons, normalizeItems_eq_map, ih, List.map_cons]

section

variable (tree : Tree)

theorem fields_normalize : tree.normalize.fields = normalizeFields tree.fields := by
  cases tree <;> rfl

@[simp] theorem fieldNames_normalize : tree.normalize.fieldNames = tree.fieldNames := by
  simp [fieldNames, fields_normalize, normalizeFields_eq_map, Function.comp_def]

theorem field?_normalize (name : String) :
    tree.normalize.field? name = (tree.field? name).map fun value => list ((asList value).map normalize) := by
  rw [field?, fields_normalize, normalizeFields_eq_map, field?]
  induction tree.fields with
  | nil => rfl
  | cons first rest ih =>
    obtain ⟨key, value⟩ := first
    rw [List.map_cons, List.lookup_cons, List.lookup_cons, ih]
    split <;> rfl

@[simp] theorem childrenUnder_normalize (name : String) :
    tree.normalize.childrenUnder name = (tree.childrenUnder name).map normalize := by
  rw [childrenUnder, field?_normalize, childrenUnder]
  cases tree.field? name <;> rfl

/-- A path leads in the normalised tree to what it leads to in the tree, made normal. -/
theorem at?_normalize (path : List (String × Nat)) : tree.normalize.at? path = (tree.at? path).map normalize := by
  induction path generalizing tree with
  | nil => rfl
  | cons step path ih =>
    obtain ⟨name, place⟩ := step
    rw [at?, at?, childrenUnder_normalize, List.getElem?_map]
    cases (tree.childrenUnder name)[place]? with
    | none => rfl
    | some child => exact ih child

/-- **Normalising is a projection onto the normal form.** Every tree becomes normal, the normal trees are exactly
those that stay as they are, and so a second pass changes nothing. Every path leads in the normalised tree to what
it leads to in the tree, made normal: there are fields of the same names in the same order, and under each name as
many values, which a longer path finds at the same places. -/
theorem normalize_projects :
    tree.normalize.isNormal = true ∧
      (tree.normalize = tree ↔ tree.isNormal = true) ∧
      tree.normalize.normalize = tree.normalize ∧
      ∀ path, tree.normalize.at? path = (tree.at? path).map normalize ∧
        (tree.normalize.at? path).map fieldNames = (tree.at? path).map fieldNames ∧
        ∀ name, (tree.normalize.at? path).map (fun reached => (reached.childrenUnder name).length) =
          (tree.at? path).map fun reached => (reached.childrenUnder name).length := by
  have normal := isNormal_normalize tree
  refine ⟨normal, normalize_eq_self_iff, normalize_of_isNormal normal, ?_⟩
  intro path
  have reached := at?_normalize tree path
  refine ⟨reached, ?_, ?_⟩
  · rw [reached, Option.map_map]
    exact congrArg (Option.map · _) (funext fieldNames_normalize)
  · intro name
    rw [reached, Option.map_map]
    refine congrArg (Option.map · _) (funext fun found => ?_)
    simp

end

/-- No field leads into a list inside a list, so it stays as it is, with nothing in it. -/
example : (element [("Tags", list [list [nothing], nothing]), ("Tag", nothing)]).normalize =
    element [("Tags", list [list [nothing], text ""]), ("Tag", list [text ""])] := rfl

end ViewModel.Tree
