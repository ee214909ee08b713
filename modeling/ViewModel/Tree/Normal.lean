import ViewModel.Tree.Basic

/-!
# The normal form of trees

Below the root every field holds a list, and nothing is left out: an absent value is an empty text.
-/

namespace ViewModel.Tree

mutual

/-- Every field value in a list of its own unless it is one already, at every depth reached through
elements. -/
def normalize : Tree → Tree
  | nothing => text ""
  | element fields => element (normalizeFields fields)
  | tree => tree

def normalizeFields : List (String × Tree) → List (String × Tree)
  | [] => []
  | (name, nothing) :: rest => (name, list [text ""]) :: normalizeFields rest
  | (name, list items) :: rest => (name, list (normalizeItems items)) :: normalizeFields rest
  | (name, element fields) :: rest =>
    (name, list [element (normalizeFields fields)]) :: normalizeFields rest
  | (name, value) :: rest => (name, list [value]) :: normalizeFields rest

def normalizeItems : List Tree → List Tree
  | [] => []
  | item :: rest => item.normalize :: normalizeItems rest

end

end ViewModel.Tree
