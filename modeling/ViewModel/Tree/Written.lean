import ViewModel.Number.Written
import ViewModel.Text.Quoted
import ViewModel.Tree.Basic

/-!
# Trees in messages

How a value stands in a message: a text as it is, or quoted where the message points at the value
itself or at something that holds it.
-/

namespace ViewModel.Tree

mutual

/-- The value as it is shown inside another one. -/
def quoted : Tree → String
  | nothing => "None"
  | flag value => if value then "True" else "False"
  | integer value => toString value
  | decimal value => (Number.Binary.ofFloat value).written
  | text value => Text.quoted value
  | list items => "[" ++ ", ".intercalate (quotedItems items) ++ "]"
  | element fields => "\x7b" ++ ", ".intercalate (quotedFields fields) ++ "\x7d"

def quotedItems : List Tree → List String
  | [] => []
  | item :: rest => item.quoted :: quotedItems rest

def quotedFields : List (String × Tree) → List String
  | [] => []
  | (name, value) :: rest => (Text.quoted name ++ ": " ++ value.quoted) :: quotedFields rest

end

/-- The value as it stands alone: a text without quotes. -/
def written : Tree → String
  | text value => value
  | tree => tree.quoted

end ViewModel.Tree
