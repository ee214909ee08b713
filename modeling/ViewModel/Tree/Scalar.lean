import ViewModel.Number.Token
import ViewModel.Number.Binary
import ViewModel.Text.Blank
import ViewModel.Tree.Basic

/-!
# Scalars

Texts that are truth values or numbers, read once it is known that one is wanted. A text that is neither
stays a text.
-/

namespace ViewModel.Tree

/-- The truth value or number that a text stands for. Blanks around it and the case of letters do not
matter; a low line is no part of a number; a number too great for a double, unless it is an integer, is
none. -/
def scalarOf? (value : String) : Option Tree :=
  let chars := Text.trimWith Text.isBlank value.toList
  let word := String.ofList (chars.map Char.toLower)
  if word == "true" then some (flag true)
  else if word == "false" then some (flag false)
  else if chars.contains '_' then none
  else
    match Number.integer? chars with
    | some n => some (integer n)
    | none =>
      match Number.decimal? chars with
      | some x => if (Number.Binary.ofFloat x).isFinite then some (decimal x) else none
      | none => none

/-- A text as the scalar it stands for; all else as it is. -/
def scalar : Tree → Tree
  | text value => (scalarOf? value).getD (text value)
  | tree => tree

end ViewModel.Tree
