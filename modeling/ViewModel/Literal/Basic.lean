import ViewModel.Number.Written
import ViewModel.Text.Identifier
import ViewModel.Tree.Written

/-!
# Literals

The parts of the generated literals: scalars, quoted texts, references to enum members, and image paths.

* `toList_quote`: the characters of a quoted text.
-/

namespace ViewModel.Literal

/-- A double quote with a backslash before it, any other character as it is. -/
def escapeChar (c : Char) : List Char := if c = '"' then ['\\', '"'] else [c]

/-- The text with a backslash before every double quote; nothing else is escaped. -/
def escape (text : String) : String := String.ofList (text.toList.flatMap escapeChar)

/-- A scalar as it stands in the source: truth values in small letters, integral numbers as integers,
and anything else as in a message. -/
def plain : Tree → String
  | .flag value => if value then "true" else "false"
  | .decimal x =>
    match (Number.Binary.ofFloat x).toInt? with
    | some n => toString n
    | none => (Number.Binary.ofFloat x).written
  | tree => tree.written

def quote (text : String) : String := "\"" ++ escape text ++ "\""

/-- A member of an enum: after a point if it is an identifier, else quoted between brackets. -/
def memberRef (enum member : String) : String :=
  if Text.isIdentifier member then enum ++ "." ++ member
  else enum ++ "[" ++ quote member ++ "]"

/-- The characters without the first occurrence of `part`. -/
def dropFirst (part : List Char) : List Char → List Char
  | [] => []
  | c :: rest =>
    if part.isPrefixOf (c :: rest) then (c :: rest).drop part.length else c :: dropFirst part rest

/-- The folder that image sources are given in, left out of their paths. -/
def imageFolder : String := "component/"

/-- The path of an image source: what follows its first semicolon, without the image folder. There is
none without a semicolon or if nothing follows. -/
def imagePath? (source : Tree) : Option String :=
  match (plain source).toList.dropWhile (· != ';') with
  | [] => none
  | _ :: rest =>
    let path := dropFirst imageFolder.toList rest
    if path.isEmpty then none else some (String.ofList path)

theorem toList_quote (text : String) : (quote text).toList = '"' :: (text.toList.flatMap escapeChar ++ ['"']) := by
  simp [quote, escape]

end ViewModel.Literal
