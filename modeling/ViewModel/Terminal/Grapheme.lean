import ViewModel.Terminal.Width

/-!
# Graphemes

What a terminal shows as one sign: a character that takes cells, and after it those that take none, those
joined to it, and the mark that makes a picture of it. Texts are measured and cut by these.
-/

namespace ViewModel.Terminal

/-- The character that joins the next one to the one before. -/
def joiner : Char := '\u200d'

/-- The character that makes a picture of the one before. -/
def pictureMark : Char := '\ufe0f'

/-- A sign: its characters, and how many cells it takes. -/
structure Grapheme where
  chars : List Char
  cells : Nat
  deriving DecidableEq, Repr

def Grapheme.extend (grapheme : Grapheme) (chars : List Char) : Grapheme :=
  { grapheme with chars := grapheme.chars ++ chars }

/-- The sign as a picture of its character, where that is `measured`. -/
def Grapheme.asPicture (grapheme : Grapheme) (measured : Option Char) : Grapheme :=
  if measured.any isPictured then { grapheme with cells := grapheme.cells + 1 } else grapheme

/-- The signs of some characters after the sign `latest`. The character that was last to take cells is
`measured`, unless there is none or it became a picture. -/
def graphemesAfter (latest : Grapheme) (measured : Option Char) : List Char → List Grapheme
  | [] => [latest]
  | c :: rest =>
    if c = joiner then
      match rest with
      | next :: rest => graphemesAfter (latest.extend [c, next]) measured rest
      | [] => [latest.extend [c]]
    else if c = pictureMark then
      graphemesAfter ((latest.extend [c]).asPicture measured)
        (if measured.any isPictured then none else measured) rest
    else if charWidth c = 0 then graphemesAfter (latest.extend [c]) measured rest
    else latest :: graphemesAfter ⟨[c], charWidth c⟩ (some c) rest

/-- The signs of a text. What takes no cell is a sign of its own only at the start. -/
def graphemes : List Char → List Grapheme
  | [] => []
  | c :: rest => graphemesAfter ⟨[c], charWidth c⟩ (if charWidth c = 0 then none else some c) rest

/-- The cells that some signs take together. -/
def cellsOf (signs : List Grapheme) : Nat := signs.foldl (fun sum sign => sum + sign.cells) 0

/-- How many cells some characters take. One that is joined to nothing is not counted. -/
def width : List Char → Nat
  | [] => 0
  | c :: next :: rest => if c = joiner then width rest else cellsOf (graphemes (c :: next :: rest))
  | [c] => charWidth c

/-- The start of some signs that takes as many cells. Where a sign does not fit in whole, a space stands in
its place. -/
def startOf (cells : Nat) : List Grapheme → List Char
  | [] => []
  | sign :: rest =>
    if cells = 0 then []
    else if sign.cells ≤ cells then sign.chars ++ startOf (cells - sign.cells) rest
    else [' ']

/-- The characters cut or filled up with spaces to exactly as many cells. -/
def fit (cells : Nat) (chars : List Char) : List Char :=
  if width chars ≤ cells then chars ++ List.replicate (cells - width chars) ' '
  else startOf cells (graphemes chars)

/-- The signs cut into pieces of at most `cells` cells, after a piece of `used` cells that is not cut off
yet. -/
def chopSigns (cells : Nat) (before : List Char) (used : Nat) : List Grapheme → List (List Char)
  | [] => [before]
  | sign :: rest =>
    if cells < used + sign.cells then before :: chopSigns cells sign.chars sign.cells rest
    else chopSigns cells (before ++ sign.chars) (used + sign.cells) rest

/-- The characters cut into pieces of at most `cells` cells. -/
def chop (cells : Nat) (chars : List Char) : List (List Char) := chopSigns cells [] 0 (graphemes chars)

end ViewModel.Terminal
