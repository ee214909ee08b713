import ViewModel.Terminal.Markup
import ViewModel.Terminal.Wrap

/-!
# Grids

Rows of cells in columns, in a frame with round corners under a centred title. A column is as wide as its
widest cell. Where that takes more than the terminal has, the widest columns that may be broken are made
narrower first, and then all of them.
-/

namespace ViewModel.Terminal

/-- A column: what stands above it, where its cells stand, and whether they go on in the next line. -/
structure Column where
  header : String
  justify : Justify := .left
  breaks : Bool := true

/-- A title, columns, and rows with a cell for each of them. All texts may hold markup. -/
structure Grid where
  title : String
  columns : List Column
  rows : List (List String)

namespace Grid

/-- The cells that the blanks beside a text take in a column. -/
def padding : Nat := 2

/-- The cells that a column takes if it may take as many as `limit`. -/
def columnWidth (limit : Nat) (cells : List (List Char)) : Nat :=
  (cells.map fun cell => min (measure cell + padding) limit).foldl max 0

/-- The cells that some columns take together. -/
def total (sizes : List Nat) : Nat := sizes.foldl (· + ·) 0

/-- A quotient to the nearest number; of two that are as near, to the even one. -/
def nearest (number divisor : Nat) : Nat :=
  let quotient := number / divisor
  let rest := number % divisor
  if 2 * rest < divisor then quotient
  else if divisor < 2 * rest then quotient + 1
  else quotient + quotient % 2

/-- A column to make narrower: its share of the reduction, the most it can lose, and its width. -/
structure Reducible where
  share : Nat
  most : Nat
  width : Nat

/-- The widths after `excess` was taken off them, each according to its share of `shares`. -/
def reduce (excess shares : Nat) : List Reducible → List Nat
  | [] => []
  | column :: rest =>
    if column.share = 0 || column.most = 0 then column.width :: reduce excess shares rest
    else
      let loss := min column.most (nearest (column.share * excess) shares)
      (column.width - loss) :: reduce (excess - loss) (shares - column.share) rest

/-- The sum of the shares of those that can lose anything. -/
def sharesOf (columns : List Reducible) : Nat :=
  total ((columns.filter (·.most != 0)).map (·.share))

/-- The widths after the widest columns that may be broken were made narrower, step by step, until they
fit or are as narrow as the others. Every step takes something off, so as many steps as there are cells
will do. -/
def narrowWidest (limit : Nat) (breaks : List Bool) : Nat → List Nat → List Nat
  | 0, widths => widths
  | steps + 1, widths =>
    let excess := total widths - limit
    let breakable := ((widths.zip breaks).filter (·.2)).map (·.1)
    let widest := breakable.foldl max 0
    let second := (breakable.filter (· != widest)).foldl max 0
    if excess = 0 || widest = second then widths
    else
      let columns := (widths.zip breaks).map fun (width, breaks) =>
        (⟨if breaks && width == widest then 1 else 0, min excess (widest - second), width⟩ : Reducible)
      narrowWidest limit breaks steps (reduce excess (sharesOf columns) columns)

/-- The widths of columns that may take as many as `limit` cells together. -/
def fitWidths (limit : Nat) (columns : List (Bool × List (List Char))) : List Nat :=
  let natural := columns.map fun (_, cells) => columnWidth limit cells
  if total natural ≤ limit then natural
  else
    let widths := narrowWidest limit (columns.map (·.1)) (total natural) natural
    let even := widths.map fun width => (⟨1, width, width⟩ : Reducible)
    let widths := if total widths ≤ limit then widths
      else reduce (total widths - limit) (sharesOf even) even
    (widths.zip columns).map fun (width, _, cells) => columnWidth width cells

def cellLines (size : Nat) (column : Column) (cell : List Char) : List (List Char) :=
  let inner := size - padding
  if inner = 0 then []
  else (wrap inner .ellipsis column.justify column.breaks cell).map fun line =>
    fit size (' ' :: fit inner line ++ [' '])

/-- The lines of a row; lower cells are filled up with blanks, below or, in the header, above. -/
def rowLines (isHeader : Bool) (cells : List (Nat × List (List Char))) : List (List Char) :=
  let height := (cells.map (·.2.length)).foldl max 1
  let filled := cells.map fun (size, lines) =>
    let blanks := List.replicate (height - lines.length) (List.replicate size ' ')
    if isHeader then blanks ++ lines else lines ++ blanks
  (List.range height).map fun n =>
    let parts := filled.map fun lines => lines.getD n []
    '│' :: List.intercalate ['│'] parts ++ ['│']

def rule (left middle right : Char) (widths : List Nat) : List Char :=
  left :: List.intercalate [middle] (widths.map fun size => List.replicate size '─') ++ [right]

def lines (grid : Grid) (cells : Nat) : Except Markup.Fault (List (List Char)) := do
  let plain (text : String) : Except Markup.Fault (List Char) := String.toList <$> Markup.plain text
  let headers ← grid.columns.mapM fun column => plain column.header
  let rows ← grid.rows.mapM fun row => row.mapM plain
  let title ← plain grid.title
  let frame := grid.columns.length + 1
  let contents := grid.columns.zipIdx.map fun (column, n) =>
    (column.breaks, (headers :: rows).map fun row => row.getD n [])
  let widths := fitWidths (cells - frame) contents
  let row (isHeader : Bool) (texts : List (List Char)) : List (List Char) :=
    rowLines isHeader <| (widths.zip (grid.columns.zip texts)).map fun (size, column, text) =>
      (size, cellLines size column text)
  return wrap (total widths + frame) .fold .center true title
    ++ [rule '╭' '┬' '╮' widths] ++ row true headers
    ++ [rule '├' '┼' '┤' widths] ++ rows.flatMap (row false)
    ++ [rule '╰' '┴' '╯' widths]

end Grid

end ViewModel.Terminal
