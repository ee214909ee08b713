import ViewModel.Terminal.Grapheme
import ViewModel.Text.Blank

/-!
# Wrapped text

A text that is wider than the terminal goes on in the next line, if possible between two words. A line
that is still too wide is cut.
-/

namespace ViewModel.Terminal

open Text

/-- What becomes of a word that is wider than a line: it goes on in the next line, or it is cut and
marked as cut. -/
inductive Overflow
  | fold
  | ellipsis
  deriving DecidableEq, Repr

/-- Where a line stands among the cells it may take. -/
inductive Justify
  | natural
  | left
  | center
  | right
  deriving DecidableEq, Repr

def splitLines : List Char → List (List Char)
  | [] => [[]]
  | c :: rest =>
    if c = '\n' then [] :: splitLines rest
    else
      match splitLines rest with
      | [] => [[c]]
      | first :: others => (c :: first) :: others

/-- How far apart tabs are. -/
def tabSize : Nat := 8

/-- The characters of a line with every tab replaced by spaces up to the next multiple of `tabSize`. The
characters since the last tab are kept in `before`, last one first, and start at `column`. -/
def expandTabs (column : Nat) (before : List Char) : List Char → List Char
  | [] => before.reverse
  | c :: rest =>
    if c = '\t' then
      let part := before.reverse ++ [' ']
      let reached := column + width part
      let spaces := (tabSize - reached % tabSize) % tabSize
      part ++ List.replicate spaces ' ' ++ expandTabs (reached + spaces) [] rest
    else expandTabs column (c :: before) rest

/-- The words of a line with the blanks after them; the first also has the blanks before it. -/
def words (chars : List Char) : List (List Char) :=
  let blanks := chars.takeWhile isBlank
  match _found : chars.dropWhile isBlank with
  | [] => []
  | start :: others =>
    let word := (start :: others).takeWhile (!isBlank ·)
    let after := others.dropWhile (!isBlank ·)
    (blanks ++ word ++ after.takeWhile isBlank) :: words (after.dropWhile isBlank)
termination_by chars.length
decreasing_by
  have outer := (List.dropWhile_sublist isBlank (l := chars)).length_le
  have middle := (List.dropWhile_sublist (!isBlank ·) (l := others)).length_le
  have inner := (List.dropWhile_sublist isBlank (l := others.dropWhile (!isBlank ·))).length_le
  simp only [_found, List.length_cons] at outer
  omega

/-- A line that is being filled: the full lines before it, last one first, its characters, and the cells
they take. -/
structure Filling where
  full : List (List Char) := []
  current : List Char := []
  used : Nat := 0

/-- The filling in a new line. Nothing stands before the first one. -/
def Filling.break (filling : Filling) (first : Bool) : Filling :=
  if first then filling else { filling with full := filling.current :: filling.full, current := [] }

def Filling.add (cells : Nat) (overflow : Overflow) (filling : Filling) (word : List Char) : Filling :=
  let first := filling.full.isEmpty && filling.current.isEmpty
  let size := width ((word.reverse.dropWhile isBlank).reverse)
  if filling.used + size ≤ cells then
    { filling with current := filling.current ++ word, used := filling.used + width word }
  else if size ≤ cells then
    if filling.used = 0 then { filling with current := filling.current ++ word }
    else { filling.break first with current := word, used := width word }
  else
    match overflow with
    | .ellipsis => { filling.break first with current := word, used := width word }
    | .fold =>
      (chop cells word).foldl (fun filling piece =>
        let first := filling.full.isEmpty && filling.current.isEmpty
        { filling.break first with current := piece, used := width piece }) filling

def breakLine (cells : Nat) (overflow : Overflow) (line : List Char) : List (List Char) :=
  match words line with
  | [] => [line]
  | words =>
    let filling := words.foldl (Filling.add cells overflow) {}
    (filling.current :: filling.full).reverse

/-- The line without the blanks at its end that stand beyond as many characters. -/
def trimEnd (size : Nat) (line : List Char) : List Char :=
  let blanks := (line.reverse.takeWhile isBlank).length
  line.take (line.length - min blanks (line.length - size))

def cut (cells : Nat) (overflow : Overflow) (line : List Char) : List Char :=
  if width line ≤ cells then line
  else
    match overflow with
    | .fold => fit cells line
    | .ellipsis => fit (cells - 1) line ++ ['…']

/-- The line in its place among as many cells. -/
def Justify.place (justify : Justify) (cells : Nat) (overflow : Overflow) (line : List Char) : List Char :=
  let spaces (count : Nat) : List Char := List.replicate count ' '
  let trimmed := cut cells overflow (line.reverse.dropWhile isBlank).reverse
  match justify with
  | .natural => cut cells overflow line
  | .left =>
    let line := cut cells overflow line
    line ++ spaces (cells - width line)
  | .center =>
    let left := (cells - width trimmed) / 2
    spaces left ++ trimmed ++ spaces (cells - width trimmed - left)
  | .right => spaces (cells - width trimmed) ++ trimmed

/-- The lines that a text takes on as many cells. Only lines that may be broken lose blanks at their end. -/
def wrap (cells : Nat) (overflow : Overflow) (justify : Justify) (breaks : Bool) (text : List Char) :
    List (List Char) :=
  (splitLines text).flatMap fun line =>
    let line := expandTabs 0 [] line
    let lines := if breaks then (breakLine cells overflow line).map (trimEnd cells) else [line]
    lines.map (justify.place cells overflow)

/-- The cells that the widest line of a text takes, before tabs are replaced. -/
def measure (text : List Char) : Nat :=
  let endsLine (c : Char) : Bool :=
    let n := c.toNat
    (10 ≤ n && n ≤ 13) || (28 ≤ n && n ≤ 30) || n == 0x85 || n == 0x2028 || n == 0x2029
  let lines := splitLines (text.map fun c => if endsLine c then '\n' else c)
  (lines.map width).foldl max 0

end ViewModel.Terminal
