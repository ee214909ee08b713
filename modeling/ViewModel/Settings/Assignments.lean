import ViewModel.Table
import ViewModel.Text.Blank

/-!
# Assignments

A file of assignments gives values to names, one statement after the other: `NAME=value`, with `export`
before it if one likes, a value between quotes or up to the end of the line or a comment, and references
to other names in a value. A statement in no such form is passed over to the end of its line.

* `length_of_reference`: what follows a reference is shorter than the text it stands in, so filling in
  references ends.
-/

namespace ViewModel.Settings.Assignments

open Text

/-- The characters with the same mark for every line end. -/
def unifyLineEnds : List Char → List Char
  | '\r' :: '\n' :: rest => '\n' :: unifyLineEnds rest
  | '\r' :: rest => '\n' :: unifyLineEnds rest
  | c :: rest => c :: unifyLineEnds rest
  | [] => []

def isLineEnd (c : Char) : Bool := c == '\n'

/-- White space within a line. -/
def isInlineBlank (c : Char) : Bool := isBlank c && !isLineEnd c

/-- What a statement gives: a name with its value, if it has one; a comment gives nothing. -/
abbrev Statement := Option (String × Option String)

/-- What follows the word that may stand before a name. -/
def skipExport (chars : List Char) : List Char :=
  let rest := chars.drop 6
  if "export".toList.isPrefixOf chars && rest.head?.any isInlineBlank then
    rest.dropWhile isInlineBlank
  else chars

/-- The name that a statement starts with, and what follows it; a comment has none. The error is what is
left where the form is broken. -/
def key (chars : List Char) : Except (List Char) (Option String × List Char) :=
  match chars with
  | '#' :: _ => .ok (none, chars)
  | '\'' :: rest =>
    let name := rest.takeWhile (· != '\'')
    match name, rest.dropWhile (· != '\'') with
    | _ :: _, '\'' :: after => .ok (some (String.ofList name), after)
    | _, _ => .error chars
  | _ =>
    let isNameChar (c : Char) : Bool := c != '=' && c != '#' && !isBlank c
    match chars.takeWhile isNameChar with
    | [] => .error chars
    | name => .ok (some (String.ofList name), chars.dropWhile isNameChar)

/-- What stands before the closing quote, and after it. A backslash takes the character after it along,
so that a quote there does not close. -/
def closing (quote : Char) : List Char → Option (List Char × List Char)
  | [] => none
  | '\\' :: c :: rest => (closing quote rest).map fun (inside, after) => ('\\' :: c :: inside, after)
  | c :: rest =>
    if c = quote then some ([], rest)
    else (closing quote rest).map fun (inside, after) => (c :: inside, after)

/-- What a letter after a backslash stands for between double quotes. -/
def doubleEscape? : Char → Option Char
  | 'a' => some '\x07'
  | 'b' => some '\x08'
  | 'f' => some '\x0c'
  | 'n' => some '\n'
  | 'r' => some '\r'
  | 't' => some '\t'
  | 'v' => some '\x0b'
  | c => if c == '\\' || c == '\'' || c == '"' then some c else none

/-- What a character after a backslash stands for between single quotes. -/
def singleEscape? (c : Char) : Option Char :=
  if c == '\\' || c == '\'' then some c else none

/-- The characters with every escape replaced by what it stands for. -/
def unescape (escape? : Char → Option Char) : List Char → List Char
  | '\\' :: c :: rest =>
    match escape? c with
    | some meant => meant :: unescape escape? rest
    | none => '\\' :: unescape escape? (c :: rest)
  | c :: rest => c :: unescape escape? rest
  | [] => []

/-- Whether a comment starts here: white space, then its mark. -/
def startsComment (chars : List Char) : Bool :=
  chars.head?.any isBlank && (chars.dropWhile isBlank).head? == some '#'

def beforeComment : List Char → List Char
  | [] => []
  | c :: rest => if startsComment (c :: rest) then [] else c :: beforeComment rest

/-- The value that follows an equals sign, and what follows the value. Without quotes it goes up to a
comment or the end of the line; the white space after the equals sign may be what a comment starts with. -/
def value (chars : List Char) : Except (List Char) (String × List Char) :=
  let start := chars.dropWhile isInlineBlank
  let between (quote : Char) (escape? : Char → Option Char) (rest : List Char) :
      Except (List Char) (String × List Char) :=
    match closing quote rest with
    | some (inside, after) => .ok (String.ofList (unescape escape? inside), after)
    | none => .error start
  match start with
  | '\'' :: rest => between '\'' singleEscape? rest
  | '"' :: rest => between '"' doubleEscape? rest
  | _ =>
    let line := beforeComment (chars.takeWhile (!isLineEnd ·))
    .ok (String.ofList (trimWith isBlank line), chars.dropWhile (!isLineEnd ·))

/-- What follows the end of a statement: a comment, if there is one, and the end of the line. -/
def finish (chars : List Char) : Except (List Char) (List Char) :=
  let rest :=
    match chars.dropWhile isInlineBlank with
    | '#' :: comment => comment.dropWhile (!isLineEnd ·)
    | _ => chars
  match rest.dropWhile isInlineBlank with
  | [] => .ok []
  | c :: after => if isLineEnd c then .ok after else .error rest

/-- The first statement, and what follows it. -/
def statement (chars : List Char) : Except (List Char) (Statement × List Char) :=
  match chars.dropWhile isBlank with
  | [] => .ok (none, [])
  | start => do
    let (name, rest) ← key (skipExport start)
    match rest.dropWhile isInlineBlank with
    | '=' :: rest =>
      let (value, rest) ← value rest
      return (name.map (·, some value), ← finish rest)
    | rest => return (name.map (·, none), ← finish rest)

def nextLine (chars : List Char) : List Char := (chars.dropWhile (!isLineEnd ·)).drop 1

def statements (chars : List Char) : List (String × Option String) :=
  let (found, rest) :=
    match statement chars with
    | .ok (found, rest) => (found, rest)
    | .error rest => (none, nextLine rest)
  if rest.length < chars.length then found.toList ++ statements rest else found.toList
termination_by chars.length

/-! ## References -/

/-- A reference to a name, with the text that stands in for an unknown one. -/
structure Reference where
  name : String
  default : List Char

/-- The reference that follows a dollar sign and an opening brace, and what comes after it. -/
def reference? (chars : List Char) : Option (Reference × List Char) :=
  let isNameChar (c : Char) : Bool := c != '\x7d' && c != ':'
  let name := String.ofList (chars.takeWhile isNameChar)
  match chars.dropWhile isNameChar with
  | '\x7d' :: after => some (⟨name, []⟩, after)
  | ':' :: '-' :: rest =>
    match rest.dropWhile (· != '\x7d') with
    | '\x7d' :: after => some (⟨name, rest.takeWhile (· != '\x7d')⟩, after)
    | _ => none
  | _ => none

theorem length_of_dropWhile {p : Char → Bool} {chars rest : List Char} {c : Char}
    (found : chars.dropWhile p = c :: rest) : rest.length < chars.length := by
  have bound := (List.dropWhile_sublist p (l := chars)).length_le
  simp only [found, List.length_cons] at bound
  omega

theorem length_of_reference {chars after : List Char} {reference : Reference}
    (found : reference? chars = some (reference, after)) : after.length < chars.length := by
  simp only [reference?] at found
  split at found
  · next tail outer =>
    simp only [Option.some.injEq, Prod.mk.injEq] at found
    rw [← found.2]
    exact length_of_dropWhile outer
  · next rest outer =>
    split at found
    · next tail inner =>
      simp only [Option.some.injEq, Prod.mk.injEq] at found
      rw [← found.2]
      have first := length_of_dropWhile outer
      have second := length_of_dropWhile inner
      simp only [List.length_cons] at first
      omega
    · simp at found
  · simp at found

/-- The characters with every reference filled in. -/
def fill (known : String → Option (Option String)) (chars : List Char) : List Char :=
  match chars with
  | '$' :: '\x7b' :: rest =>
    match found : reference? rest with
    | some (reference, after) =>
      have := length_of_reference found
      let meant :=
        match known reference.name with
        | some text => (text.getD "").toList
        | none => reference.default
      meant ++ fill known after
    | none => '$' :: fill known ('\x7b' :: rest)
  | c :: rest => c :: fill known rest
  | [] => []
termination_by chars.length
decreasing_by all_goals (simp_all; try omega)

/-- The values of all names, in order of their first assignment. A reference is to the latest value given
before it, or else to the environment. -/
def resolve (environment : Table String) (assignments : List (String × Option String)) :
    Table (Option String) :=
  assignments.foldl (fun given (name, value) =>
    let known (other : String) : Option (Option String) :=
      (given.get? other).orElse fun _ => (environment.get? other).map some
    given.put name (value.map fun text => String.ofList (fill known text.toList))) .empty

/-- The text of a file without the mark of byte order that may stand before it. -/
def withoutMark : List Char → List Char
  | '\ufeff' :: rest => rest
  | chars => chars

/-- The values that the text of a file of assignments gives. -/
def parse (environment : Table String) (text : String) : Table (Option String) :=
  resolve environment (statements (unifyLineEnds (withoutMark text.toList)))

end ViewModel.Settings.Assignments
