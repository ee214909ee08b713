import ViewModel.Terminal.Emoji
import ViewModel.Terminal.Parameter
import ViewModel.Terminal.Style
import ViewModel.Text.Quoted

/-!
# Markup

A line to show may hold tags in square brackets: `[style]` starts a style, `[/style]` ends it, and `[/]`
ends the latest. What is shown is the text without the tags, with emoji in place of their codes. A bracket
that starts no tag is text, and a backslash before a tag makes text of it. A tag may have parameters after
an equals sign, which are looked at when it ends.

* `length_of_tag`: what follows a tag is shorter than what it was found in, so showing ends.
-/

namespace ViewModel.Terminal.Markup

/-- Why a line cannot be shown: a tag ends a style that was not started, or one with unfit parameters, or a
part of a colour is missing. -/
inductive Fault
  | unmatched (name : String)
  | nothingOpen
  | unfit (parameters : String)
  | colour (fault : ColourFault)
  deriving DecidableEq, Repr

def Fault.kind : Fault → String
  | colour _ => "ValueError"
  | _ => "MarkupError"

def Fault.message : Fault → String
  | unmatched name => "closing tag '[/" ++ name ++ "]' doesn't match any open tag"
  | nothingOpen => "closing tag '[/]' has nothing to close"
  | unfit parameters => "error parsing " ++ Text.quoted parameters
  | colour _ => "a part of a colour is no number"

def startsTag (c : Char) : Bool := ('a' ≤ c && c ≤ 'z') || c == '#' || c == '/' || c == '@'

/-- The inside of the tag that an opening bracket before the characters starts, and what follows it. -/
def tag? (chars : List Char) : Option (List Char × List Char) :=
  let inside := chars.takeWhile fun c => c != '[' && c != ']'
  match chars.head?.any startsTag, chars.dropWhile fun c => c != '[' && c != ']' with
  | true, ']' :: after => some (inside, after)
  | _, _ => none

theorem length_of_tag {chars inside after : List Char} (found : tag? chars = some (inside, after)) :
    after.length < chars.length := by
  simp only [tag?] at found
  split at found
  · next outer =>
    simp only [Option.some.injEq, Prod.mk.injEq] at found
    have bound := (List.dropWhile_sublist (fun c => c != '[' && c != ']') (l := chars)).length_le
    simp only [outer, List.length_cons, found.2] at bound
    omega
  · simp at found

/-- A stretch of a line: text, or a tag. -/
inductive Piece
  | text (chars : List Char)
  | tag (inside : List Char)
  deriving DecidableEq, Repr

/-- The pieces of some characters, after text that is not cut off yet, last character first. -/
def pieces (before : List Char) (chars : List Char) : List Piece :=
  match chars with
  | [] => [.text before.reverse]
  | '[' :: rest =>
    match found : tag? rest with
    | some (inside, after) =>
      have := length_of_tag found
      let slashes := (before.takeWhile (· == '\\')).length
      let text := before.dropWhile (· == '\\')
      let kept := List.replicate (slashes / 2) '\\'
      if slashes % 2 = 1 then
        .text text.reverse :: .text kept :: .text ('[' :: inside ++ [']']) :: pieces [] after
      else .text text.reverse :: .text kept :: .tag inside :: pieces [] after
    | none => pieces ('[' :: before) rest
  | c :: rest => pieces (c :: before) rest
termination_by chars.length

/-- Text with every backslash before an opening bracket left out. -/
def unescape : List Char → List Char
  | '\\' :: '[' :: rest => '[' :: unescape rest
  | c :: rest => c :: unescape rest
  | [] => []

/-- Whether a terminal can show the character as text. -/
def isShown (c : Char) : Bool := !(c == '\x07' || c == '\x08' || (0x0b ≤ c.toNat && c.toNat ≤ 0x0d))

/-- An open style: its name in canonical form, and its parameters if it has any. -/
structure Opened where
  name : String
  parameters : Option String
  deriving DecidableEq, Repr

/-- The name in a tag, and what stands after an equals sign. -/
def splitTag (inside : List Char) : String × Option String :=
  (String.ofList (inside.takeWhile (· != '=')),
    ((inside.dropWhile (· != '=')).tail?).map String.ofList)

def canonicalName (name : String) : Except Fault String := (canonical name).mapError .colour

/-- What a style that ends has for its parameters: those of a call have to be fit. -/
def Opened.finish (opened : Opened) : Except Fault Unit :=
  match opened.parameters with
  | some parameters =>
    if "@".isPrefixOf opened.name && parameters != "" && !Parameter.isFit parameters then
      .error (.unfit parameters)
    else .ok ()
  | none => .ok ()

/-- The open styles, latest first, after a tag. -/
def applyTag (styles : List Opened) (inside : List Char) : Except Fault (List Opened) := do
  let (name, parameters) := splitTag inside
  match name.toList with
  | '/' :: name =>
    let name := Text.trim (String.ofList name)
    if name == "" then
      match styles with
      | [] => throw .nothingOpen
      | latest :: rest =>
        latest.finish
        return rest
    else
      let name ← canonicalName name
      match styles.find? (·.name == name) with
      | some opened =>
        opened.finish
        return styles.eraseP (·.name == name)
      | none => throw (.unmatched name)
  | _ => return ⟨← canonicalName name, parameters⟩ :: styles

/-- The text of some pieces within open styles. -/
def shown (styles : List Opened) : List Piece → Except Fault (List Char)
  | [] => .ok []
  | .text chars :: rest => do
    return (Emoji.replaceCodes (unescape chars)).filter isShown ++ (← shown styles rest)
  | .tag inside :: rest => do shown (← applyTag styles inside) rest

/-- The check of the styles that are shown: with its parameters, each is a style of its own. -/
def checkStyles : List Piece → Except Fault Unit
  | [] => .ok ()
  | .text _ :: rest => checkStyles rest
  | .tag inside :: rest => do
    let (name, parameters) := splitTag inside
    if let some parameters := parameters then
      unless "/".isPrefixOf name || "@".isPrefixOf name do
        let name ← canonicalName name
        let _ ← canonicalName (name ++ " " ++ parameters)
    checkStyles rest

/-- What is shown for a line with markup. -/
def plain (line : String) : Except Fault String := do
  let pieces := pieces [] line.toList
  let chars ← shown [] pieces
  checkStyles pieces
  return String.ofList chars

/-- The characters with a backslash more before every tag, and twice the backslashes that stand there. -/
def escapeOnto (before : List Char) (chars : List Char) : List Char :=
  match chars with
  | [] => before.reverse
  | '[' :: rest =>
    match found : tag? rest with
    | some (inside, after) =>
      have := length_of_tag found
      let slashes := before.takeWhile (· == '\\')
      before.reverse ++ slashes ++ '\\' :: '[' :: inside ++ ']' :: escapeOnto [] after
    | none => escapeOnto ('[' :: before) rest
  | c :: rest => escapeOnto (c :: before) rest
termination_by chars.length

/-- A text as markup that shows it. A single backslash at its end is doubled, lest it change what
follows. -/
def escape (text : String) : String :=
  let chars := escapeOnto [] text.toList
  match chars.reverse with
  | ['\\'] => String.ofList (chars ++ ['\\'])
  | '\\' :: c :: _ => String.ofList (if c = '\\' then chars else chars ++ ['\\'])
  | _ => String.ofList chars

end ViewModel.Terminal.Markup
