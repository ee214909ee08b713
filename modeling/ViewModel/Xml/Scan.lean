import ViewModel.Xml.Character
import ViewModel.Xml.Fault

/-!
# Tokens of a document

Reading the pieces of markup from the characters ahead: names, references, comments, processing
instructions, tags. A piece may end too early, or have a character in it that cannot stand there.
-/

namespace ViewModel.Xml

/-- Why a token cannot be read: its end is missing, or a character does not fit. The latter is told by the
number of characters left from it on. -/
inductive Stop
  | unfinished
  | invalid (left : Nat)
  deriving DecidableEq, Repr

/-- The fault of a token that began with so many characters left. -/
def Stop.fault (start : Nat) : Stop → Fault
  | unfinished => .malformed .unclosedToken start
  | invalid left => .malformed .invalidToken left

/-- The characters ahead do not fit. -/
def unfit (ahead : List Char) : Except Stop α :=
  .error (if ahead.isEmpty then .unfinished else .invalid ahead.length)

def scanName : List Char → Except Stop (String × List Char)
  | [] => .error .unfinished
  | c :: rest =>
    if isNameStart c then
      .ok (String.ofList (c :: rest.takeWhile isNameChar), rest.dropWhile isNameChar)
    else unfit (c :: rest)

/-- What a reference refers to: a named entity, or a character by its code. -/
inductive Reference
  | entity (name : String)
  | character (code : Nat)
  deriving DecidableEq, Repr

/-- The value of a digit in bases up to sixteen. -/
def digitOf (c : Char) : Nat :=
  if c.isDigit then c.toNat - 48 else if 'a' ≤ c then c.toNat - 87 else c.toNat - 55

/-- Digits and a semicolon. -/
def scanCode (base : Nat) (isDigit : Char → Bool) (ahead : List Char) : Except Stop (Reference × List Char) :=
  let digits := ahead.takeWhile isDigit
  let rest := ahead.dropWhile isDigit
  if digits.isEmpty then unfit ahead
  else
    match rest with
    | ';' :: rest =>
      .ok (.character (digits.foldl (fun value c => base * value + digitOf c) 0), rest)
    | _ => unfit rest

def isHexDigit (c : Char) : Bool :=
  c.isDigit || ('a' ≤ c && c ≤ 'f') || ('A' ≤ c && c ≤ 'F')

/-- A reference, after its ampersand. -/
def scanReference : List Char → Except Stop (Reference × List Char)
  | '#' :: 'x' :: rest => scanCode 16 isHexDigit rest
  | '#' :: rest => scanCode 10 Char.isDigit rest
  | ahead => do
    let (name, rest) ← scanName ahead
    match rest with
    | ';' :: rest => return (.entity name, rest)
    | _ => unfit rest

/-- The character of an entity that needs no declaration. -/
def predefined? : String → Option Char
  | "lt" => some '<'
  | "gt" => some '>'
  | "amp" => some '&'
  | "quot" => some '"'
  | "apos" => some '\''
  | _ => none

def scanCommentBody : List Char → Except Stop (List Char)
  | [] => .error .unfinished
  | '-' :: '-' :: '>' :: rest => .ok rest
  | '-' :: '-' :: rest => unfit rest
  | c :: rest => if isChar c then scanCommentBody rest else unfit (c :: rest)

/-- A comment, after its first hyphen. -/
def scanComment : List Char → Except Stop (List Char)
  | '-' :: rest => scanCommentBody rest
  | ahead => unfit ahead

/-- The rest of a processing instruction up to its end: its characters, and what follows it. -/
def scanInstructionBody : List Char → Except Stop (List Char × List Char)
  | [] => .error .unfinished
  | '?' :: '>' :: rest => .ok ([], rest)
  | c :: rest =>
    if isChar c then do
      let (body, after) ← scanInstructionBody rest
      return (c :: body, after)
    else unfit (c :: rest)

/-- A processing instruction: the document's own declaration, with its characters, or any other. -/
inductive Instruction
  | declaration (body : List Char)
  | other
  deriving Repr

/-- A processing instruction, after its question mark. Its target may be `xml` in small letters only. -/
def scanInstruction (ahead : List Char) : Except Stop (Instruction × List Char) := do
  let (target, rest) ← scanName ahead
  let reserved := target.length == 3 && String.ofList (target.toList.map Char.toLower) == "xml"
  let instruction (body : List Char) : Instruction :=
    if target == "xml" then .declaration body else .other
  match rest with
  | [] => .error .unfinished
  | c :: after =>
    if reserved && target != "xml" && (isSeparator c || c == '?') then unfit rest
    else if isSeparator c then do
      let (body, after) ← scanInstructionBody after
      return (instruction (c :: body), after)
    else if c == '?' then
      match after with
      | '>' :: after => return (instruction [], after)
      | _ => unfit after
    else unfit rest

/-- A piece of an attribute value: a character as it stands, or a reference with the number of characters
left at its ampersand. -/
inductive Piece
  | char (c : Char)
  | reference (reference : Reference) (left : Nat)
  deriving Repr

/-- A literal blank of an attribute value stands for a space, and so does a line end. -/
def blankPiece (c : Char) : Piece := .char (if isSeparator c then ' ' else c)

/-- The pieces of an attribute value up to its closing quote. `fuel` is at least the number of characters
ahead. -/
def scanValue (quote : Char) : (fuel : Nat) → List Char → Except Stop (List Piece × List Char)
  | 0, _ | _, [] => .error .unfinished
  | fuel + 1, c :: rest => do
    if c = quote then return ([], rest)
    let (piece, rest) ←
      if c = '&' then do
        let (reference, after) ← scanReference rest
        pure (Piece.reference reference (rest.length + 1), after)
      else if c = '<' || !isChar c then unfit (c :: rest)
      else if c = '\r' && rest.head? = some '\n' then pure (.char ' ', rest.tail)
      else pure (blankPiece c, rest)
    let (pieces, after) ← scanValue quote fuel rest
    return (piece :: pieces, after)

/-- An attribute as it stands in a tag: its name, the number of characters left at it, and its value. -/
structure RawAttribute where
  name : String
  left : Nat
  value : List Piece

/-- An equals sign and a quoted value, blanks around the sign. -/
def scanAssigned (ahead : List Char) : Except Stop (List Piece × List Char) :=
  match ahead.dropWhile isSeparator with
  | '=' :: rest =>
    match rest.dropWhile isSeparator with
    | '"' :: rest => scanValue '"' rest.length rest
    | '\'' :: rest => scanValue '\'' rest.length rest
    | rest => unfit rest
  | rest => unfit rest

/-- The end of a start tag, or of an empty element, if it is next. -/
def tagEnd? : List Char → Option (Except Stop (Bool × List Char))
  | '>' :: rest => some (.ok (false, rest))
  | '/' :: '>' :: rest => some (.ok (true, rest))
  | '/' :: rest => some (unfit rest)
  | _ => none

/-- The attributes of a start tag after a blank, and its end: whether the element is empty. `fuel` is at
least the number of characters ahead. -/
def scanAttributes : (fuel : Nat) → List Char → Except Stop ((List RawAttribute × Bool) × List Char)
  | 0, _ => .error .unfinished
  | fuel + 1, ahead =>
    let ahead := ahead.dropWhile isSeparator
    match tagEnd? ahead with
    | some ending => ending.map fun (empty, rest) => (([], empty), rest)
    | none => do
      let (name, rest) ← scanName ahead
      let (value, rest) ← scanAssigned rest
      let first : RawAttribute := ⟨name, ahead.length, value⟩
      match tagEnd? rest with
      | some ending => ending.map fun (empty, rest) => (([first], empty), rest)
      | none =>
        if (rest.head?.map isSeparator).getD false then do
          let ((attributes, empty), rest) ← scanAttributes fuel rest
          return ((first :: attributes, empty), rest)
        else unfit rest

/-- A start tag: the element's name and attributes, and whether it is empty. -/
structure StartTag where
  name : String
  attributes : List RawAttribute
  empty : Bool

def scanStartTag (ahead : List Char) : Except Stop (StartTag × List Char) := do
  let (name, rest) ← scanName ahead
  match tagEnd? rest with
  | some ending => ending.map fun (empty, rest) => (⟨name, [], empty⟩, rest)
  | none =>
    if (rest.head?.map isSeparator).getD false then do
      let ((attributes, empty), rest) ← scanAttributes rest.length rest
      return (⟨name, attributes, empty⟩, rest)
    else unfit rest

/-- An end tag, after its slash: its name. -/
def scanEndTag (ahead : List Char) : Except Stop (String × List Char) := do
  let (name, rest) ← scanName ahead
  match rest.dropWhile isSeparator with
  | '>' :: rest => return (name, rest)
  | rest => unfit rest

end ViewModel.Xml
