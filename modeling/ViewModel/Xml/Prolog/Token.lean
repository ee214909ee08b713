import ViewModel.Xml.Scan

/-!
# Tokens around the root element

Before and after the root element a document is a row of tokens: blanks, comments, instructions, and the
names, marks and literals that declarations are made of.
-/

namespace ViewModel.Xml.Prolog

/-- How often a part of an element's content may occur. -/
inductive Repetition
  | once
  | optional
  | any
  | many
  deriving DecidableEq, Repr

/-- A token outside the root element. -/
inductive Token
  | space
  | instruction (instruction : Instruction)
  | comment
  | openDeclaration (keyword : String)
  | closeDeclaration
  | name (text : String) (repetition : Repetition)
  | nameToken
  | hashName (text : String)
  | literal (content : List Char)
  | parameter (name : String)
  | percent
  | bar
  | comma
  | openGroup
  | closeGroup (repetition : Repetition)
  | openSubset
  | closeSubset
  | openSection
  | closeSection
  | tag

/-- The repetition mark, if one is next, and what follows it. -/
def repetition : List Char → Repetition × List Char
  | '?' :: rest => (.optional, rest)
  | '*' :: rest => (.any, rest)
  | '+' :: rest => (.many, rest)
  | ahead => (.once, ahead)

/-- The end of the text or one of the characters that may follow a token is next. -/
def followedBy (ends : List Char) (ahead : List Char) : Bool :=
  match ahead with
  | [] => true
  | c :: _ => ends.contains c

/-- A name, or a word that a name may only go on with, and its repetition mark. -/
def scanWord (c : Char) (rest : List Char) : Except Stop (Token × List Char) :=
  let word := String.ofList (c :: rest.takeWhile isNameChar)
  let rest := rest.dropWhile isNameChar
  let (mark, after) := repetition rest
  if isNameStart c then
    if mark != .once then .ok (.name word mark, after)
    else if followedBy [' ', '\t', '\n', '\r', '>', ')', ',', '|', '[', '%'] rest then
      .ok (.name word .once, rest)
    else unfit rest
  else if followedBy [' ', '\t', '\n', '\r', '>', ')', ',', '|', '[', '%'] rest then
    .ok (.nameToken, rest)
  else unfit rest

def scanLiteral (quote : Char) : List Char → Except Stop (List Char × List Char)
  | [] => .error .unfinished
  | c :: rest =>
    if c = quote then .ok ([], rest)
    else if isChar c then do
      let (content, after) ← scanLiteral quote rest
      return (c :: content, after)
    else unfit (c :: rest)

/-- A declaration's opening, after its exclamation mark: its keyword, of letters only. -/
def scanOpening : List Char → Except Stop (Token × List Char)
  | '-' :: rest => do return (.comment, ← scanComment rest)
  | '[' :: rest => .ok (.openSection, rest)
  | ahead =>
    let isLetter (c : Char) : Bool := c.isAlpha || c == '_' || c == ':'
    let keyword := ahead.takeWhile isLetter
    let rest := ahead.dropWhile isLetter
    match keyword, rest with
    | [], rest => unfit rest
    | _, c :: after =>
      let ends := isSeparator c ||
        (c == '%' && !(followedBy [' ', '\t', '\n', '\r', '%'] after))
      if ends then .ok (.openDeclaration (String.ofList keyword), rest)
      else if c == '%' && after.isEmpty then .error .unfinished
      else unfit rest
    | _, [] => .error .unfinished

/-- A parameter entity's reference, or a lone percent sign, after that sign. -/
def scanPercent (ahead : List Char) : Except Stop (Token × List Char) :=
  match ahead with
  | c :: _ =>
    if isSeparator c || c == '%' then .ok (.percent, ahead)
    else do
      let (name, rest) ← scanName ahead
      match rest with
      | ';' :: rest => return (.parameter name, rest)
      | _ => unfit rest
  | [] => .error .unfinished

def scanToken : List Char → Except Stop (Token × List Char)
  | [] => .error .unfinished
  | c :: rest =>
    match c with
    | '"' | '\'' => do
      let (content, after) ← scanLiteral c rest
      if followedBy [' ', '\t', '\n', '\r', '>', '%', '['] after then return (.literal content, after)
      else unfit after
    | '<' =>
      match rest with
      | '!' :: rest => scanOpening rest
      | '?' :: rest => do
        let (instruction, after) ← scanInstruction rest
        return (.instruction instruction, after)
      | d :: _ =>
        if d.isAlpha || d == '_' || d == ':' || 128 ≤ d.toNat then .ok (.tag, c :: rest)
        else unfit rest
      | [] => .error .unfinished
    | '%' => scanPercent rest
    | ',' => .ok (.comma, rest)
    | '[' => .ok (.openSubset, rest)
    | ']' =>
      match rest with
      | ']' :: '>' :: rest => .ok (.closeSection, rest)
      | [']'] => .error .unfinished
      | _ => .ok (.closeSubset, rest)
    | '(' => .ok (.openGroup, rest)
    | ')' =>
      let (mark, after) := repetition rest
      if mark != .once then .ok (.closeGroup mark, after)
      else if followedBy [' ', '\t', '\n', '\r', '>', ',', '|', ')'] rest then
        .ok (.closeGroup .once, rest)
      else unfit rest
    | '|' => .ok (.bar, rest)
    | '>' => .ok (.closeDeclaration, rest)
    | '#' => do
      let (name, after) ← scanName rest
      if followedBy [' ', '\t', '\n', '\r', ')', '>', '%', '|'] after then return (.hashName name, after)
      else unfit after
    | _ =>
      if isSeparator c then .ok (.space, rest.dropWhile isSeparator)
      else if isNameChar c then scanWord c rest
      else unfit (c :: rest)

end ViewModel.Xml.Prolog
