import ViewModel.Number.Token
import ViewModel.Text.Identifier

/-!
# Tokens of parameters

The parameters of a tag are made of numbers, strings, words and marks. Blanks and comments between them say
nothing.
-/

namespace ViewModel.Terminal.Parameter

open Text

/-- A token: a number, which may be imaginary, a string, which may be one of bytes, a word, three dots, the
empty set, which is written as a call, or a mark. -/
inductive Token
  | number (imaginary : Bool)
  | string (bytes : Bool)
  | word (name : String)
  | dots
  | emptySet
  | mark (c : Char)
  deriving DecidableEq, Repr

/-! ## Numbers -/

/-- Digits, with at most one low line between two of them. -/
def isRow (isDigit : Char → Bool) : List Char → Bool
  | [] => false
  | [c] => isDigit c
  | c :: '_' :: rest => isDigit c && isRow isDigit rest
  | c :: rest => isDigit c && isRow isDigit rest

/-- The characters have the form of an exponent after its mark. -/
def isExponent : List Char → Bool
  | '+' :: digits | '-' :: digits => isRow Char.isDigit digits
  | digits => isRow Char.isDigit digits

/-- The characters have the form of a decimal number, with a point or an exponent in it. -/
def isDecimal (chars : List Char) : Bool :=
  let mantissa := chars.takeWhile (· != 'e')
  let exponent := chars.dropWhile (· != 'e')
  let whole := mantissa.takeWhile (· != '.')
  let fraction := (mantissa.dropWhile (· != '.')).drop 1
  let rowOrNone (digits : List Char) : Bool := digits.isEmpty || isRow Char.isDigit digits
  (exponent.isEmpty || isExponent (exponent.drop 1)) &&
    rowOrNone whole && rowOrNone fraction && !(whole.isEmpty && fraction.isEmpty)

/-- The characters have the form of a whole decimal number: not too many digits, and a zero in front only of
zeros. -/
def isWhole (chars : List Char) : Bool :=
  isRow Char.isDigit chars && (chars.filter (· != '_')).length ≤ Number.maxDigits &&
    (chars.head? != some '0' || chars.all fun c => c == '0' || c == '_')

/-- The digits of another base, which may have a low line before them as well. -/
def isBased (isDigit : Char → Bool) : List Char → Bool
  | '_' :: rest => isRow isDigit rest
  | chars => isRow isDigit chars

def numberToken? (chars : List Char) : Option Token :=
  let isHex (c : Char) : Bool := c.isDigit || ('a' ≤ c && c ≤ 'f')
  let based : Bool :=
    match chars with
    | '0' :: 'x' :: digits => isBased isHex digits
    | '0' :: 'o' :: digits => isBased (fun c => '0' ≤ c && c ≤ '7') digits
    | '0' :: 'b' :: digits => isBased (fun c => c == '0' || c == '1') digits
    | _ => false
  if chars.getLast? == some 'j' then
    if isDecimal chars.dropLast then some (.number true) else none
  else if based || isWhole chars then some (.number false)
  else if chars.any (fun c => c == '.' || c == 'e') && isDecimal chars then some (.number false)
  else none

/-- Whether a character may go on a number, or spoil it. -/
def isNumberPart (c : Char) : Bool := c.isAlphanum || c == '_' || c == '.'

/-- The characters of a number, and what follows them. A sign belongs to a number after the mark of its
exponent. -/
def splitNumber (chars : List Char) : List Char × List Char :=
  let run := chars.takeWhile isNumberPart
  let rest := chars.dropWhile isNumberPart
  let inExponent := run.getLast?.any (·.toLower == 'e') && run[1]?.map Char.toLower != some 'x'
  match rest with
  | sign :: digit :: _ =>
    if inExponent && (sign == '+' || sign == '-') && digit.isDigit then
      (run ++ sign :: rest.tail.takeWhile isNumberPart, rest.tail.dropWhile isNumberPart)
    else (run, rest)
  | _ => (run, rest)

/-! ## Strings -/

/-- The characters of a string up to its closing quote, or to three of them, and what follows it. -/
def splitString (quote : Char) (long : Bool) : List Char → Option (List Char × List Char)
  | [] => none
  | '\\' :: c :: rest =>
    (splitString quote long rest).map fun (inside, after) => ('\\' :: c :: inside, after)
  | c :: rest =>
    if c = quote && !long then some ([], rest)
    else if c = quote && [quote, quote].isPrefixOf rest then some ([], rest.drop 2)
    else if c = '\n' && !long then none
    else (splitString quote long rest).map fun (inside, after) => (c :: inside, after)

/-- The value of as many digits of base sixteen at the front. -/
def hexValue? (count : Nat) (chars : List Char) : Option Nat :=
  let digits := chars.take count
  let value (c : Char) : Nat :=
    if c.isDigit then c.toNat - 48 else if 'a' ≤ c then c.toNat - 87 else c.toNat - 55
  if digits.length == count && digits.all (fun c => c.isDigit || ('a' ≤ c.toLower && c.toLower ≤ 'f')) then
    some (digits.foldl (fun n c => 16 * n + value c) 0)
  else none

/-- Whether every escape in a string is whole: those that give a character by its number or its name. -/
def escapesFit (bytes : Bool) : List Char → Bool
  | [] => true
  | '\\' :: c :: rest =>
    let fits :=
      match c, bytes with
      | 'x', _ => (hexValue? 2 rest).isSome
      | 'u', false => (hexValue? 4 rest).isSome
      | 'U', false => (hexValue? 8 rest).any (· < 0x110000)
      | 'N', false => rest.head? == some '\x7b' && rest.contains '\x7d'
      | _, _ => true
    fits && escapesFit bytes rest
  | _ :: rest => escapesFit bytes rest

/-- The letters that may stand before a quote, in lower case. -/
def stringLetters : List String := ["", "r", "u", "b", "br", "rb"]

/-- The string that some letters and the characters after them start, and what follows it. -/
def stringToken? (letters : List Char) : List Char → Option (Token × List Char)
  | [] => none
  | quote :: rest =>
    let letters := letters.map Char.toLower
    let bytes := letters.contains 'b'
    let long := [quote, quote].isPrefixOf rest
    if (quote == '\'' || quote == '"') && stringLetters.contains (String.ofList letters) then
      match splitString quote long (if long then rest.drop 2 else rest) with
      | some (inside, after) =>
        if (letters.contains 'r' || escapesFit bytes inside) && (!bytes || inside.all (·.toNat < 128)) then
          some (.string bytes, after)
        else none
      | none => none
    else none

/-! ## Tokens -/

def marks : List Char := ['(', ')', '\x7b', '\x7d', ',', ':', '+', '-']

/-- The first token of some characters that start with neither blank nor comment, and what follows it. -/
def nextToken? (chars : List Char) : Option (Token × List Char) :=
  match chars with
  | [] => none
  | c :: rest =>
    let name := chars.takeWhile isIdentifierPart
    let after := chars.dropWhile isIdentifierPart
    if c.isDigit || (c == '.' && rest.head?.any Char.isDigit) then
      let (number, after) := splitNumber chars
      (numberToken? (number.map Char.toLower)).map (·, after)
    else if "...".toList.isPrefixOf chars then some (.dots, chars.drop 3)
    else if after.head?.any (fun c => c == '\'' || c == '"') then stringToken? name after
    else if isIdentifierStart c then some (.word (String.ofList name), after)
    else if marks.contains c then some (.mark c, rest)
    else none

/-- The tokens of some characters within `depth` brackets, outside of which they have to be in one line.
`fuel` is at least the number of characters. -/
def tokens? (depth : Nat) : (fuel : Nat) → List Char → Option (List Token)
  | _, [] => some []
  | 0, _ => none
  | fuel + 1, c :: rest =>
    if c == ' ' || c == '\t' || c == '\x0c' then tokens? depth fuel rest
    else if c == '\n' || c == '\r' then if depth = 0 then none else tokens? depth fuel rest
    else if c == '#' then tokens? depth fuel (rest.dropWhile (· != '\n'))
    else
      match nextToken? (c :: rest) with
      | none => none
      | some (token, after) =>
        let depth :=
          if token = .mark '(' || token = .mark '\x7b' then depth + 1
          else if token = .mark ')' || token = .mark '\x7d' then depth - 1
          else depth
        (tokens? depth fuel after).map (token :: ·)

/-- The tokens with every call of the word for a set as an empty one. -/
def joinSets : List Token → List Token
  | [] => []
  | .word "set" :: .mark '(' :: .mark ')' :: rest => .emptySet :: joinSets rest
  | token :: rest => token :: joinSets rest

end ViewModel.Terminal.Parameter
