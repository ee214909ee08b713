import ViewModel.Xml.Scan

/-!
# Attribute values

The value of an attribute is its pieces put together: references stand for their characters, blanks for
spaces. In an attribute that is declared to hold words, spaces at the ends and beside other spaces are
left out.
-/

namespace ViewModel.Xml

/-- What decides how a reference to an undeclared entity is read, and how blanks are. -/
structure ValueRules where
  /-- Entities may be declared outside the document, so an unknown one is left out. -/
  lenient : Bool
  /-- The value is a row of words. -/
  words : Bool

/-- The characters read so far, last first, with a space added. -/
def addSpace (words : Bool) (read : List Char) : List Char :=
  if words && (read.isEmpty || read.head? == some ' ') then read else ' ' :: read

/-- The value's characters, last first, with the pieces added to those read so far. `start` is the number
of characters left at the tag or literal that holds the value. -/
def valueChars (rules : ValueRules) (start : Nat) (read : List Char) :
    List Piece → Except Fault (List Char)
  | [] => .ok read
  | .char c :: rest =>
    valueChars rules start (if c = ' ' then addSpace rules.words read else c :: read) rest
  | .reference (.character code) left :: rest =>
    if !isCharCode code then .error (.malformed .invalidReference left)
    else if code = 32 then valueChars rules start (addSpace rules.words read) rest
    else valueChars rules start (Char.ofNat code :: read) rest
  | .reference (.entity name) _ :: rest =>
    match predefined? name with
    | some c => valueChars rules start (c :: read) rest
    | none =>
      if rules.lenient then valueChars rules start read rest
      else .error (.malformed .undefinedEntity start)

def attributeValue (rules : ValueRules) (start : Nat) (pieces : List Piece) : Except Fault String := do
  let read ← valueChars rules start [] pieces
  let read := if rules.words && read.head? == some ' ' then read.tail else read
  return String.ofList read.reverse

/-- The pieces of a value given as a literal with `after` characters left at its end. `fuel` is at least
the literal's length. -/
def literalPieces (after : Nat) : (fuel : Nat) → List Char → Except Fault (List Piece)
  | 0, _ | _, [] => .ok []
  | fuel + 1, c :: rest => do
    let left := rest.length + 1 + after
    let (piece, rest) ←
      if c = '&' then
        match scanReference rest with
        | .ok (reference, rest) => .ok (Piece.reference reference left, rest)
        | .error .unfinished => .error (Fault.malformed .invalidToken left)
        | .error (.invalid inner) => .error (.malformed .invalidToken (inner + after))
      else if c = '<' then .error (.malformed .invalidToken left)
      else if c = '\r' && rest.head? = some '\n' then .ok (.char ' ', rest.tail)
      else .ok (blankPiece c, rest)
    return piece :: (← literalPieces after fuel rest)

structure DeclaredAttribute where
  name : String
  words : Bool
  default : Option String

end ViewModel.Xml
