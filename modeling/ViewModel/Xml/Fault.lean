/-!
# Faults of a document

What can be wrong with a document, where it was noticed, and how it is told. While reading, a place is
the number of characters that were left; only a reported fault is given a line and a column.
-/

namespace ViewModel.Xml

inductive Cause
  | noElement
  | syntaxError
  | unclosedToken
  | invalidToken
  | mismatchedTag
  | junkAfterRoot
  | duplicateAttribute
  | undefinedEntity
  | invalidReference
  | unclosedSection
  | misplacedDeclaration
  | illFormedDeclaration
  | illegalParameterReference
  | illegalPublicId
  deriving DecidableEq, Repr

def Cause.message : Cause → String
  | noElement => "no element found"
  | syntaxError => "syntax error"
  | unclosedToken => "unclosed token"
  | invalidToken => "not well-formed (invalid token)"
  | mismatchedTag => "mismatched tag"
  | junkAfterRoot => "junk after document element"
  | duplicateAttribute => "duplicate attribute"
  | undefinedEntity => "undefined entity"
  | invalidReference => "reference to invalid character number"
  | unclosedSection => "unclosed CDATA section"
  | misplacedDeclaration => "XML or text declaration not at start of entity"
  | illFormedDeclaration => "XML declaration not well-formed"
  | illegalParameterReference => "illegal parameter entity reference"
  | illegalPublicId => "illegal character(s) in public id"

/-- What ends a reading: a cause with the number of characters left at its place, or a declared entity,
which no document may have. -/
inductive Fault
  | malformed (cause : Cause) (left : Nat)
  | entityDeclared
  deriving DecidableEq, Repr

/-- What ends a document's reading, as it is reported. -/
inductive Error
  | malformed (cause : Cause) (line column : Nat)
  | entitiesDisabled
  deriving DecidableEq, Repr

def Error.message : Error → String
  | malformed cause line column =>
    "Malformed XML: " ++ cause.message ++ ": line " ++ toString line ++ ", column " ++ toString column
  | entitiesDisabled => "entities are disabled"

def Error.kind : Error → String
  | malformed .. => "XmlTreeError"
  | entitiesDisabled => "ValueError"

/-- The line, from one, and the column, from zero, after some characters. A carriage return ends a line,
together with a line feed right after it. -/
def positionFrom (line column : Nat) : List Char → Nat × Nat
  | [] => (line, column)
  | '\r' :: '\n' :: rest => positionFrom (line + 1) 0 rest
  | c :: rest =>
    if c = '\n' || c = '\r' then positionFrom (line + 1) 0 rest else positionFrom line (column + 1) rest

/-- The place after some characters of a document. -/
def position (before : List Char) : Nat × Nat := positionFrom 1 0 before

def Fault.report (document : List Char) : Fault → Error
  | malformed cause left =>
    let (line, column) := position (document.take (document.length - left))
    .malformed cause line column
  | entityDeclared => .entitiesDisabled

end ViewModel.Xml
