import ViewModel.Xml.Attribute
import ViewModel.Xml.Prolog.Declaration
import ViewModel.Xml.Prolog.Token

/-!
# The prolog of a document

What may stand before the root element, token by token: the document's declaration, then a document type
with declarations of elements, attributes, notations and entities. Only two things come of it: which
attributes have defaults, and whether an undeclared entity may be declared elsewhere. A document that
declares an entity of its own is refused.
-/

namespace ViewModel.Xml

namespace Prolog

/-- What is expected next. Names, identifiers and values of entities come in two forms, of which the one
marked is for parameter entities. -/
inductive Expectation
  | declaration
  | doctype
  | root
  | doctypeName
  | doctypeContent
  | doctypePublicId
  | doctypeSystemId
  | doctypeSubset
  | doctypeEnd
  | subset
  | entityName
  | parameterName
  | entityContent (parameter : Bool)
  | entityPublicId (parameter : Bool)
  | entitySystemId (parameter : Bool)
  | entityEnd (parameter : Bool)
  | entityNotation
  | notationName
  | notationContent
  | notationPublicId
  | notationSystemId
  | notationMaybeSystemId
  | attributeElement
  | attributeName
  | attributeType
  | choice
  | choiceNext
  | notationGroup
  | notationChoice
  | notationNext
  | attributeDefault
  | attributeFixed
  | elementName
  | elementContent
  | groupFirst
  | mixedNext
  | mixedName
  | mixedAfterName
  | groupItem
  | groupNext
  | declarationEnd
  deriving DecidableEq, Repr

end Prolog

structure Prolog where
  expects : Prolog.Expectation := .declaration
  /-- The document declares that it stands alone. -/
  standalone : Bool := false
  /-- Declarations may stand outside the document. -/
  external : Bool := false
  /-- Declarations still count: none does after a reference to outside ones. -/
  counts : Bool := true
  /-- The attributes declared for each element, in order. -/
  attributes : List (String × List DeclaredAttribute) := []
  /-- The element and the attribute being declared, with the attribute's type. -/
  owner : String := ""
  property : String := ""
  words : Bool := false
  identifier : Bool := false
  /-- The entity being declared is a new one. -/
  newEntity : Bool := false
  /-- The connectors of the content groups that are open, innermost first. -/
  groups : List (Option Char) := []

namespace Prolog

/-- Entities that the document does not declare may be declared elsewhere. -/
def lenient (prolog : Prolog) : Bool := prolog.external && !prolog.standalone

def declared (prolog : Prolog) (element : String) : List DeclaredAttribute :=
  (prolog.attributes.lookup element).getD []

/-- A declaration added to those of its element; one with a default, or of an identifier, only if the
attribute has none yet. -/
def addDeclared (added : DeclaredAttribute) (identifier : Bool) (known : List DeclaredAttribute) :
    List DeclaredAttribute :=
  if (added.default.isSome || identifier) && known.any (·.name == added.name) then known
  else known ++ [added]

/-- The declarations of all elements with one more for `element`. -/
def addAttribute (element : String) (added : DeclaredAttribute) (identifier : Bool) :
    List (String × List DeclaredAttribute) → List (String × List DeclaredAttribute)
  | [] => [(element, addDeclared added identifier [])]
  | (name, known) :: rest =>
    if name == element then (name, addDeclared added identifier known) :: rest
    else (name, known) :: addAttribute element added identifier rest

/-- The prolog with the attribute being declared, and a default for it. -/
def declare (prolog : Prolog) (default : Option String) : Prolog :=
  let added : DeclaredAttribute := ⟨prolog.property, prolog.words, default⟩
  { prolog with
    expects := .attributeName
    attributes :=
      if prolog.counts then
        addAttribute prolog.owner added (prolog.identifier && default.isNone) prolog.attributes
      else prolog.attributes }

/-- The prolog with a default for the attribute being declared, read from a literal that began with
`start` characters left. -/
def declareDefault (prolog : Prolog) (content : List Char) (start : Nat) : Except Fault Prolog := do
  if !prolog.counts then return { prolog with expects := .attributeName }
  let after := start - 1 - content.length
  let pieces ← literalPieces after content.length content
  let value ← attributeValue ⟨prolog.lenient, prolog.words⟩ start pieces
  return prolog.declare (some value)

def isPublicIdChar (c : Char) : Bool :=
  c.isAlphanum || " \r\n-'()+,./:=?;!*#@$_%".toList.contains c

/-- The check of a public identifier, read from a literal that began with `start` characters left. -/
def checkPublicId (content : List Char) (start : Nat) : Except Fault Unit :=
  match content.dropWhile isPublicIdChar with
  | [] => .ok ()
  | bad => .error (.malformed .illegalPublicId (start - 1 - content.length + bad.length))

/-- The check of an entity's value: its references are well formed, and none is to a parameter entity.
`fuel` is at least the value's length, and `after` the number of characters left at its end. -/
def checkEntityValue (after : Nat) : (fuel : Nat) → List Char → Except Fault Unit
  | 0, _ | _, [] => .ok ()
  | fuel + 1, c :: rest =>
    let left := rest.length + 1 + after
    let stopped : Stop → Except Fault Unit
      | .unfinished => .error (.malformed .invalidToken left)
      | .invalid inner => .error (.malformed .invalidToken (inner + after))
    if c = '&' then
      match scanReference rest with
      | .ok (.character code, rest) =>
        if isCharCode code then checkEntityValue after fuel rest
        else .error (.malformed .invalidReference left)
      | .ok (.entity _, rest) => checkEntityValue after fuel rest
      | .error stop => stopped stop
    else if c = '%' then
      match scanPercent rest with
      | .ok (.parameter _, _) => .error (.malformed .illegalParameterReference left)
      | .ok (_, rest) => .error (.malformed .invalidToken (rest.length + after))
      | .error stop => stopped stop
    else checkEntityValue after fuel rest

/-- An entity has been declared. It is an error unless it is one that needs no declaration, or its
declaration does not count. -/
def declareEntity (prolog : Prolog) (next : Expectation) : Except Fault Prolog :=
  if prolog.newEntity then .error .entityDeclared else .ok { prolog with expects := next }

def closeGroup (prolog : Prolog) : Prolog :=
  let groups := prolog.groups.tail
  { prolog with groups, expects := if groups.isEmpty then .declarationEnd else .groupNext }

/-- The connector of the innermost content group, which is the same throughout. -/
def connect (prolog : Prolog) (mark : Char) : Option Prolog :=
  match prolog.groups with
  | none :: outer => some { prolog with groups := some mark :: outer, expects := .groupItem }
  | some known :: _ => if known = mark then some { prolog with expects := .groupItem } else none
  | [] => none

def wordTypes : List String :=
  ["ID", "IDREF", "IDREFS", "ENTITY", "ENTITIES", "NMTOKEN", "NMTOKENS"]

/-- What is expected after a token from which nothing else comes, or `none` where it cannot stand. -/
def onward? : Expectation → Token → Option Expectation
  | .declaration, .space => some .doctype
  | expects, .space => some expects
  | .declaration, .instruction .other | .declaration, .comment => some .doctype
  | .doctype, .instruction .other | .doctype, .comment => some .doctype
  | .root, .instruction .other | .root, .comment => some .root
  | .subset, .instruction .other | .subset, .comment => some .subset
  | .declaration, .openDeclaration "DOCTYPE" | .doctype, .openDeclaration "DOCTYPE" => some .doctypeName
  | .doctypeName, .name _ .once => some .doctypeContent
  | .doctypeContent, .openSubset | .doctypeSubset, .openSubset => some .subset
  | .doctypeContent, .closeDeclaration | .doctypeSubset, .closeDeclaration
  | .doctypeEnd, .closeDeclaration => some .root
  | .doctypeContent, .name "SYSTEM" .once => some .doctypeSystemId
  | .doctypeContent, .name "PUBLIC" .once => some .doctypePublicId
  | .subset, .closeSubset => some .doctypeEnd
  | .subset, .openDeclaration "ENTITY" => some .entityName
  | .subset, .openDeclaration "ATTLIST" => some .attributeElement
  | .subset, .openDeclaration "ELEMENT" => some .elementName
  | .subset, .openDeclaration "NOTATION" => some .notationName
  | .entityName, .percent => some .parameterName
  | .entityContent parameter, .name "SYSTEM" .once => some (.entitySystemId parameter)
  | .entityContent parameter, .name "PUBLIC" .once => some (.entityPublicId parameter)
  | .entitySystemId parameter, .literal _ => some (.entityEnd parameter)
  | .entityEnd false, .name "NDATA" .once => some .entityNotation
  | .notationName, .name _ .once => some .notationContent
  | .notationContent, .name "SYSTEM" .once => some .notationSystemId
  | .notationContent, .name "PUBLIC" .once => some .notationPublicId
  | .notationSystemId, .literal _ | .notationMaybeSystemId, .literal _ => some .declarationEnd
  | .notationMaybeSystemId, .closeDeclaration => some .subset
  | .attributeName, .closeDeclaration => some .subset
  | .attributeType, .name "NOTATION" .once => some .notationGroup
  | .attributeType, .openGroup => some .choice
  | .choice, .name _ .once | .choice, .nameToken => some .choiceNext
  | .choiceNext, .closeGroup .once => some .attributeDefault
  | .choiceNext, .bar => some .choice
  | .notationGroup, .openGroup => some .notationChoice
  | .notationChoice, .name _ .once => some .notationNext
  | .notationNext, .closeGroup .once => some .attributeDefault
  | .notationNext, .bar => some .notationChoice
  | .attributeDefault, .hashName "FIXED" => some .attributeFixed
  | .elementName, .name _ .once => some .elementContent
  | .elementContent, .name "EMPTY" .once | .elementContent, .name "ANY" .once => some .declarationEnd
  | .groupFirst, .hashName "PCDATA" => some .mixedNext
  | .groupFirst, .name .. | .groupItem, .name .. => some .groupNext
  | .mixedNext, .closeGroup .once | .mixedNext, .closeGroup .any
  | .mixedAfterName, .closeGroup .any => some .declarationEnd
  | .mixedNext, .bar | .mixedAfterName, .bar => some .mixedName
  | .mixedName, .name _ .once => some .mixedAfterName
  | .declarationEnd, .closeDeclaration => some .subset
  | _, _ => none

/-- The prolog after one more token, or `none` where it cannot stand. `start` is the number of characters
left at the token. -/
def next? (prolog : Prolog) (token : Token) (start : Nat) : Option (Except Fault Prolog) :=
  let onward := (onward? prolog.expects token).map fun expects => .ok { prolog with expects }
  match prolog.expects, token with
  | .declaration, .instruction (.declaration body) =>
    match readStandalone body with
    | .ok standalone => some (.ok { prolog with standalone, expects := .doctype })
    | .error bad =>
      some (.error (.malformed .illFormedDeclaration (start - 5 - body.length + bad.length)))
  | .doctypePublicId, .literal content =>
    some ((checkPublicId content start).map fun _ =>
      { prolog with external := true, expects := .doctypeSystemId })
  | .doctypeSystemId, .literal _ => some (.ok { prolog with external := true, expects := .doctypeSubset })
  | .subset, .parameter _ =>
    some (.ok { prolog with external := true, counts := prolog.standalone })
  | .entityName, .name name .once =>
    some (.ok { prolog with
      newEntity := prolog.counts && (predefined? name).isNone, expects := .entityContent false })
  | .parameterName, .name _ .once =>
    some (.ok { prolog with newEntity := prolog.counts, expects := .entityContent true })
  | .entityContent _, .literal content =>
    some (do
      let prolog ← prolog.declareEntity .declarationEnd
      if prolog.counts then checkEntityValue (start - 1 - content.length) content.length content
      return prolog)
  | .entityPublicId parameter, .literal content =>
    some ((checkPublicId content start).map fun _ =>
      { prolog with expects := .entitySystemId parameter })
  | .entityEnd _, .closeDeclaration => some (prolog.declareEntity .subset)
  | .entityNotation, .name _ .once => some (prolog.declareEntity .declarationEnd)
  | .notationPublicId, .literal content =>
    some ((checkPublicId content start).map fun _ =>
      { prolog with expects := .notationMaybeSystemId })
  | .attributeElement, .name name .once =>
    some (.ok { prolog with owner := name, expects := .attributeName })
  | .attributeName, .name name .once =>
    some (.ok { prolog with
      property := name, words := true, identifier := false, expects := .attributeType })
  | .attributeType, .name "CDATA" .once =>
    some (.ok { prolog with words := false, expects := .attributeDefault })
  | .attributeType, .name type .once =>
    if wordTypes.contains type then
      some (.ok { prolog with identifier := type == "ID", expects := .attributeDefault })
    else onward
  | .attributeDefault, .hashName "IMPLIED" | .attributeDefault, .hashName "REQUIRED" =>
    some (.ok (prolog.declare none))
  | .attributeDefault, .literal content | .attributeFixed, .literal content =>
    some (prolog.declareDefault content start)
  | .elementContent, .openGroup =>
    some (.ok { prolog with groups := [none], expects := .groupFirst })
  | .groupFirst, .openGroup | .groupItem, .openGroup =>
    some (.ok { prolog with groups := none :: prolog.groups, expects := .groupItem })
  | .groupNext, .closeGroup _ => some (.ok prolog.closeGroup)
  | .groupNext, .comma => (prolog.connect ',').map .ok
  | .groupNext, .bar => (prolog.connect '|').map .ok
  | _, _ => onward

/-- What is wrong with a token that cannot stand where it does. -/
def misplaced : Token → Cause
  | .parameter _ => .illegalParameterReference
  | .instruction (.declaration _) => .misplacedDeclaration
  | _ => .syntaxError

/-- The root element may begin here. -/
def atRoot (prolog : Prolog) : Bool :=
  prolog.expects == .declaration || prolog.expects == .doctype || prolog.expects == .root

/-- The prolog of a document, and its characters from the root element on. `fuel` is more than the number
of characters ahead. -/
def read : (fuel : Nat) → Prolog → List Char → Except Fault (Prolog × List Char)
  | 0, _, _ | _, _, [] => .error (.malformed .noElement 0)
  | fuel + 1, prolog, ahead => do
    let start := ahead.length
    match scanToken ahead with
    | .error stop => .error (stop.fault start)
    | .ok (token, rest) =>
      match token with
      | .tag => if prolog.atRoot then return (prolog, ahead) else .error (.malformed .syntaxError start)
      | token =>
        match prolog.next? token start with
        | none => .error (.malformed (misplaced token) start)
        | some result => read fuel (← result) rest

end Prolog

end ViewModel.Xml
