import ViewModel.Xml.Document
import ViewModel.Xml.Encoding
import ViewModel.Xml.Prolog.Doctype

/-!
# Reading a document

A document is its prolog, its root element, and blanks, comments and instructions after that. Elements
are read with the elements around them kept in a list, innermost first, until the root is closed.

* `Node.parse`: the root element of a text, or the first fault in it.
-/

namespace ViewModel.Xml

/-- An element that is not closed yet, with the content read so far, last first. -/
structure Open where
  name : String
  attributes : List (String × String)
  content : List Node

def Open.close (opened : Open) : Node := .element opened.name opened.attributes opened.content.reverse

/-- The element with one more piece of content. -/
def Open.add (opened : Open) (node : Node) : Open := { opened with content := node :: opened.content }

/-- The element with the characters read since its last piece of content, which are kept last first. -/
def Open.addText (opened : Open) (read : List Char) : Open :=
  if read.isEmpty then opened else opened.add (.text (String.ofList read.reverse))

/-- The attributes of an element: those that stand in its tag, then the declared ones with a default that
do not. `start` is the number of characters left at the tag. -/
def attributesOf (prolog : Prolog) (start : Nat) (tag : StartTag) :
    Except Fault (List (String × String)) := do
  let declared := prolog.declared tag.name
  let given ← tag.attributes.foldlM (fun given raw => do
    if given.any (·.1 == raw.name) then throw (.malformed .duplicateAttribute raw.left)
    let words := ((declared.find? (·.name == raw.name)).map (·.words)).getD false
    let value ← attributeValue ⟨prolog.lenient, words⟩ start raw.value
    return given ++ [(raw.name, value)]) []
  let defaults := declared.filterMap fun known =>
    if given.any (·.1 == known.name) then none
    else known.default.map fun value => (known.name, value)
  return given ++ defaults

/-- The characters of a section of plain text up to its end, and what follows it. -/
def scanSection (read : List Char) : List Char → Except Fault (List Char × List Char)
  | ']' :: ']' :: '>' :: rest => .ok (read, rest)
  | [']', ']'] => .error (.malformed .unclosedSection 2)
  | [']'] => .error (.malformed .unclosedSection 1)
  | ['\r'] => .error (.malformed .unclosedSection 1)
  | [] => .error (.malformed .unclosedSection 0)
  | '\r' :: '\n' :: rest => scanSection ('\n' :: read) rest
  | c :: rest =>
    if isChar c then scanSection ((if c = '\r' then '\n' else c) :: read) rest
    else .error (.malformed .invalidToken (rest.length + 1))

/-- What opens a section of plain text, after its first bracket. It is told from other marks once six
bytes follow. -/
def scanSectionOpening (ahead : List Char) : Except Stop (List Char) :=
  match ahead with
  | 'C' :: 'D' :: 'A' :: 'T' :: 'A' :: '[' :: rest => .ok rest
  | _ =>
    if (String.ofList ahead).utf8ByteSize < 6 then .error .unfinished
    else .error (.invalid (differs "CDATA[".toList ahead).length)
where
  differs : List Char → List Char → List Char
    | expected :: more, c :: rest => if c = expected then differs more rest else c :: rest
    | _, rest => rest

/-- A reference in content: its character, or nothing for an entity that may be declared elsewhere.
`start` is the number of characters left at it. -/
def resolveReference (prolog : Prolog) (start : Nat) : Reference → Except Fault (List Char)
  | .character code =>
    if isCharCode code then .ok [Char.ofNat code] else .error (.malformed .invalidReference start)
  | .entity name =>
    match predefined? name with
    | some c => .ok [c]
    | none => if prolog.lenient then .ok [] else .error (.malformed .undefinedEntity start)

/-- A piece of markup inside the root element. Comments and instructions are asides. -/
inductive Markup
  | start (tag : StartTag)
  | finish (name : String)
  | section
  | declaration
  | aside

/-- The markup after an angle bracket. -/
def scanMarkup : List Char → Except Stop (Markup × List Char)
  | '/' :: rest => do
    let (name, rest) ← scanEndTag rest
    return (.finish name, rest)
  | '?' :: rest => do
    match ← scanInstruction rest with
    | (.declaration _, rest) => return (.declaration, rest)
    | (.other, rest) => return (.aside, rest)
  | '!' :: '-' :: rest => do return (.aside, ← scanComment rest)
  | '!' :: '[' :: rest => do return (.section, ← scanSectionOpening rest)
  | '!' :: rest => unfit rest
  | ahead => do
    let (tag, rest) ← scanStartTag ahead
    return (.start tag, rest)

/-- The rest of an element, and of those around it, up to the end of the outermost one. `read` holds the
characters since the last markup, last first, and `fuel` is more than the number of characters ahead. -/
def readContent (prolog : Prolog) :
    (fuel : Nat) → (opened : Open) → (around : List Open) → (read : List Char) → List Char →
      Except Fault (Node × List Char)
  | 0, _, _, _, _ | _, _, _, _, [] => .error (.malformed .noElement 0)
  | _, _, _, _, ['\r'] => .error (.malformed .noElement 1)
  | fuel + 1, opened, around, read, ahead =>
    let start := ahead.length
    match ahead with
    | ']' :: ']' :: '>' :: rest => .error (.malformed .invalidToken (rest.length + 1))
    | '\r' :: '\n' :: rest => readContent prolog fuel opened around ('\n' :: read) rest
    | '\r' :: rest => readContent prolog fuel opened around ('\n' :: read) rest
    | '&' :: rest =>
      match scanReference rest with
      | .error stop => .error (stop.fault start)
      | .ok (reference, rest) =>
        match resolveReference prolog start reference with
        | .error fault => .error fault
        | .ok chars => readContent prolog fuel opened around (chars ++ read) rest
    | '<' :: rest =>
      match scanMarkup rest with
      | .error stop => .error (stop.fault start)
      | .ok (.aside, rest) => readContent prolog fuel opened around read rest
      | .ok (.declaration, _) => .error (.malformed .misplacedDeclaration start)
      | .ok (.section, rest) =>
        match scanSection read rest with
        | .error fault => .error fault
        | .ok (read, rest) => readContent prolog fuel opened around read rest
      | .ok (.finish name, rest) =>
        if name != opened.name then .error (.malformed .mismatchedTag (start - 2))
        else
          let node := (opened.addText read).close
          match around with
          | [] => .ok (node, rest)
          | outer :: around => readContent prolog fuel (outer.add node) around [] rest
      | .ok (.start tag, rest) =>
        match attributesOf prolog start tag with
        | .error fault => .error fault
        | .ok attributes =>
          let opened := opened.addText read
          let inner : Open := ⟨tag.name, attributes, []⟩
          if tag.empty then readContent prolog fuel (opened.add inner.close) around [] rest
          else readContent prolog fuel inner (opened :: around) [] rest
    | c :: rest =>
      if isChar c then readContent prolog fuel opened around (c :: read) rest
      else .error (.malformed .invalidToken start)
    | [] => .error (.malformed .noElement 0)

def readRoot (prolog : Prolog) (ahead : List Char) : Except Fault (Node × List Char) := do
  let start := ahead.length
  match scanStartTag ahead.tail with
  | .error stop => .error (stop.fault start)
  | .ok (tag, rest) =>
    let root : Open := ⟨tag.name, ← attributesOf prolog start tag, []⟩
    if tag.empty then return (root.close, rest) else readContent prolog start root [] [] rest

/-- The check of what follows the root element. `fuel` is at least the number of characters ahead. -/
def checkEpilog : (fuel : Nat) → List Char → Except Fault Unit
  | 0, _ | _, [] => .ok ()
  | fuel + 1, ahead =>
    match Prolog.scanToken ahead with
    | .error stop => .error (stop.fault ahead.length)
    | .ok (.space, rest) | .ok (.comment, rest) | .ok (.instruction .other, rest) =>
      checkEpilog fuel rest
    | .ok _ => .error (.malformed .junkAfterRoot ahead.length)

/-- The characters of a document after the mark that may open it. -/
def dropMark : List Char → List Char
  | [] => []
  | c :: rest => if c.toNat = 0xfeff then rest else c :: rest

def readDocument (document : List Char) : Except Fault Node := do
  let ahead := dropMark document
  let (prolog, ahead) ← Prolog.read (ahead.length + 1) {} ahead
  let (root, rest) ← readRoot prolog ahead
  checkEpilog rest.length rest
  return root

/-- What a reading comes to when a byte is left over: where there was nothing more to read, a token is not
closed. After a carriage return the byte goes unnoticed. -/
def Decoded.finish (decoded : Decoded) (reading : Except Fault Node) : Except Fault Node :=
  if decoded.leftOver && decoded.chars.getLast? != some '\r' then
    match reading with
    | .ok _ | .error (.malformed .noElement 0) => .error (.malformed .unclosedToken 0)
    | faulty => faulty
  else reading

/-- The root element of a text, or the report of the first fault in it. -/
def Node.parse (text : String) : Except Error Node :=
  let decoded := Decoded.ofText text
  (decoded.finish (readDocument decoded.chars)).mapError (Fault.report decoded.chars)

end ViewModel.Xml
