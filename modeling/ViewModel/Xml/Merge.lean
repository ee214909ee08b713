import ViewModel.Text.Blank
import ViewModel.Text.Segment
import ViewModel.Tree.Basic
import ViewModel.Xml.Reader

/-!
# Elements as trees

An element becomes the tree of its fields: its attributes under their full names, then its children under
their names without a prefix, in document order, and last its text. Values of one name share a field, which
stands where the first of them stood. Namespace declarations are left out, and an element that has nothing
but text is that text.

* `Tree.ofXml?`: the root's name and tree, from the text of a document.
-/

namespace ViewModel

namespace Xml

def localName (name : String) : String := Text.lastSegment ':' name

def isNamespace (name : String) : Bool := name == "xmlns" || "xmlns:".isPrefixOf name

/-- The name of the field that holds an element's text beside its other fields. -/
def textField : String := "#text"

/-- The fields with one more value of that name. -/
def push (fields : List (String × List Tree)) (name : String) (value : Tree) :
    List (String × List Tree) :=
  match fields with
  | [] => [(name, [value])]
  | (key, values) :: rest =>
    if key = name then (key, values ++ [value]) :: rest else (key, values) :: push rest name value

/-- The tree of an element's fields and text: the text alone if there are no fields. -/
def treeOf (fields : List (String × List Tree)) (text : String) : Tree :=
  if fields.isEmpty then .text text
  else
    let fields := if text.isEmpty then fields else push fields textField (.text text)
    .element (fields.map fun (name, values) => (name, .list values))

def attributeFields (attributes : List (String × String)) : List (String × List Tree) :=
  attributes.foldl
    (fun fields (name, value) => if isNamespace name then fields else push fields name (.text value)) []

mutual

def Node.toTree : Node → Tree
  | .text value => .text (Text.trim value)
  | .element _ attributes content =>
    let (fields, text) := mergeContent (attributeFields attributes) "" content
    treeOf fields (Text.trim text)

/-- The fields and the text so far with those of the rest of an element's content. -/
def mergeContent (fields : List (String × List Tree)) (text : String) :
    List Node → List (String × List Tree) × String
  | [] => (fields, text)
  | .text value :: rest => mergeContent fields (text ++ value) rest
  | .element name attributes content :: rest =>
    mergeContent (push fields (localName name) (Node.element name attributes content).toTree) text rest

end

def Node.name : Node → String
  | .text _ => ""
  | .element name _ _ => name

end Xml

/-- The local name of a document's root, and its tree. -/
def Tree.ofXml? (text : String) : Except Xml.Error (String × Tree) :=
  (Xml.Node.parse text).map fun root => (Xml.localName root.name, root.toTree)

end ViewModel
