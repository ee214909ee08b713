/-!
# Documents

A well-formed document as its root element: names with their prefixes, attributes and content in the
order in which they stand, character data as texts.
-/

namespace ViewModel.Xml

/-- An element, or a run of character data in one. -/
inductive Node
  | text (value : String)
  | element (name : String) (attributes : List (String × String)) (content : List Node)
  deriving Inhabited

end ViewModel.Xml
