import ViewModel.Proofs.Literal.Textual

/-!
# The data that a tree carries

A tree conforms to a type of a registry if everything that the type declares stands in it, in a form that
can be read. What is read is a datum. A datum has one layout at each indentation, which knows neither the
registry nor the default font.

* `Datum`, `Datum.layout`: data, and how they are written;
* `Carries`: a tree conforms to a type and carries a datum;
* `Conforms`: it carries some datum.
-/

namespace ViewModel.Literal

open Schema

/-- What is read from a tree: quoted and bare texts, truth values, numbers, members of enums, messages of
commands, and data under the names of properties or one after the other. -/
inductive Datum
  | quoted (text : String)
  | bare (text : String)
  | flag (value : Bool)
  | integer (value : Int)
  | decimal (value : Float)
  | member (enum name : String)
  | command (message : String)
  | object (entries : List (String × Datum))
  | list (items : List Datum)

namespace Datum

variable (step : String)

mutual

/-- A datum as it is written at an indentation, which each level deepens by a step. -/
def layout : Datum → String → String
  | .quoted text, _ => quote text
  | .bare text, _ => text
  | .flag value, _ => if value then "true" else "false"
  | .integer value, _ => toString value
  | .decimal value, _ => plain (.decimal value)
  | .member enum name, _ => memberRef enum name
  | .command message, indent => Encoder.commandText step message indent
  | .object entries, indent =>
    "\n".intercalate ("\x7b" :: layoutEntries entries (indent ++ step) ++ [indent ++ "\x7d"])
  | .list items, indent =>
    "\n".intercalate ("[" :: layoutItems items (indent ++ step) ++ [indent ++ "]"])

def layoutEntries : List (String × Datum) → String → List String
  | [], _ => []
  | (name, datum) :: rest, indent =>
    (indent ++ name ++ ": " ++ layout datum indent ++ ",") :: layoutEntries rest indent

def layoutItems : List Datum → String → List String
  | [], _ => []
  | datum :: rest, indent => (indent ++ layout datum indent ++ ",") :: layoutItems rest indent

end

end Datum

/-- What the trees of the built-in types carry. -/
inductive CarriesBuiltIn : String → Tree → Datum → Prop
  | integer {tree n} : tree.scalar = .integer n → CarriesBuiltIn "Single" tree (.integer n)
  | decimal {tree x} : tree.scalar = .decimal x → CarriesBuiltIn "Single" tree (.decimal x)
  | flag {tree value} : tree.scalar = .flag value → CarriesBuiltIn "Boolean" tree (.flag value)
  | string {text} : CarriesBuiltIn "String" (.text text) (.quoted text)
  | color {text} : CarriesBuiltIn "Color" (.text text) (.bare text)
  | bitmapImage {tree source path} : tree.first? "UriSource" = some source →
      imagePath? source = some path → CarriesBuiltIn "BitmapImage" tree (.quoted path)
  | solidColorBrush {tree color} : tree.first? "Color" = some color →
      CarriesBuiltIn "SolidColorBrush" tree (.quoted (plain color))
  | messageCommand {tree} : CarriesBuiltIn "MessageCommand" tree (.command (Encoder.messageOf tree))

/-- A tree that holds a child of the tag in its first wrapper of the name. -/
def Wraps (tree : Tree) (wrapper tag : String) (child : Tree) : Prop :=
  ∃ first, tree.first? wrapper = some first ∧ first.first? tag = some child

mutual

/-- The tree conforms to the type of that name and carries the datum. -/
inductive Carries (registry : Registry) : String → Tree → Datum → Prop
  | classType {typeName name properties tree data} :
      registry.lookup? typeName = some (.classType name properties) →
      CarriesEach registry name tree properties.entries data →
      Carries registry typeName tree (.object data)
  | enumType {typeName name items member} :
      registry.lookup? typeName = some (.enumType name items) → items.contains member = true →
      Carries registry typeName (.text member) (.member name member)
  | builtIn {typeName name tree datum} :
      registry.lookup? typeName = some (.builtIn name) → CarriesBuiltIn name tree datum →
      Carries registry typeName tree datum

/-- The tree of an object of the named class carries the datum at a property of the kind. -/
inductive CarriesProperty (registry : Registry) :
    String → Tree → String → PropertyKind → Datum → Prop
  | string {name tree property low high text} : tree.first? property = some (.text text) →
      CarriesProperty registry name tree property (.string low high) (.quoted text)
  | font {name tree property text} : tree.first? property = some (.text text) →
      CarriesProperty registry name tree property .font (.member TypesModule.fontEnum text)
  | integer {name tree property low high count value n} : tree.first? property = some value →
      value.scalar = .integer n →
      CarriesProperty registry name tree property (.number low high count) (.integer n)
  | decimal {name tree property low high count value x} : tree.first? property = some value →
      value.scalar = .decimal x →
      CarriesProperty registry name tree property (.number low high count) (.decimal x)
  | flag {name tree property value truth} : tree.first? property = some value →
      value.scalar = .flag truth →
      CarriesProperty registry name tree property .boolean (.flag truth)
  | enum {name tree property subType enum items member} :
      tree.first? property = some (.text member) →
      registry.lookup? subType = some (.enumType enum items) → items.contains member = true →
      CarriesProperty registry name tree property (.enum subType) (.member subType member)
  | image {name tree property given text path} : tree.first? property = some (.text text) →
      imagePath? (.text text) = some path →
      CarriesProperty registry name tree property (.image given) (.quoted path)
  | bitmap {name tree property given child datum} : tree.first? property = none →
      Wraps tree (name ++ "." ++ property) "BitmapImage" child →
      CarriesBuiltIn "BitmapImage" child datum →
      CarriesProperty registry name tree property (.image given) datum
  | color {name tree property value} : tree.first? property = some value →
      CarriesProperty registry name tree property .brush (.quoted (plain value))
  | brush {name tree property child datum} : tree.first? property = none →
      Wraps tree (name ++ "." ++ property) "SolidColorBrush" child →
      CarriesBuiltIn "SolidColorBrush" child datum →
      CarriesProperty registry name tree property .brush datum
  | command {name tree property child datum} :
      Wraps tree (name ++ "." ++ property) "MessageCommand" child →
      CarriesBuiltIn "MessageCommand" child datum →
      CarriesProperty registry name tree property .command datum
  | object {name tree property subType child datum} :
      Wraps tree (name ++ "." ++ property) (dataTag subType) child →
      Carries registry (dataTag subType) child datum →
      CarriesProperty registry name tree property (.object subType) datum
  | collection {name tree property subType first data} :
      tree.first? (name ++ "." ++ property) = some first → first.under (dataTag subType) ≠ [] →
      CarriesAll registry (dataTag subType) (first.under (dataTag subType)) data →
      CarriesProperty registry name tree property (.collection subType) (.list data)

/-- The tree of an object carries a datum at each of the properties. -/
inductive CarriesEach (registry : Registry) :
    String → Tree → List (String × PropertyKind) → List (String × Datum) → Prop
  | nil {name tree} : CarriesEach registry name tree [] []
  | cons {name tree property kind datum rest data} :
      CarriesProperty registry name tree property kind datum → CarriesEach registry name tree rest data →
      CarriesEach registry name tree ((property, kind) :: rest) ((property, datum) :: data)

/-- Each of the trees carries a datum of the type. -/
inductive CarriesAll (registry : Registry) : String → List Tree → List Datum → Prop
  | nil {typeName} : CarriesAll registry typeName [] []
  | cons {typeName tree datum rest data} :
      Carries registry typeName tree datum → CarriesAll registry typeName rest data →
      CarriesAll registry typeName (tree :: rest) (datum :: data)

end

/-- The tree holds all that the type declares, in a form that can be read. -/
def Conforms (registry : Registry) (typeName : String) (tree : Tree) : Prop :=
  ∃ datum, Carries registry typeName tree datum

end ViewModel.Literal
