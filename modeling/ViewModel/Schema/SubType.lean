import ViewModel.Text.Segment

/-!
# Sub-types

A sub-type is the name of a type as a schema writes it. Qualification is informational, so only the last
segment counts. Some names stand for a type of the generated language, and some for an element that data
files write under another tag.
-/

namespace ViewModel.Schema

/-- The part of a type name after its last point. -/
def finalSegment (typeName : String) : String := Text.lastSegment '.' typeName

/-- What commands, images and brushes are declared as. -/
def commandType : String := "(parameter?: unknown) => unknown"

def imageType : String := "string | ImageSource"

def brushType : String := "string | Brush"

/-- Sub-types that are declared under another name, those of the built-in types among them. -/
def typeAliases : List (String × String) :=
  [("Single", "number"),
   ("String", "string"),
   ("Bool", "boolean"),
   ("Boolean", "boolean"),
   ("Color", "string"),
   ("ImageSource", imageType),
   ("BitmapImage", imageType),
   ("Brush", brushType),
   ("SolidColorBrush", brushType),
   ("BaseCommand", commandType),
   ("MessageCommand", commandType)]

/-- Sub-types whose elements stand in data files under another tag. -/
def dataTags : List (String × String) :=
  [("Bool", "Boolean"),
   ("ImageSource", "BitmapImage"),
   ("Brush", "SolidColorBrush"),
   ("BaseCommand", "MessageCommand")]

def dataTag (subType : String) : String := (dataTags.lookup subType).getD subType

def declaredType (subType : String) : String := (typeAliases.lookup subType).getD subType

/-- The sub-type has a declared type of its own, whatever the registry holds. -/
def hasAlias (subType : String) : Bool := (typeAliases.lookup subType).isSome

end ViewModel.Schema
