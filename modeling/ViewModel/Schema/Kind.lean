/-!
# Property kinds

A property of a class is of one of ten kinds; three of them name another type, which is their sub-type.
A table of handlers has to cover them all.
-/

namespace ViewModel.Schema

/-- What a property of a class may hold. -/
inductive PropertyKind
  | boolean
  | command
  | brush
  | font
  | string (minWords maxWords : Option Int)
  | number (minValue maxValue : Option Float) (decimalCount : Option Int)
  | object (subType : String)
  | image (sourcePath : Option String)
  | enum (subType : String)
  | collection (subType : String)

/-- The ten kinds without what they carry, in their fixed order. -/
inductive KindTag
  | boolean
  | command
  | brush
  | font
  | string
  | number
  | object
  | image
  | enum
  | collection
  deriving DecidableEq, Repr

namespace KindTag

def all : List KindTag :=
  [boolean, command, brush, font, string, number, object, image, enum, collection]

def name : KindTag → String
  | boolean => "Boolean"
  | command => "Command"
  | brush => "Brush"
  | font => "Font"
  | string => "String"
  | number => "Number"
  | object => "Object"
  | image => "Image"
  | enum => "Enum"
  | collection => "Collection"

/-- The kind's name in a list of kinds. -/
def label (tag : KindTag) : String := tag.name ++ "Kind"

def ofName? (text : String) : Option KindTag := all.find? (·.name == text)

/-- The kinds that a table of handlers leaves out, in order. -/
def uncovered (handled : List KindTag) : List KindTag :=
  all.filter fun tag => !handled.contains tag

/-- What is wrong with a table that leaves kinds out. -/
def uncoveredMessage (owner : String) (missing : List KindTag) : String :=
  owner ++ " does not handle property kinds: " ++ ", ".intercalate (missing.map label)

end KindTag

namespace PropertyKind

def tag : PropertyKind → KindTag
  | boolean => .boolean
  | command => .command
  | brush => .brush
  | font => .font
  | string .. => .string
  | number .. => .number
  | object _ => .object
  | image _ => .image
  | enum _ => .enum
  | collection _ => .collection

/-- The type that an object, enum or collection property refers to. -/
def reference? : PropertyKind → Option String
  | object subType | enum subType | collection subType => some subType
  | _ => none

end PropertyKind

end ViewModel.Schema
