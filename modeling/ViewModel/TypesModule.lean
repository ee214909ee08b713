import ViewModel.Log
import ViewModel.Schema.Registry

/-!
# The types module

One declaration for every class and enum of a registry, in order. A property whose sub-type names
nothing that the module declares is declared as unknown and logged, so the module never refers to an
undeclared type.
-/

namespace ViewModel.TypesModule

open Schema

def logger : String := loggerName "noesisgen.emitter"

def fontEnum : String := "FontFamily"

/-- What a property of an unresolved type is declared as. -/
def unknownType : String := "unknown"

structure Options where
  indent : Nat := 2
  imageModule : String := "horizon/ui"

/-- The name that a types module has unless it is told otherwise. -/
def defaultName : String := "NoesisTypes"

/-- The type that a kind asks for by itself. -/
def ownType : PropertyKind → String
  | .string .. => "string"
  | .number .. => "number"
  | .boolean => "boolean"
  | .command => commandType
  | .object subType => declaredType subType
  | .image _ => imageType
  | .brush => brushType
  | .font => fontEnum
  | .enum subType => declaredType subType
  | .collection subType => "Array<" ++ declaredType subType ++ ">"

/-- The declared type of a sub-type, if it has an alias or the registry declares it. -/
def resolvedType? (registry : Registry) (subType : String) : Option String :=
  if hasAlias subType || ((registry.lookup? subType).map Structure.isDeclared).getD false then
    some (declaredType subType)
  else none

/-- The declared type of a sub-type, unless it is empty. -/
def namedType? (registry : Registry) (subType : String) : Option String :=
  (resolvedType? registry subType).filter (· != "")

/-- What a sub-type is referred to as: its declared type, or the unknown type. -/
def referencedType (registry : Registry) (subType : String) : String :=
  (namedType? registry subType).getD unknownType

/-- The type that the kind refers to, if that is not resolved. -/
def unresolved? (registry : Registry) (kind : PropertyKind) : Option String :=
  kind.reference?.filter fun subType => (namedType? registry subType).isNone

/-- What a property is declared as if its type is not resolved. -/
def fallbackType : PropertyKind → String
  | .collection _ => "Array<" ++ unknownType ++ ">"
  | _ => unknownType

def propertyType (registry : Registry) (className property : String) (kind : PropertyKind) :
    Logged String :=
  match unresolved? registry kind with
  | none => pure (ownType kind)
  | some subType => do
    Logged.record .warning logger
      ("Unresolved type " ++ subType ++ " for property " ++ property ++ " of structure " ++ className ++
        "; declared as " ++ unknownType)
    return fallbackType kind

/-- The lines of a structure's declaration; a built-in has none. -/
def declaration (registry : Registry) (indent : String) : Structure → Logged (List String)
  | .classType name properties => do
    let lines ← properties.entries.mapM fun (property, kind) => do
      return indent ++ property ++ ": " ++ (← propertyType registry name property kind) ++ ";"
    return ["// Definition for structure " ++ name, "export type " ++ name ++ " = \x7b"] ++ lines ++
      ["\x7d", ""]
  | .enumType name items => do
    let lines := items.names.map fun item => indent ++ "\"" ++ item ++ "\" = \"" ++ item ++ "\","
    return ["// Definition for enum " ++ name, "export enum " ++ name ++ " \x7b"] ++ lines ++
      ["\x7d", ""]
  | .builtIn _ => return []

/-- What stands before the declarations. -/
def preamble (imageModule : String) : List String :=
  ["// Auto-generated TypeScript definitions for Noesis structures",
   "",
   "import \x7b ImageSource \x7d from \"" ++ imageModule ++ "\";",
   "",
   "// Complex brushes not yet supported",
   "export type Brush = never;",
   ""]

def spaces (count : Nat) : String := String.ofList (List.replicate count ' ')

def render (registry : Registry) (options : Options) : Logged String := do
  let blocks ← registry.declarations.mapM fun entry => do
    Logged.record .debug logger ("- " ++ entry.name)
    declaration registry (spaces options.indent) entry
  return "\n".intercalate (preamble options.imageModule ++ blocks.flatten) ++ "\n"

end ViewModel.TypesModule
