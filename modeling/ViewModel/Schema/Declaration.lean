import ViewModel.Log
import ViewModel.Schema.Registry
import ViewModel.Tree.Scalar
import ViewModel.Tree.Written
import ViewModel.Validation

/-!
# Declarations

A structure file declares a class with its properties or an enum with its items. A property that cannot
be classified is dropped and logged, and so is an item without a name or an integer; the rest of the
declaration stands. A constraint that is no valid value is logged and left out, and the property stays.
-/

namespace ViewModel.Schema

def schemaLogger : String := loggerName "noesisgen.schema.loader"

inductive DeclarationError
  | noName
  | noSubType (type : String)
  | unknownType (found : String)
  deriving DecidableEq, Repr

def DeclarationError.message : DeclarationError → String
  | noName => "Property declares no Name"
  | noSubType type => type ++ " property declares no SubType"
  | unknownType found => "Unknown property type: " ++ found

/-- A declaration that is rejected, or a field in it that has no first value. -/
inductive ClassifyError
  | rejected (error : DeclarationError)
  | misfit (misfit : Misfit)
  deriving DecidableEq, Repr

/-- The first value of a field; an empty text counts as absent. -/
def declared? (decl : Tree) (name : String) : Except Misfit (Option Tree) := do
  match decl.field? name with
  | none => return none
  | some values =>
    match ← values.head? with
    | some (.text value) => return if value.isEmpty then none else some (.text value)
    | some .nothing | none => return none
    | some value => return some value

/-- A name or type as messages show it. -/
def shown (value : Option Tree) : String := (value.getD .nothing).written

/-- A constraint's value, or none with a warning if it is invalid. -/
def constraint (property : Option Tree) (field : String)
    (read : Tree → Except Validation.Cause α) : Option Tree → Logged (Option α)
  | none => pure none
  | some value =>
    match read value with
    | .ok result => pure (some result)
    | .error _ => do
      Logged.record .warning schemaLogger
        ("Ignoring invalid " ++ field ++ " value " ++ value.quoted ++ " of property " ++ shown property)
      return none

def subTypeOf (decl : Tree) (type : String) : Except ClassifyError String :=
  match declared? decl "SubType" with
  | .error misfit => .error (.misfit misfit)
  | .ok none => .error (.rejected (.noSubType type))
  | .ok (some value) => .ok (finalSegment value.written)

def declaredField (decl : Tree) (name : String) : Attempt ClassifyError (Option Tree) :=
  Attempt.ofExcept ((declared? decl name).mapError .misfit)

/-- The kind of the property that a declaration describes. -/
def classify (decl : Tree) : Attempt ClassifyError PropertyKind := do
  let type ← declaredField decl "Type"
  let subType := fun type => Attempt.ofExcept (subTypeOf decl type)
  match type with
  | some (.text "Object") =>
    match ← subType "Object" with
    | "Brush" => return .brush
    | "ImageSource" =>
      let path ← declaredField decl "ImageSourcePath"
      return .image (path.map Tree.written)
    | "FontFamily" => return .font
    | subType => return .object subType
  | some (.text "Enum") => return .enum (← subType "Enum")
  | some (.text "Collection") => return .collection (← subType "Collection")
  | some (.text "String") =>
    let name ← declaredField decl "Name"
    let low ← declaredField decl "StringMinWordCount"
    let high ← declaredField decl "StringMaxWordCount"
    let high ← constraint name "max_words" Validation.integer high
    let low ← constraint name "min_words" Validation.integer low
    return .string low high
  | some (.text "Number") =>
    let name ← declaredField decl "Name"
    let low ← declaredField decl "NumberMinValue"
    let high ← declaredField decl "NumberMaxValue"
    let count ← declaredField decl "NumberDecimalCount"
    let count ← constraint name "decimal_count" Validation.integer count
    let high ← constraint name "max_value" Validation.number high
    let low ← constraint name "min_value" Validation.number low
    return .number low high count
  | some (.text "Boolean") => return .boolean
  | some (.text "Command") => return .command
  | other => throw (.rejected (.unknownType (shown other)))

inductive SchemaError
  | noName (kind : String)
  | misfit (misfit : Misfit)
  deriving DecidableEq, Repr

/-- One property of a class: its name with its kind, or nothing if it is rejected. -/
def loadProperty (className : String) (decl : Tree) :
    Attempt Misfit (Option (String × PropertyKind)) := do
  let name ← Attempt.ofExcept (declared? decl "Name")
  let attempt : Logged (Except ClassifyError PropertyKind) :=
    match name with
    | none => pure (.error (.rejected .noName))
    | some _ => (classify decl).run
  match ← ExceptT.lift attempt with
  | .ok kind => return some (shown name, kind)
  | .error (.misfit misfit) => throw misfit
  | .error (.rejected error) =>
    Attempt.record .error schemaLogger
      ("Error processing property " ++ shown name ++ " of class " ++ className ++ ": " ++ error.message)
    return none

/-- The integer that an item's value stands for. -/
def ordinal? (value : Option Tree) : Option Int :=
  match (value.getD .nothing).scalar with
  | .integer n => some n
  | .decimal x => (Number.Binary.ofFloat x).toInt?
  | _ => none

/-- One item of an enum: its name with its ordinal, or nothing if either is missing. -/
def loadItem (enumName : String) (item : Tree) : Attempt Misfit (Option (String × Int)) := do
  let name ← Attempt.ofExcept (declared? item "Name")
  let value ← Attempt.ofExcept (declared? item "Value")
  match name, ordinal? value with
  | some name, some ordinal => return some (name.written, ordinal)
  | _, _ =>
    Attempt.record .error schemaLogger
      ("Error processing item " ++ shown name ++ " of enum " ++ enumName ++
        ": items need a Name and an integer Value")
    return none

/-- The members of a declaration that load, under their names: the last one of a name stands where the
first one stood. -/
def loadMembers (load : Tree → Attempt Misfit (Option (String × α))) (decl : Tree) (tag : String) :
    Attempt Misfit (Table α) := do
  let children ← Attempt.ofExcept
    (match decl.field? tag with
    | none => .ok []
    | some values => values.items)
  let members ← children.mapM load
  return Table.ofList (members.filterMap id)

def nameOf (decl : Tree) (kind : String) : Except SchemaError String :=
  match declared? decl "Name" with
  | .error misfit => .error (.misfit misfit)
  | .ok none => .error (.noName kind)
  | .ok (some name) => .ok name.written

def loadClass (decl : Tree) : Attempt SchemaError Structure := do
  let name ← Attempt.ofExcept (nameOf decl "Class")
  let properties ← (loadMembers (loadProperty name) decl "Property").adapt .misfit
  return .classType name properties

def loadEnum (decl : Tree) : Attempt SchemaError Structure := do
  let name ← Attempt.ofExcept (nameOf decl "Enum")
  let items ← (loadMembers (loadItem name) decl "Item").adapt .misfit
  return .enumType name items

end ViewModel.Schema
