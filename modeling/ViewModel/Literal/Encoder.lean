import ViewModel.Literal.Basic
import ViewModel.TypesModule
import ViewModel.Tree.Scalar

/-!
# Encoding data

A tree of data is written as the literal of a structure. Every declared property of a class is written,
in order of declaration: scalar ones are read from the field of the same name, structured ones from the
wrapper field `Class.Property`. What is missing or unusable becomes the default of its kind and is logged;
only a root of unknown type is an error.

* `weight_lt_of_wrapped`, `weightItems_lt_of_wrapped`: what is found in a wrapper weighs less than the
  tree around it, so encoding ends.
-/

namespace ViewModel.Literal

open Schema

def logger : String := loggerName "noesisgen.transformer"

/-- What ends an encoding: a type that does not resolve, or a field without a first value. -/
inductive EncodeError
  | unknown (error : UnknownStructure)
  | misfit (misfit : Misfit)
  deriving DecidableEq, Repr

def EncodeError.kind : EncodeError → String
  | unknown _ => UnknownStructure.kind
  | misfit cause => cause.kind

def EncodeError.message : EncodeError → String
  | unknown error => error.message
  | misfit .unlisted => "the value of a field is no list"
  | misfit .keyed => "the value of a field is an element"

/-- What a tree is encoded with: the registry, the width of an indentation step, and the font of
properties that name none. -/
structure Encoder where
  registry : Registry
  indent : Nat := 2
  defaultFont : String := "Bangers"

/-- What is written for a command that is not given. -/
def commandNotDefined : String := "() => \x7b console.warn('Command not defined'); \x7d"

/-- What is written for a command that is given in no known form. -/
def commandNotRecognized : String := "() => \x7b console.warn('Command type not recognized'); \x7d"

def firstValue? (values : Option Tree) : Except Misfit (Option Tree) :=
  match values with
  | none => .ok none
  | some values => values.head?

/-- The first child under a tag; nothing counts as none. -/
def firstChild? (tree : Tree) (tag : String) : Except Misfit (Option Tree) :=
  match firstValue? (tree.field? tag) with
  | .ok (some .nothing) => .ok none
  | found => found

/-- The first wrapper of that name, and what is found in it. -/
def wrapped? (tree : Tree) (wrapper : String) (find : Tree → Except Misfit α) :
    Except Misfit (Option (Tree × α)) :=
  match firstValue? (tree.field? wrapper) with
  | .error misfit => .error misfit
  | .ok none => .ok none
  | .ok (some first) => (find first).map fun found => some (first, found)

def listedChildren (tree : Tree) (tag : String) : List Tree :=
  match tree.field? tag with
  | some (.list items) => items
  | _ => []

theorem wrapped?_eq_some {tree first : Tree} {wrapper : String} {find : Tree → Except Misfit α} {found : α}
    (h : wrapped? tree wrapper find = .ok (some (first, found))) :
    find first = .ok found ∧ first.weight < tree.weight := by
  unfold wrapped? firstValue? at h
  cases field : tree.field? wrapper with
  | none => simp [field] at h
  | some values =>
    cases head : values.head? with
    | error misfit => simp [field, head] at h
    | ok value? =>
      cases value? with
      | none => simp [field, head] at h
      | some value =>
        simp only [field, head] at h
        cases result : find value with
        | error misfit => simp [result, Except.map] at h
        | ok result =>
          simp only [result, Except.map, Except.ok.injEq, Option.some.injEq, Prod.mk.injEq] at h
          obtain ⟨rfl, rfl⟩ := h
          have light := Tree.weight_le_of_head? head
          have lighter := Tree.weight_lt_of_field? field
          exact ⟨result, by omega⟩

theorem weight_le_of_firstChild {tree child : Tree} {tag : String}
    (h : firstChild? tree tag = .ok (some child)) : child.weight ≤ tree.weight := by
  unfold firstChild? firstValue? at h
  cases field : tree.field? tag with
  | none => simp [field] at h
  | some values =>
    have lighter := Tree.weight_lt_of_field? field
    simp only [field] at h
    split at h
    · simp at h
    · have light := Tree.weight_le_of_head? h
      omega

theorem weightItems_le_of_listed (tree : Tree) (tag : String) :
    Tree.weightItems (listedChildren tree tag) ≤ tree.weight := by
  unfold listedChildren
  split
  · rename_i items field
    have lighter := Tree.weight_lt_of_field? field
    simp only [Tree.weight] at lighter
    omega
  · simp [Tree.weightItems]

theorem weight_lt_of_wrapped {tree first child : Tree} {wrapper tag : String}
    (h : wrapped? tree wrapper (firstChild? · tag) = .ok (some (first, some child))) :
    child.weight < tree.weight := by
  obtain ⟨found, lighter⟩ := wrapped?_eq_some h
  have light := weight_le_of_firstChild found
  omega

theorem weightItems_lt_of_wrapped {tree first : Tree} {wrapper tag : String} {items : List Tree}
    (h : wrapped? tree wrapper (fun first => .ok (listedChildren first tag)) = .ok (some (first, items))) :
    Tree.weightItems items < tree.weight := by
  obtain ⟨found, lighter⟩ := wrapped?_eq_some h
  simp only [Except.ok.injEq] at found
  subst found
  have light := weightItems_le_of_listed first tag
  omega

/-- One property of one object: the structure's name, the property's name and kind, the tree that the
object is read from, and the indentation of its entries. -/
structure Slot where
  structureName : String
  property : String
  tree : Tree
  indent : String

namespace Slot

/-- The value of the field with the property's name. -/
def value? (slot : Slot) : Except Misfit (Option Tree) := firstValue? (slot.tree.field? slot.property)

/-- The name of the field that holds a structured property. -/
def wrapper (slot : Slot) : String := slot.structureName ++ "." ++ slot.property

/-- The first child under a tag in the property's wrapper. -/
def child? (slot : Slot) (tag : String) : Except Misfit (Option Tree) :=
  (wrapped? slot.tree slot.wrapper (firstChild? · tag)).map fun found => found.bind (·.2)

/-- The words by which messages point to the property. -/
def place (slot : Slot) : String :=
  "property " ++ slot.property ++ " of structure " ++ slot.structureName

end Slot

def warn (message : String) : Attempt EncodeError Unit := Attempt.record .warning logger message

/-- An error record within an encoding, which goes on. -/
def report (message : String) : Attempt EncodeError Unit := Attempt.record .error logger message

def look (found : Except Misfit α) : Attempt EncodeError α := Attempt.ofExcept (found.mapError .misfit)

/-- The literal of an attempt, or what is written instead if its type does not resolve. -/
def orElseUnknown (attempt : Attempt EncodeError α) (instead : UnknownStructure → Attempt EncodeError α) :
    Attempt EncodeError α :=
  tryCatch attempt fun
    | .unknown error => instead error
    | .misfit misfit => throw (.misfit misfit)

namespace Encoder

/-- What is written for an object or enum that is not given. -/
def placeholder (encoder : Encoder) (subType : String) : String :=
  "undefined as any as " ++ TypesModule.referencedType encoder.registry subType

def step (encoder : Encoder) : String := TypesModule.spaces encoder.indent

/-- The function that a message command is written as. -/
def commandLiteral (encoder : Encoder) (command : Tree) (indent : String) : Attempt EncodeError String := do
  let message ← look (firstChild? command "Message")
  let text := (message.map plain).getD ""
  return "(parameter?: unknown) => \x7b\n" ++ indent ++ encoder.step ++ "console.log(\"" ++ escape text ++
    "\", parameter ? parameter : \"\");\n" ++ indent ++ "\x7d"

def builtIn (encoder : Encoder) (name : String) (tree : Tree) (indent : String) :
    Attempt EncodeError String := do
  match name with
  | "Single" | "Boolean" => return plain tree.scalar
  | "Color" => return plain tree
  | "String" => return quote (plain tree)
  | "BitmapImage" =>
    let source ← look (firstChild? tree "UriSource")
    match source.bind imagePath? with
    | some path => return quote path
    | none =>
      warn ("Image path not found for built-in structure BitmapImage: " ++ (source.getD .nothing).written)
      return "\"\""
  | "SolidColorBrush" =>
    match ← look (firstChild? tree "Color") with
    | some color => return quote (plain color)
    | none =>
      warn "SolidColorBrush without a Color"
      return "\"\""
  | "MessageCommand" => encoder.commandLiteral tree indent
  | _ =>
    report ("Unknown built-in: " ++ name)
    return ""

def stringEntry (slot : Slot) : Attempt EncodeError String := do
  match ← look slot.value? with
  | some value => return quote (plain value)
  | none => return "\"\""

def numberEntry (slot : Slot) : Attempt EncodeError String := do
  match (← look slot.value?).map Tree.scalar with
  | none => return "0"
  | some (.integer n) => return plain (.integer n)
  | some (.decimal x) => return plain (.decimal x)
  | some value =>
    warn ("Value " ++ value.quoted ++ " of " ++ slot.place ++ " is not a number")
    return "0"

def booleanEntry (slot : Slot) : Attempt EncodeError String := do
  match (← look slot.value?).map Tree.scalar with
  | none => return "false"
  | some (.flag value) => return plain (.flag value)
  | some value =>
    warn ("Value " ++ value.quoted ++ " of " ++ slot.place ++ " is not a boolean")
    return "false"

def enumEntry (encoder : Encoder) (slot : Slot) (subType : String) : Attempt EncodeError String := do
  match ← look slot.value? with
  | none => return encoder.placeholder subType
  | some value =>
    let member := plain value
    match encoder.registry.lookup? subType with
    | none =>
      report ("Unknown structure type: " ++ subType ++ " (" ++ slot.place ++ ")")
      return encoder.placeholder subType
    | some (.enumType _ items) =>
      if !items.contains member then
        warn ("Value " ++ member ++ " of " ++ slot.place ++ " is not a member of " ++ subType)
      return memberRef subType member
    | some _ => return memberRef subType member

def fontEntry (encoder : Encoder) (slot : Slot) : Attempt EncodeError String := do
  match ← look slot.value? with
  | some value => return memberRef TypesModule.fontEnum (plain value)
  | none => return memberRef TypesModule.fontEnum encoder.defaultFont

/-- The entry of an image property: a path as a field, or else a bitmap in the wrapper. -/
def imageEntry (encoder : Encoder) (slot : Slot) : Attempt EncodeError String := do
  match ← look slot.value? with
  | some source =>
    match imagePath? source with
    | some path => return quote path
    | none =>
      warn ("Image path not found for " ++ slot.place ++ ": " ++ source.written)
      return "\"\""
  | none =>
    match ← look (slot.child? "BitmapImage") with
    | some bitmap => encoder.builtIn "BitmapImage" bitmap slot.indent
    | none => return "\"\""

/-- The entry of a brush property: a colour as a field, or else a brush in the wrapper. -/
def brushEntry (encoder : Encoder) (slot : Slot) : Attempt EncodeError String := do
  match ← look slot.value? with
  | some color => return quote (plain color)
  | none =>
    match ← look (slot.child? "SolidColorBrush") with
    | some brush => encoder.builtIn "SolidColorBrush" brush slot.indent
    | none => return "\"\""

def commandEntry (encoder : Encoder) (slot : Slot) : Attempt EncodeError String := do
  match ← look (wrapped? slot.tree slot.wrapper (firstChild? · "MessageCommand")) with
  | none => return commandNotDefined
  | some (_, some command) => encoder.commandLiteral command slot.indent
  | some (first, none) =>
    warn ("Unknown command type for " ++ slot.place ++ ": " ++ first.quoted)
    return commandNotRecognized

mutual

/-- The literal of a tree as a structure of the named type. -/
def value (encoder : Encoder) (typeName : String) (tree : Tree) (indent : String) :
    Attempt EncodeError String :=
  match encoder.registry.resolve typeName with
  | .error error => throw (.unknown error)
  | .ok (.classType name properties) => do
    let lines ← encoder.entries name tree (indent ++ encoder.step) properties.entries
    return "\n".intercalate ("\x7b" :: lines ++ [indent ++ "\x7d"])
  | .ok (.enumType name _) => return memberRef name (plain tree)
  | .ok (.builtIn name) => encoder.builtIn name tree indent
termination_by (tree.weight, 3, 0)

/-- The lines of an object's entries, one for every property. -/
def entries (encoder : Encoder) (structureName : String) (tree : Tree) (indent : String) :
    List (String × PropertyKind) → Attempt EncodeError (List String)
  | [] => return []
  | (property, kind) :: rest => do
    let literal ← encoder.entry ⟨structureName, property, tree, indent⟩ kind
    let lines ← encoder.entries structureName tree indent rest
    return (indent ++ property ++ ": " ++ literal ++ ",") :: lines
termination_by properties => (tree.weight, 2, properties.length)

def entry (encoder : Encoder) (slot : Slot) : PropertyKind → Attempt EncodeError String
  | .string .. => stringEntry slot
  | .number .. => numberEntry slot
  | .boolean => booleanEntry slot
  | .enum subType => encoder.enumEntry slot subType
  | .font => encoder.fontEntry slot
  | .image _ => encoder.imageEntry slot
  | .brush => encoder.brushEntry slot
  | .command => encoder.commandEntry slot
  | .object subType =>
    let tag := dataTag subType
    match h : wrapped? slot.tree slot.wrapper (firstChild? · tag) with
    | .error misfit => throw (.misfit misfit)
    | .ok none => return encoder.placeholder subType
    | .ok (some (_, none)) => do
      warn ("Expected " ++ tag ++ " element for object " ++ slot.place)
      return encoder.placeholder subType
    | .ok (some (_, some child)) =>
      have := weight_lt_of_wrapped h
      orElseUnknown (encoder.value tag child slot.indent) fun error => do
        report (error.message ++ " (" ++ slot.place ++ ")")
        return encoder.placeholder subType
  | .collection subType =>
    let tag := dataTag subType
    match h : wrapped? slot.tree slot.wrapper (fun first => .ok (listedChildren first tag)) with
    | .error misfit => throw (.misfit misfit)
    | .ok none => return "[]"
    | .ok (some (_, [])) => do
      warn ("Expected array for collection property " ++ slot.property ++ " type " ++ tag ++
        " of structure " ++ slot.structureName)
      return "[]"
    | .ok (some (_, first :: rest)) =>
      have := weightItems_lt_of_wrapped h
      orElseUnknown
        (do
          let lines ← encoder.items tag (slot.indent ++ encoder.step) (first :: rest)
          return "\n".intercalate ("[" :: lines ++ [slot.indent ++ "]"]))
        fun error => do
          report (error.message ++ " (" ++ slot.place ++ ")")
          return "[]"
termination_by (slot.tree.weight, 1, 0)

/-- The lines of a collection's entries. -/
def items (encoder : Encoder) (tag indent : String) : List Tree → Attempt EncodeError (List String)
  | [] => return []
  | item :: rest => do
    let literal ← encoder.value tag item indent
    let lines ← encoder.items tag indent rest
    return (indent ++ literal ++ ",") :: lines
termination_by items => (Tree.weightItems items, 4, items.length)
decreasing_by
  · simp only [Prod.lex_def, Tree.weightItems]
    omega
  · simp only [Prod.lex_def, Tree.weightItems, List.length_cons, true_and]
    omega

end

/-- The literal of a tree whose root is of the named type. -/
def encode (encoder : Encoder) (typeName : String) (tree : Tree) : Attempt EncodeError String :=
  encoder.value typeName tree ""

end Encoder

end ViewModel.Literal
