import ViewModel.Schema.Kind
import ViewModel.Schema.SubType
import ViewModel.Table

/-!
# Structures and their registry

A schema declares classes and enums; beside them stand the built-in types. The registry holds them under
their names, in the order in which the names first came. A later structure of a known name replaces the
earlier one in its place.

* `lookup?_add`: an added structure is found under its name, and nothing else changes.
-/

namespace ViewModel.Schema

/-- A named type: a class with its properties, an enum with its members and their ordinals, or a
built-in that is known without a definition. -/
inductive Structure
  | classType (name : String) (properties : Table PropertyKind)
  | enumType (name : String) (items : Table Int)
  | builtIn (name : String)

namespace Structure

def name : Structure → String
  | .classType name _ | .enumType name _ | .builtIn name => name

def kindName : Structure → String
  | .classType .. => "Class"
  | .enumType .. => "Enum"
  | .builtIn _ => "BuiltIn"

/-- Classes and enums are declared, built-ins are not. -/
def isDeclared : Structure → Bool
  | .builtIn _ => false
  | _ => true

end Structure

/-- Whether an added structure was new or took the place of another. -/
inductive Insertion
  | inserted
  | replaced
  deriving DecidableEq, Repr

structure UnknownStructure where
  name : String
  deriving DecidableEq, Repr

def UnknownStructure.message (error : UnknownStructure) : String :=
  "Unknown structure type: " ++ error.name

def UnknownStructure.kind : String := "UnknownStructureError"

/-- The structures known so far, each under its own name. -/
structure Registry where
  table : Table Structure
  named : ∀ entry ∈ table.entries, entry.2.name = entry.1

namespace Registry

def empty : Registry := ⟨Table.empty, by simp [Table.empty]⟩

instance : Inhabited Registry := ⟨empty⟩

theorem named_putEntries {entries : List (String × Structure)} {added : Structure}
    (h : ∀ entry ∈ entries, entry.2.name = entry.1) :
    ∀ entry ∈ Table.putEntries entries added.name added, entry.2.name = entry.1 := by
  induction entries with
  | nil => simp [Table.putEntries]
  | cons first rest ih =>
    intro entry mem
    simp only [Table.putEntries] at mem
    split at mem
    · rename_i same
      rcases List.mem_cons.1 mem with rfl | mem
      · exact same.symm
      · exact h entry (List.mem_cons_of_mem _ mem)
    · rcases List.mem_cons.1 mem with rfl | mem
      · exact h _ List.mem_cons_self
      · exact ih (fun entry mem => h entry (List.mem_cons_of_mem _ mem)) entry mem

/-- The registry with one more structure, under its name. -/
def add (registry : Registry) (added : Structure) : Registry where
  table := registry.table.put added.name added
  named := named_putEntries registry.named

/-- What adding a structure does. -/
def insertion (registry : Registry) (added : Structure) : Insertion :=
  if registry.table.contains added.name then .replaced else .inserted

def structures (registry : Registry) : List Structure := registry.table.values

def names (registry : Registry) : List String := registry.table.names

def size (registry : Registry) : Nat := registry.table.size

def declarations (registry : Registry) : List Structure :=
  registry.structures.filter Structure.isDeclared

/-- The structure that a type name refers to by its final segment. -/
def lookup? (registry : Registry) (typeName : String) : Option Structure :=
  registry.table.get? (finalSegment typeName)

/-- The structure that a type name refers to, which has to exist. -/
def resolve (registry : Registry) (typeName : String) : Except UnknownStructure Structure :=
  match registry.lookup? typeName with
  | some found => .ok found
  | none => .error ⟨finalSegment typeName⟩

def contains (registry : Registry) (typeName : String) : Bool :=
  (registry.lookup? typeName).isSome

theorem lookup?_add (registry : Registry) (added : Structure) (typeName : String) :
    (registry.add added).lookup? typeName =
      if finalSegment typeName = added.name then some added
      else registry.lookup? typeName :=
  Table.get?_put _ _ _ _

/-- The types that need no definition. -/
def builtInTypes : List String :=
  ["Single", "Boolean", "String", "Color", "BitmapImage", "SolidColorBrush", "MessageCommand"]

/-- The enums that every schema may use; a member's ordinal is its place. -/
def builtInEnums : List (String × List String) :=
  [("Visibility", ["Collapsed", "Visible", "Hidden"]),
   ("Orientation", ["Horizontal", "Vertical"]),
   ("HorizontalAlignment", ["Left", "Center", "Right", "Stretch"]),
   ("VerticalAlignment", ["Top", "Center", "Bottom", "Stretch"]),
   ("TextAlignment", ["Left", "Center", "Right", "Justify"]),
   ("TextWrapping", ["NoWrap", "Wrap", "WrapWithOverflow"]),
   ("TextTrimming", ["None", "CharacterEllipsis", "WordEllipsis"]),
   ("FlowDirection", ["LeftToRight", "RightToLeft"]),
   ("FontFamily", ["Anton", "Bangers", "Oswald", "Roboto", "Roboto-Mono"])]

/-- An enum whose ordinals are the places of its members. -/
def enumOf (name : String) (members : List String) : Structure :=
  .enumType name (Table.ofList (members.zipIdx.map fun (member, place) => (member, (place : Int))))

/-- The built-in structures: the types, then the enums. -/
def builtIns : List Structure :=
  builtInTypes.map Structure.builtIn ++ builtInEnums.map fun (name, members) => enumOf name members

/-- The registry with the built-in structures added. -/
def seed (registry : Registry) : Registry := builtIns.foldl add registry

/-- A one-line account of the registry. -/
def summary (registry : Registry) : String :=
  "Registry(" ++ toString registry.size ++ " structures)"

end Registry

end ViewModel.Schema
