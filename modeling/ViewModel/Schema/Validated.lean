import ViewModel.Schema.Registry
import ViewModel.Validation

/-!
# Kinds and structures given by hand

A property kind or a structure may be given as an element with a field for each of its parts. Fields that
it does not have are ignored; all that is wrong with the others is told at once, in order of the fields.
-/

namespace ViewModel.Schema

open Validation

/-- The kind of a tag, with its parts read from the fields of an element. -/
def PropertyKind.ofFields (tag : KindTag) (path : List String) (fields : Tree) :
    Except (List Issue) PropertyKind :=
  let path := path ++ [tag.name]
  let subType := requiredField fields path "sub_type" Validation.text
  match tag with
  | .boolean => .ok .boolean
  | .command => .ok .command
  | .brush => .ok .brush
  | .font => .ok .font
  | .string =>
    both .string (single (fieldOr fields path "min_words" none (orNone Validation.integer)))
      (single (fieldOr fields path "max_words" none (orNone Validation.integer)))
  | .number =>
    both (fun (low, high) count => .number low high count)
      (both Prod.mk (single (fieldOr fields path "min_value" none (orNone Validation.number)))
        (single (fieldOr fields path "max_value" none (orNone Validation.number))))
      (single (fieldOr fields path "decimal_count" none (orNone Validation.integer)))
  | .object => single (subType.map .object)
  | .image => single ((fieldOr fields path "source_path" none (orNone Validation.text)).map .image)
  | .enum => single (subType.map .enum)
  | .collection => single (subType.map .collection)

/-- The kind that an element describes; its `kind` field tells which. -/
def PropertyKind.ofTree (path : List String) : Tree → Except (List Issue) PropertyKind
  | .element fields =>
    match fields.lookup "kind" with
    | none => .error [⟨path, .tagMissing⟩]
    | some (.text name) =>
      match KindTag.ofName? name with
      | some tag => PropertyKind.ofFields tag path (.element fields)
      | none => .error [⟨path, .tagUnknown⟩]
    | some _ => .error [⟨path, .tagUnknown⟩]
  | _ => .error [⟨path, .elementWanted⟩]

/-- A table read entry by entry; the issues of all entries together. -/
def tableOfFields (read : List String → Tree → Except (List Issue) α) (path : List String) :
    List (String × Tree) → Except (List Issue) (List (String × α))
  | [] => .ok []
  | (name, value) :: rest =>
    both (fun entry entries => (name, entry) :: entries) (read (path ++ [name]) value)
      (tableOfFields read path rest)

def tableField (read : List String → Tree → Except (List Issue) α) (fields : Tree) (name : String) :
    Except (List Issue) (Table α) :=
  match fields.field? name with
  | none => .ok Table.empty
  | some (.element entries) => (tableOfFields read [name] entries).map Table.ofList
  | some _ => .error [⟨[name], .tableWanted⟩]

/-- The field that tells what a structure is, if it is there, must tell the right thing. -/
def kindField (word : String) (fields : Tree) : Except Issue Unit :=
  match fields.field? "kind" with
  | none => .ok ()
  | some (.text found) => if found == word then .ok () else .error ⟨["kind"], .choiceUnknown⟩
  | some _ => .error ⟨["kind"], .choiceUnknown⟩

/-- The name of a structure, and the check of its `kind` field. -/
def namedFields (word : String) (fields : Tree) : Except (List Issue) String :=
  both (fun _ name => name) (single (kindField word fields))
    (single (requiredField fields [] "name" Validation.text))

/-- The class that the fields of an element describe. -/
def Structure.classOfTree (fields : Tree) : Except (List Issue) Structure :=
  both .classType (namedFields "Class" fields)
    (tableField PropertyKind.ofTree fields "properties")

/-- The enum that the fields of an element describe. -/
def Structure.enumOfTree (fields : Tree) : Except (List Issue) Structure :=
  let ordinal := fun path value => single ((Validation.integer value).mapError fun cause => ⟨path, cause⟩)
  both .enumType (namedFields "Enum" fields) (tableField ordinal fields "items")

/-- The built-in that the fields of an element describe. -/
def Structure.builtInOfTree (fields : Tree) : Except (List Issue) Structure :=
  (namedFields "BuiltIn" fields).map .builtIn

end ViewModel.Schema
