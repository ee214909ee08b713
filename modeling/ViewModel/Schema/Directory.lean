import ViewModel.Schema.Source
import ViewModel.Tree.File

/-!
# Schemas in directories

The structure files of a directory are its `.xml` files, in order of their names. A file that cannot be
read, decoded or parsed is logged and left out; one that declares an entity ends the loading.
-/

namespace ViewModel.Schema

open Files

def structureSuffix : String := ".xml"

inductive DirectoryError
  | notFound (directory : Path)
  | unreadable (directory : Path) (error : Files.Error)
  | unreachable (error : Files.Error)
  | entitiesDisabled
  | misfit (misfit : Misfit)
  deriving DecidableEq, Repr

def DirectoryError.kind : DirectoryError → String
  | notFound _ | unreadable .. => "SchemaLoadError"
  | unreachable error => error.cause.kind
  | entitiesDisabled => Xml.Error.entitiesDisabled.kind
  | misfit cause => cause.kind

def DirectoryError.message : DirectoryError → String
  | notFound directory => "Structures directory not found: " ++ directory.text
  | unreadable directory error =>
    "Cannot read structures directory " ++ directory.text ++ ": " ++ error.message
  | unreachable error => error.message
  | entitiesDisabled => Xml.Error.entitiesDisabled.message
  | misfit .unlisted => "the value of a field is no list"
  | misfit .keyed => "the value of a field is an element"

/-- The source that a file holds, unless it is logged and left out. -/
def Source.ofFile (files : FileSystem) (path : Path) : Attempt DirectoryError (Option Source) :=
  match Tree.ofFile files path with
  | .ok (rootTag, node) => pure (some ⟨path.name, rootTag, node⟩)
  | .error (.document _ .entitiesDisabled) => throw .entitiesDisabled
  | .error error => do
    Attempt.record .error schemaLogger
      ("Error reading structure file " ++ path.name ++ ": " ++ error.message)
    return none

def readSources (files : FileSystem) (directory : Path) : Attempt DirectoryError (List Source) := do
  unless ← Attempt.ofExcept ((files.isDirectory directory).mapError .unreachable) do
    throw (.notFound directory)
  Attempt.record .info schemaLogger ("Reading structures from: " ++ directory.text)
  let paths ← Attempt.ofExcept
    ((files.listFiles directory structureSuffix).mapError (.unreadable directory))
  let sources ← paths.mapM (Source.ofFile files)
  return sources.filterMap id

def loadDirectory (files : FileSystem) (directory : Path) : Attempt DirectoryError Registry := do
  let sources ← readSources files directory
  (load sources).adapt .misfit

end ViewModel.Schema
