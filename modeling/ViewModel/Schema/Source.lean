import ViewModel.Schema.Declaration

/-!
# Loading a schema

A schema is a list of sources, each a parsed file that declares one structure. The built-in structures
come first; then every source that loads is added, in order. A source that does not load is logged and
left out.
-/

namespace ViewModel.Schema

/-- A parsed structure file: its name, the tag of its root, and the root itself. -/
structure Source where
  name : String
  rootTag : String
  node : Tree

/-- What keeps the structure of a source out of the registry. -/
inductive SourceError
  | unknownRoot
  | declaration (error : SchemaError)

def Source.load (source : Source) : Attempt SourceError Structure :=
  if source.rootTag == "Class" then (loadClass source.node).adapt .declaration
  else if source.rootTag == "Enum" then (loadEnum source.node).adapt .declaration
  else throw .unknownRoot

/-- The registry with the structure of one more source, if it loads. -/
def Source.addTo (registry : Registry) (source : Source) : Attempt Misfit Registry := do
  match ← ExceptT.lift source.load.run with
  | .ok loaded =>
    match registry.insertion loaded with
    | .replaced =>
      Attempt.record .warning schemaLogger
        ("Structure " ++ loaded.name ++ " from " ++ source.name ++ " replaces an earlier definition")
    | .inserted =>
      Attempt.record .debug schemaLogger
        ("- " ++ source.name ++ ": " ++ loaded.kindName ++ " " ++ loaded.name)
    return registry.add loaded
  | .error .unknownRoot =>
    Attempt.record .error schemaLogger ("Unknown structure type in file: " ++ source.name)
    return registry
  | .error (.declaration (.noName kind)) =>
    Attempt.record .error schemaLogger
      ("Error processing structure file " ++ source.name ++ ": " ++ kind ++ " declares no Name")
    return registry
  | .error (.declaration (.misfit misfit)) => throw misfit

/-- The size and the names of a registry, as the log lists them. -/
def summaryRecords (logger : String) (registry : Registry) : List Record :=
  ⟨.info, logger, "Loaded " ++ toString registry.size ++ " structures."⟩ ::
    registry.structures.map fun entry =>
      ⟨.debug, logger, "  " ++ column entry.kindName ++ " " ++ entry.name⟩

/-- The registry of a schema: the built-in structures and those of the sources, in order. -/
def load (sources : List Source) : Attempt Misfit Registry := do
  let registry ← sources.foldlM Source.addTo Registry.empty.seed
  ExceptT.lift ⟨(), summaryRecords schemaLogger registry⟩
  return registry

end ViewModel.Schema
