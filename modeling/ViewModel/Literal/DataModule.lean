import ViewModel.Literal.Encoder

/-!
# Data modules

The module of one data set: it imports every declared type and exports the literal of the data as one
typed constant.
-/

namespace ViewModel.Literal

open Schema

structure DataModule where
  indent : Nat := 2
  typesModule : String := TypesModule.defaultName
  contextName : String := "dataContext"
  defaultFont : String := "Bangers"

def importedNames (registry : Registry) : List String := registry.declarations.map Structure.name

/-- The text of the module for a tree of the named type, read from the named source. -/
def DataModule.render (options : DataModule) (registry : Registry) (sourceName typeName : String)
    (tree : Tree) : Attempt EncodeError String := do
  let root ← Attempt.ofExcept ((registry.resolve typeName).mapError .unknown)
  let encoder : Encoder := ⟨registry, options.indent, options.defaultFont⟩
  let literal ← encoder.encode typeName tree
  return "// Auto-generated data context from Noesis data set: " ++ sourceName ++ "\n\n" ++
    "import \x7b " ++ ", ".intercalate (importedNames registry) ++ " \x7d from \"./" ++
    options.typesModule ++ "\";\n\n" ++
    "export const " ++ options.contextName ++ ": " ++ declaredType root.name ++ " = " ++ literal ++ ";\n"

end ViewModel.Literal
