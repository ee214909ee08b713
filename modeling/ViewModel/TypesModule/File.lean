import ViewModel.Files.Action
import ViewModel.TypesModule

/-!
# The types module as a file

The types module stands beside the data modules that import it, under the name that they import it by.
-/

namespace ViewModel.TypesModule

open Schema Files

def moduleSuffix : String := ".ts"

/-- Writes the types module of a registry into a directory, which is made if need be. -/
def writeFile (registry : Registry) (directory : Path) (moduleName : String) (options : Options) :
    FileAction Files.Error Path := do
  FileAction.makeDirectories directory
  let path := directory.join (moduleName ++ moduleSuffix)
  FileAction.record .info logger
    ("Writing TypeScript definitions for " ++ toString registry.size ++ " Noesis structures to " ++
      path.text)
  let text ← FileAction.ofAttempt (ExceptT.lift (render registry options))
  FileAction.writeText path text
  return path

end ViewModel.TypesModule
