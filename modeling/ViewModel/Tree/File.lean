import ViewModel.Files.FileSystem
import ViewModel.Text.Utf8
import ViewModel.Xml.Merge

/-!
# Trees in files

A document in a file is UTF-8. What is wrong with its form is told with the name of the file.
-/

namespace ViewModel

inductive ReadError
  | access (error : Files.Error)
  | encoding (fault : Text.Utf8.Fault)
  | document (file : String) (error : Xml.Error)
  deriving DecidableEq, Repr

def ReadError.kind : ReadError → String
  | access error => error.cause.kind
  | encoding _ => "UnicodeDecodeError"
  | document _ error => error.kind

def ReadError.message : ReadError → String
  | access error => error.message
  | encoding fault => fault.message
  | document _ .entitiesDisabled => Xml.Error.entitiesDisabled.message
  | document file error => file ++ ": " ++ error.message

/-- The tag of the root of a file's document, and its tree. -/
def Tree.ofFile (files : Files.FileSystem) (path : Files.Path) : Except ReadError (String × Tree) := do
  let bytes ← (files.read path).mapError .access
  let text ← (Text.Utf8.decode bytes).mapError .encoding
  (Tree.ofXml? text).mapError (.document path.name)

end ViewModel
