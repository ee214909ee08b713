import ViewModel.Files.Action
import ViewModel.Literal.DataModule
import ViewModel.Tree.File
import ViewModel.TypesModule.File

/-!
# Data set files

A data set is a document whose root is of some structure's type. Its module is written under the name
of the data set, with the suffix of a module. Nothing is written unless the whole data set can be
encoded.
-/

namespace ViewModel.DataSet

open Schema Files Literal

def logger : String := loggerName "noesisgen.batch"

def suffix : String := ".xaml"

inductive Error
  | reading (error : ReadError)
  | encoding (error : EncodeError)
  | writing (error : Files.Error)
  deriving DecidableEq, Repr

def Error.kind : Error → String
  | reading error => error.kind
  | encoding error => error.kind
  | writing error => error.cause.kind

def Error.message : Error → String
  | reading error => error.message
  | encoding error => error.message
  | writing error => error.message

def modulePath (directory path : Path) : Path :=
  directory.join (path.stem ++ TypesModule.moduleSuffix)

def readModule (registry : Registry) (options : DataModule) (path : Path) (files : FileSystem) :
    Attempt Error String := do
  let (rootTag, tree) ← Attempt.ofExcept ((Tree.ofFile files path).mapError .reading)
  (options.render registry path.name rootTag tree).adapt .encoding

/-- Writes the module of a data set into a directory, which is made if need be. -/
def convert (registry : Registry) (options : DataModule) (directory path : Path) :
    FileAction Error Path := do
  FileAction.record .info logger ("- reading " ++ path.name)
  let text ← FileAction.reading (readModule registry options path)
  (FileAction.makeDirectories directory).adapt .writing
  let target := modulePath directory path
  FileAction.record .info logger ("- writing " ++ target.name)
  (FileAction.writeText target text).adapt .writing
  return target

end ViewModel.DataSet
