import ViewModel.Files.FileSystem
import ViewModel.Log
import ViewModel.Text.Utf8

/-!
# Actions on files

An action reads and changes a file system, makes records, and may end in an error. What it changed and
recorded until then stays.
-/

namespace ViewModel.Files

/-- A step on a file system that makes records and always ends in a value. -/
abbrev FileStep (α : Type) := StateT FileSystem Logged α

/-- A step on a file system that makes records and may end in an error. -/
abbrev FileAction (ε α : Type) := ExceptT ε (StateT FileSystem Logged) α

namespace FileAction

variable {ε α : Type}

/-- How the action ends on a file system, the file system after it, and its records. -/
def runOn (action : FileAction ε α) (files : FileSystem) : Logged (Except ε α × FileSystem) :=
  (ExceptT.run action).run files

def outcome (action : FileAction ε α) (files : FileSystem) : Except ε α :=
  (action.runOn files).value.1

def files (action : FileAction ε α) (files : FileSystem) : FileSystem :=
  (action.runOn files).value.2

def record (level : Level) (logger message : String) : FileAction ε Unit :=
  ExceptT.lift (liftM (Logged.record level logger message))

/-- An action that neither reads nor changes files. -/
def ofAttempt (attempt : Attempt ε α) : FileAction ε α :=
  ExceptT.mk (liftM attempt.run)

def reading (look : FileSystem → Attempt ε α) : FileAction ε α :=
  ExceptT.mk fun files => (fun result => (result, files)) <$> (look files).run

def changing (change : FileSystem → Except ε α × FileSystem) : FileAction ε α :=
  ExceptT.mk fun files => pure (change files)

def makeDirectories (path : Path) : FileAction Error Unit :=
  changing fun files => files.makeDirectories path

def writeText (path : Path) (text : String) : FileAction Error Unit :=
  changing fun files =>
    match files.write path (Text.Utf8.encode text) with
    | .ok written => (.ok (), written)
    | .error error => (.error error, files)

end FileAction

end ViewModel.Files
