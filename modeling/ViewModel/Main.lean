import Std.Time.Format
import ViewModel.Command.Program

/-!
# The program on a machine

A run works on a picture of the machine's files: of what its words name, of the project's data, and of the
directory of its logs, with what may not be read there. What the run changed in the picture is written back
once it has ended. As the run is made in one go, all its records have the time of its start, and they come from
no line of a source.
-/

namespace ViewModel.Machine

open Files

def readEnvironment : IO (Table String) := do
  let bytes ← try pure (← IO.FS.readBinFile "/proc/self/environ").toList catch _ => pure []
  let text := (Text.Utf8.decode bytes).toOption.getD ""
  return Table.ofList ((text.splitOn "\x00").filterMap fun entry =>
    match entry.splitOn "=" with
    | name :: value :: more => some (name, "=".intercalate (value :: more))
    | _ => none)

/-- The start of a session, now, and the moment that it is. -/
def now : IO (Log.Start × Log.Moment) := do
  let moment ← Std.Time.PlainDateTime.now
  let two (n : Int) : String := (if n < 10 then "0" else "") ++ toString n
  let date := [toString moment.year.toInt, two moment.month.val, two moment.day.val]
  let time := [two moment.hour.val, two moment.minute.val, two moment.second.val]
  let bytes ← IO.getRandomBytes 3
  let id := String.ofList (bytes.toList.flatMap fun byte => Text.hex 2 byte.toNat)
  return (⟨id, String.join date ++ "_" ++ String.join time⟩,
    { time := "-".intercalate date ++ " " ++ ":".intercalate time })

def placeText (place : Location) : String := "/" ++ "/".intercalate place

/-- The files with an obstacle at a place. -/
def bar (files : FileSystem) (place : Location) (obstacle : Obstacle) : FileSystem :=
  { files with obstacles := (place, obstacle) :: files.obstacles }

/-- What is in the way where reading fails. -/
def obstacleOf : IO.Error → Obstacle
  | .permissionDenied .. => .unreadable
  | _ => .damaged

/-- The files with what stands at a place, and what stands below it, as many steps down as `depth`. What cannot
be read is there, behind an obstacle. -/
def load (depth : Nat) (files : FileSystem) (place : Location) : IO FileSystem := do
  match ← (IO.FS.realPath (placeText place)).toBaseIO with
  | .error (.permissionDenied ..) => return bar files place.dropLast .impassable
  | .error _ => return files
  | .ok path =>
    if ← path.isDir then
      let files := files.put place .directory
      match depth with
      | 0 => return files
      | depth + 1 =>
        match ← path.readDir.toBaseIO with
        | .error error => return bar files place (obstacleOf error)
        | .ok entries => entries.foldlM (fun files entry => load depth files (place ++ [entry.fileName])) files
    else
      match ← (IO.FS.readBinFile path).toBaseIO with
      | .error error => return bar (files.put place (.file [])) place (obstacleOf error)
      | .ok content => return files.put place (.file content.toList)

/-- The files with what stands on the way to a path, and below it. -/
def loadPath (depth : Nat) (files : FileSystem) (path : Path) : IO FileSystem := do
  let place := FileSystem.start path files.here ++ path.parts
  let files ← (List.range place.length).foldlM (fun files n => load 0 files (place.take n)) files
  load depth files place

/-- How far below a project's directories its data sets may be. -/
def dataDepth : Nat := 4

def namedPaths (words : List String) : List Path :=
  words.flatMap fun word => (word :: (word.splitOn "=").drop 1).map Path.ofText

/-- The picture of the machine that a run works on. -/
def picture (environment : Table String) (words : List String) : IO FileSystem := do
  let here := Path.ofText (← IO.currentDir).toString
  let files ← loadPath 0 { here := here.parts } Settings.assignmentsPath
  let named := namedPaths words
  let files ← named.foldlM (loadPath 1) files
  match (Command.readAssignments files).map (Settings.resolve [] environment) with
  | .ok (.ok settings) =>
    let files ← loadPath 1 files settings.logDirectory
    let data := named.flatMap fun path => [settings.structuresPath path, settings.setsPath path]
    data.foldlM (loadPath dataDepth) files
  | _ => return files

/-- Makes the machine's files those of the picture, where the run changed it. -/
def writeBack (before after : FileSystem) : IO Unit := do
  let changed := after.entries.filter fun (place, entry) => before.lookup? place != some entry
  for (place, entry) in changed.mergeSort fun a b => a.1.length ≤ b.1.length do
    let path := placeText place
    match entry with
    | .directory => IO.FS.createDirAll path
    | .file content => IO.FS.writeBinFile path ⟨content.toArray⟩
    | .link _ => pure ()
  for (place, entry) in changed do
    if let .link target := entry then
      try IO.FS.removeFile (placeText place) catch _ => pure ()
      try IO.FS.hardLink (placeText (place.dropLast ++ [target])) (placeText place) catch _ => pure ()

/-- Runs the program on the machine, and tells its exit code. -/
def run (words : List String) : IO UInt32 := do
  let environment ← readEnvironment
  let cells := ((environment.get? "COLUMNS").bind String.toNat?).getD 80
  let files ← picture environment words
  let (start, moment) ← now
  let (ending, workplace) := Command.run ⟨start, environment, cells⟩ words { files, moments := fun _ => moment }
  writeBack files workplace.files
  IO.print workplace.shown
  match ending with
  | .exit code => return code.toUInt32
  | .fault fault =>
    IO.eprintln (fault.kind ++ ": " ++ fault.message)
    return 1

end ViewModel.Machine

def main (words : List String) : IO UInt32 := ViewModel.Machine.run words
