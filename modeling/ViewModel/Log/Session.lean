import ViewModel.Files.FileSystem
import ViewModel.Log
import ViewModel.Settings.Basic
import ViewModel.Text.Upper
import ViewModel.Text.Utf8

/-!
# Logging sessions

A session keeps its records in a file of its own, under a name that holds its time and its identifier,
and shows them on the terminal if asked to. At most one session is on: setting up another closes it
first. A setup that fails on the way leaves what it had done by then.

* `files_tick`, `logging_tick`: the passing of a moment changes no file and no handler;
* `handlers_close`, `filters_close`: a closed session handles no record.
-/

namespace ViewModel.Log

open Files

/-- What a session starts with: its identifier, and its time as file names have it. -/
structure Start where
  id : String
  stamp : String
  deriving DecidableEq, Repr

/-- When a record is made, and by which line of its source. -/
structure Moment where
  time : String := ""
  line : Nat := 0
  deriving DecidableEq, Repr

/-- Where records go: to the end of the file at a place, or to the terminal. -/
inductive Sink
  | file (place : Location)
  | terminal
  deriving DecidableEq, Repr

/-- A sink, and the rank from which on records go there. -/
structure Handler where
  sink : Sink
  threshold : Nat
  deriving DecidableEq, Repr

structure Logging where
  handlers : List Handler := []
  filters : List String := []
  threshold : Nat := 0
  propagates : Bool := true
  file : Option Path := none
  session : Option Start := none
  deriving DecidableEq, Repr

/-- Where a run happens: its files, its logging, what it has shown so far, and the moments at which its next
records are made. -/
structure Workplace where
  files : FileSystem
  logging : Logging := {}
  shown : String := ""
  moments : Nat → Moment := fun _ => {}

/-- A step of a run. What it changed until an error stays. -/
abbrev WorkAction (ε α : Type) := ExceptT ε (StateM Workplace) α

/-- The rank from which on records count where no threshold is set. -/
def defaultThreshold : Nat := Level.warning.rank

def Logging.counts (logging : Logging) (level : Level) : Bool :=
  (if logging.threshold = 0 then defaultThreshold else logging.threshold) ≤ level.rank

/-- What stands for the identifier of a session where there is none. -/
def noSession : String := "N/A"

/-- The identifier that a record is marked with. The filters see only what the package's own logger
records, and the last of them marks it; records of the loggers below are marked when they are written. -/
def Logging.mark (logging : Logging) (record : Record) : String :=
  match if record.logger = packageLogger then logging.filters.getLast? else none with
  | some id => id
  | none => (logging.session.map Start.id).getD noSession

/-- How a sink tells where a record comes from: its logger, and in a file also the line. -/
def Sink.origin (sink : Sink) (moment : Moment) (record : Record) : String :=
  match sink with
  | .file _ => record.logger ++ ":" ++ toString moment.line
  | .terminal => record.logger

def Logging.line (logging : Logging) (sink : Sink) (moment : Moment) (record : Record) : String :=
  " | ".intercalate [moment.time, column record.level.name, logging.mark record, sink.origin moment record,
    record.message]

/-- The workplace after a handler got a record. -/
def Handler.emit (workplace : Workplace) (moment : Moment) (record : Record) (handler : Handler) : Workplace :=
  if handler.threshold ≤ record.level.rank then
    let line := workplace.logging.line handler.sink moment record ++ "\n"
    match handler.sink with
    | .file place => { workplace with files := workplace.files.append place (Text.Utf8.encode line) }
    | .terminal => { workplace with shown := workplace.shown ++ line }
  else workplace

/-- The workplace when the next moment has passed. -/
def Workplace.tick (workplace : Workplace) : Workplace :=
  { workplace with moments := fun n => workplace.moments (n + 1) }

@[simp] theorem files_tick (workplace : Workplace) : workplace.tick.files = workplace.files := rfl

@[simp] theorem logging_tick (workplace : Workplace) : workplace.tick.logging = workplace.logging := rfl

def Workplace.log (workplace : Workplace) (record : Record) : Workplace :=
  if workplace.logging.counts record.level then
    workplace.logging.handlers.foldl
      (fun later handler => handler.emit later (workplace.moments 0) record) workplace.tick
  else workplace.tick

def Workplace.logAll (workplace : Workplace) (records : List Record) : Workplace :=
  records.foldl Workplace.log workplace

/-! ## Sessions -/

def Logging.close (logging : Logging) : Logging := { logging with handlers := [], filters := [] }

@[simp] theorem handlers_close (logging : Logging) : logging.close.handlers = [] := rfl

@[simp] theorem filters_close (logging : Logging) : logging.close.filters = [] := rfl

def Logging.shutdown (logging : Logging) : Logging :=
  { logging.close with threshold := 0, propagates := true, file := none, session := none }

inductive SetupError
  | files (error : Files.Error)
  | levelUnknown
  | levelUnfit
  | homeless
  deriving DecidableEq, Repr

def SetupError.kind : SetupError → String
  | files error => error.cause.kind
  | levelUnknown => "ValueError"
  | levelUnfit => "TypeError"
  | homeless => "RuntimeError"

def thresholds : List (String × Nat) :=
  [("CRITICAL", 50), ("FATAL", 50), ("ERROR", 40), ("WARNING", 30), ("WARN", 30), ("INFO", 20),
   ("DEBUG", 10), ("NOTSET", 0)]

/-- The threshold that a word names. A word that names none is as good as none given, but the names of
the format and of the format styles are refused. -/
def threshold (word : String) : Except SetupError Nat :=
  if word == "BASIC_FORMAT" then .error .levelUnknown
  else if word == "_STYLES" then .error .levelUnfit
  else .ok ((thresholds.lookup word).getD Level.info.rank)

def levelWord (environment : Table String) (level : Option String) : String :=
  Text.upper ((level.filter (· != "")).getD ((environment.get? "NOESISGEN_LOG_LEVEL").getD "INFO"))

/-- Where the environment wants logs to be kept, or else below the user's home. -/
def directory (environment : Table String) : Except SetupError Path :=
  match (environment.get? "NOESISGEN_LOG_DIR").filter (· != "") with
  | some text => .ok (Path.ofText text)
  | none =>
    match Settings.defaultHome? environment with
    | some home => .ok (home.child "logs")
    | none => .error .homeless

def fileName (start : Start) : String := "noesisgen_" ++ start.stamp ++ "_" ++ start.id ++ ".log"

/-- The name that always leads to the latest session's file. -/
def latestName : String := "noesisgen.log"

/-- The files with a link to the latest session's file, if it can be made. -/
def pointLatest (files : FileSystem) (directory : Path) (target : String) : FileSystem :=
  let link := directory.child latestName
  let make (files : FileSystem) : FileSystem :=
    match files.create link (.link target) with
    | .ok made => made
    | .error _ => files
  match files.remove link with
  | .ok cleared => make cleared
  | .error error => if error.cause = .missing then make files else files

/-- The place of a file that is open for more content. It is where the absolute path leads, in which double
dots are taken back as they are spelled. -/
def openFile (files : FileSystem) (path : Path) : Except Files.Error (Location × FileSystem) :=
  let path := path.absolute files.here
  match files.locate path with
  | .error cause => .error ⟨cause, path⟩
  | .ok place =>
    match files.lookup? place with
    | some .directory => .error ⟨.isDirectory, path⟩
    | held =>
      if files.permitsWriting place then
        .ok (place, if held.isSome then files else files.put place (.file []))
      else .error ⟨.denied, path⟩

def changeFiles {α : Type} (change : FileSystem → Except Files.Error α × FileSystem) :
    WorkAction SetupError α := fun workplace =>
  let (result, files) := change workplace.files
  (result.mapError .files, { workplace with files })

def changeLogging (change : Logging → Logging) : WorkAction SetupError Unit :=
  modify fun workplace => { workplace with logging := change workplace.logging }

/-- Sets up a session: its level and its directory are given, or else taken from the environment. -/
def setup (start : Start) (environment : Table String) (level : Option String)
    (directory : Option Path) (onTerminal : Bool) : WorkAction SetupError Path := do
  changeLogging Logging.close
  let word := levelWord environment level
  let directory ←
    match directory with
    | some directory => pure directory
    | none => ExceptT.mk (pure (Log.directory environment))
  changeFiles fun files => files.makeDirectories directory
  let path := directory.child (fileName start)
  changeLogging fun logging => { logging with file := some path, session := some start }
  let threshold ← threshold word
  changeLogging fun logging => { logging with threshold, filters := logging.filters ++ [start.id] }
  let place ← changeFiles fun files =>
    match openFile files path with
    | .ok (place, opened) => (.ok place, opened)
    | .error error => (.error error, files)
  let sinks := .file place :: if onTerminal then [.terminal] else []
  changeLogging fun logging =>
    { logging with
      handlers := logging.handlers ++ sinks.map (⟨·, threshold⟩), propagates := false }
  modify fun workplace =>
    { workplace with files := pointLatest workplace.files directory path.name }
  modify fun workplace => workplace.logAll
    [⟨.info, packageLogger, "noesisgen session " ++ start.id ++ " started (level " ++ word ++ ")"⟩,
     ⟨.info, packageLogger, "  Log file: " ++ path.text⟩]
  return path

end ViewModel.Log
