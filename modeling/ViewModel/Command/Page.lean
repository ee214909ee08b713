import ViewModel.Command.Line
import ViewModel.DataSet.Batch
import ViewModel.Log.Session
import ViewModel.Schema.Directory
import ViewModel.Terminal.Grid

/-!
# Pages

What a run shows: a banner, sections under numbered headings, and a line for every step that is done,
worth knowing, amiss or failed. A run may end before its work is done, either with an exit code or by a
fault that it does not answer for.
-/

namespace ViewModel.Command

open Files

/-- Why the assignments of a run could not be read. -/
inductive AssignmentsError
  | access (error : Files.Error)
  | encoding (fault : Text.Utf8.Fault)
  deriving DecidableEq, Repr

def AssignmentsError.kind : AssignmentsError → String
  | access error => error.cause.kind
  | encoding _ => "UnicodeDecodeError"

def AssignmentsError.message : AssignmentsError → String
  | access error => error.message
  | encoding fault => fault.message

inductive Fault
  | path (error : Files.Error)
  | settings (error : Settings.Error)
  | assignments (error : AssignmentsError)
  | session (error : Log.SetupError)
  | schema (error : Schema.DirectoryError)
  | typesModule (error : Files.Error)
  | dataSets (error : DataSet.SelectError)
  | markup (fault : Terminal.Markup.Fault)

def Fault.kind : Fault → String
  | path error => error.cause.kind
  | settings error => error.kind
  | assignments error => error.kind
  | session error => error.kind
  | schema error => error.kind
  | typesModule error => error.cause.kind
  | dataSets error => error.kind
  | markup fault => fault.kind

def Fault.message : Fault → String
  | path error => error.message
  | settings error => error.message
  | assignments error => error.message
  | session (.files error) => error.message
  | session _ => "no level"
  | schema error => error.message
  | typesModule error => error.message
  | dataSets error => error.message
  | markup fault => fault.message

inductive Ending
  | exit (code : Nat)
  | fault (fault : Fault)

abbrev Action := Log.WorkAction Ending

/-- What a run finds around it: the start of its session, the environment, and how many cells a line of the
terminal has. -/
structure Surroundings where
  start : Log.Start
  environment : Table String
  cells : Nat

def orFault (ofError : ε → Fault) (result : Except ε α) : Action α :=
  ExceptT.mk (pure (result.mapError fun error => .fault (ofError error)))

def tellAll (lines : List String) : Action Unit :=
  modify fun workplace =>
    { workplace with shown := lines.foldl (fun shown line => shown ++ line ++ "\n") workplace.shown }

def tell (line : String) : Action Unit := tellAll [line]

/-- Shows a line with markup, broken where the terminal ends. -/
def print (cells : Nat) (line : String) : Action Unit := do
  let text ← orFault .markup (Terminal.Markup.plain line)
  tellAll ((Terminal.wrap cells .fold .natural true text.toList).map String.ofList)

def fail (message : String) : Action α := do
  tell ("Error: " ++ message)
  throw (.exit 1)

def refuse (form : Form) (error : LineError) : Action α := do
  if error.recallsUsage then
    tellAll [form.usage, "Try '" ++ form.title ++ " --help' for help.", ""]
  tell ("Error: " ++ error.message)
  throw (.exit 2)

/-! ## Files and records -/

def log (records : List Record) : Action Unit := modify fun workplace => workplace.logAll records

/-- Reads the files of the workplace, and logs what was recorded on the way. -/
def reading (look : FileSystem → Attempt ε α) : Action (Except ε α) := do
  let attempt := (look (← get).files).run
  log attempt.records
  return attempt.value

/-- Acts on the files of the workplace, and logs what was recorded on the way. -/
def acting (step : FileStep α) : Action α := do
  let ran := step.run (← get).files
  modify fun workplace => { workplace with files := ran.value.2 }
  log ran.records
  return ran.value.1

/-! ## Marks -/

def brand : String := "N O E S I S G E N"

def tagline : String := "Noesis structures & data sets to TypeScript"

def version : String := "0.1.0"

def versionLine : String := brand ++ "  v" ++ version

def banner : List String := ["", "  " ++ brand, "  " ++ tagline ++ "  v" ++ version, ""]

def heading (number title : String) : List String :=
  ["", "  " ++ number ++ " · " ++ title,
    "  " ++ String.ofList (List.replicate tagline.length '─')]

/-- A line in markup that tells of something worth knowing. -/
def info (message : String) : String := "  [teal]›[/teal] [dim]" ++ message ++ "[/dim]"

def done (message : String) : String := "  [green]✓[/green] " ++ message

/-- A line in markup that tells of something failed. -/
def failed (message : String) : String := "  [red]✗[/red] " ++ message

/-- A line in markup that tells of something amiss. -/
def amiss (message : String) : String := "  [bold]![/bold] [yellow]" ++ message ++ "[/yellow]"

end ViewModel.Command
