import ViewModel.Command.Page
import ViewModel.DataSet.Report
import ViewModel.TypesModule.File

/-!
# Generating modules

The types module of a project is written first, and then the module of every data set. A data set that
fails is told and makes the run fail, but does not keep the others from being generated.
-/

namespace ViewModel.Command

open Files Schema

def logFlag : Flag :=
  { names := ["--log-dir"]
    value := some (.directory false)
    purpose := "Directory for session log files." }

def projectArgument : Argument := { name := "PROJECT_PATH", value := .directory true }

def generateForm : Form :=
  { title := "cli generate"
    about :=
      ["Generate TypeScript files from a Noesis project.",
        "PROJECT_PATH is the project root (containing .noesis/data). SET_NAME restricts generation to " ++
          "one data set; all sets are generated if omitted."]
    flags :=
      [{ names := ["-v", "--verbose"], purpose := "Enable verbose logging." },
        { names := ["-t", "--types-only"], purpose := "Only generate TypeScript type definitions." },
        { names := ["-i", "--indent-level"]
          value := some .count
          purpose := "Number of spaces for indentation (default 2)." },
        logFlag, helpFlag]
    arguments :=
      [projectArgument, { name := "OUTPUT_DIR", value := .directory false },
        { name := "SET_NAME", value := .text, required := false }] }

def readAssignments (files : FileSystem) : Except AssignmentsError (Option String) := do
  if ← (files.isFile Settings.assignmentsPath).mapError .access then
    let bytes ← (files.read Settings.assignmentsPath).mapError .access
    (Text.Utf8.decode bytes).mapError AssignmentsError.encoding |>.map some
  else return none

def readSettings (surroundings : Surroundings) : Action Settings := do
  let assignments ← orFault .assignments (readAssignments (← get).files)
  orFault .settings (Settings.resolve [] surroundings.environment assignments)

/-- Sets up the session of the run, and tells where its records are kept. -/
def openSession (surroundings : Surroundings) (settings : Settings) (directory : Option String)
    (onTerminal : Bool) : Action Path :=
  let directory := (directory.map Path.ofText).getD settings.logDirectory
  (Log.setup surroundings.start surroundings.environment (some settings.logLevel) (some directory)
    onTerminal).adapt fun error => .fault (.session error)

def loadProject (settings : Settings) (project : Path) : Action Registry := do
  match ← reading (loadDirectory · (settings.structuresPath project)) with
  | .ok registry => return registry
  | .error error@(.notFound _) | .error error@(.unreadable ..) => fail error.message
  | .error error => orFault .schema (.error error)

def dataModuleOf (settings : Settings) (indent : Nat) : Literal.DataModule :=
  { indent
    typesModule := settings.typesModule
    contextName := settings.contextName
    defaultFont := settings.defaultFont }

/-- The data sets to convert. -/
def beginSets (directory outputDirectory : Path) (name : Option String) : Action (List Path) := do
  match ← acting (DataSet.begin directory outputDirectory name).run with
  | .ok paths => return paths
  | .error error =>
    if error.kind = Cause.missing.kind then fail error.message
    else orFault .dataSets (.error error)

def logger : String := loggerName "noesisgen.cli"

/-- Tells what came of all data sets, and ends the run with an error if one of them failed. -/
def conclude (cells : Nat) (summary : DataSet.Summary) : Action Unit := do
  log (DataSet.report logger summary.toTree).records
  tell ""
  print cells (info (toString summary.succeeded ++ "/" ++ toString summary.total ++ " data sets generated"))
  for (file, error) in summary.errors do
    print cells (amiss (Terminal.Markup.escape (file ++ ": " ++ error)))
  if summary.failed ≠ 0 then throw (.exit 1)

/-- What a run generates, from what, and where. -/
structure Job where
  settings : Settings
  project : Path
  outputDirectory : Path
  setName : Option String
  typesOnly : Bool
  indent : Nat
  registry : Registry

/-- Reads the settings, sets up the session and loads the structures of a project. -/
def prepare (surroundings : Surroundings) (given : Given) : Action Job := do
  let cells := surroundings.cells
  let project := Path.ofText (given.words.getD 0 "")
  let outputDirectory := Path.ofText (given.words.getD 1 "")
  let settings ← readSettings surroundings
  let verbose := given.has "--verbose" || settings.verbose
  let typesOnly := given.has "--types-only" || settings.typesOnly
  let count := (given.value? "--indent-level").bind integerOf?
  let indent := (count.map Int.toNat).getD settings.indent
  let logFile ← openSession surroundings settings (given.value? "--log-dir") verbose
  tellAll banner
  if verbose then
    print cells (info ("Verbose logging enabled · log file " ++ logFile.text))
  tellAll (heading "01" "STRUCTURES")
  let registry ← loadProject settings project
  print cells (done ("Loaded " ++ toString registry.size ++ " structures"))
  return { settings, project, outputDirectory, setName := given.words[2]?, typesOnly, indent, registry }

namespace Job

variable (job : Job) (cells : Nat)

def typesOptions : TypesModule.Options := { indent := job.indent, imageModule := job.settings.imageModule }

def writeTypes : Action Path := do
  let written ← acting (TypesModule.writeFile job.registry job.outputDirectory job.settings.typesModule
    job.typesOptions).run
  let typesPath ← orFault .typesModule written
  print cells (done ("Wrote " ++ typesPath.text))
  return typesPath

/-- Writes the module of every data set, and tells what comes of each. -/
def convertSets : Action (List DataSet.Outcome) := do
  tellAll (heading "02" "DATA SETS")
  let paths ← beginSets (job.settings.setsPath job.project) job.outputDirectory job.setName
  letI : MonadLiftT FileStep Action := ⟨acting⟩
  DataSet.convertEach job.registry (dataModuleOf job.settings job.indent) job.outputDirectory
    (fun file succeeded => print cells (if succeeded then done file else failed file)) paths

end Job

def generate (surroundings : Surroundings) (given : Given) : Action Unit := do
  let cells := surroundings.cells
  let job ← prepare surroundings given
  let _ ← job.writeTypes cells
  unless job.typesOnly do
    let outcomes ← job.convertSets cells
    conclude cells (.ofOutcomes outcomes)

end ViewModel.Command
