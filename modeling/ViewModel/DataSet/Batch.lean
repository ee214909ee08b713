import ViewModel.DataSet.File

/-!
# Batches of data sets

All data sets of a directory are converted one after the other, in order of their names. One that fails
is logged and counted, and the others are converted all the same.

* `failed_add_succeeded`: every outcome counts as a success or as a failure.
-/

namespace ViewModel.DataSet

open Schema Files Literal

inductive SelectError
  | notFound (path : Path)
  | unreadable (error : Files.Error)
  deriving DecidableEq, Repr

def SelectError.kind : SelectError → String
  | notFound _ => Cause.missing.kind
  | unreadable error => error.cause.kind

def SelectError.message : SelectError → String
  | notFound path => "Data set not found: " ++ path.text
  | unreadable error => error.message

/-- The data sets to convert: the one of that name, or else all of a directory. -/
def select (files : FileSystem) (directory : Path) (name : Option String) :
    Except SelectError (List Path) :=
  match name.filter (· != "") with
  | some name =>
    let single := directory.join (name ++ suffix)
    match files.isFile single with
    | .ok true => .ok [single]
    | .ok false => .error (.notFound single)
    | .error error => .error (.unreadable error)
  | none => (files.listFiles directory suffix).mapError .unreadable

/-- What came of one data set: the path of its module, or what went wrong. -/
structure Outcome where
  file : String
  result : Except Error Path

def Outcome.succeeded (outcome : Outcome) : Bool := outcome.result.isOk

def Error.report (error : Error) : String := error.kind ++ ": " ++ error.message

def convertOne (registry : Registry) (options : DataModule) (directory path : Path) :
    FileStep Outcome := do
  let result ← (convert registry options directory path).run
  if let .error error := result then
    Logged.record .error logger
      ("Failed to generate data set " ++ path.name ++ ": " ++ error.report)
  return ⟨path.name, result⟩

structure Summary where
  total : Nat
  succeeded : Nat
  failed : Nat
  errors : List (String × String)
  written : List String
  deriving DecidableEq, Repr

def Summary.ofOutcomes (outcomes : List Outcome) : Summary :=
  { total := outcomes.length
    succeeded := outcomes.countP Outcome.succeeded
    failed := outcomes.countP fun outcome => !outcome.succeeded
    errors := outcomes.filterMap fun outcome =>
      match outcome.result with
      | .ok _ => none
      | .error error => some (outcome.file, error.report)
    written := outcomes.filterMap fun outcome =>
      match outcome.result with
      | .ok path => some path.text
      | .error _ => none }

theorem Summary.failed_add_succeeded (outcomes : List Outcome) :
    (ofOutcomes outcomes).failed + (ofOutcomes outcomes).succeeded = (ofOutcomes outcomes).total := by
  have split := List.length_eq_countP_add_countP Outcome.succeeded (l := outcomes)
  simp only [Bool.not_eq_true, Bool.decide_eq_false] at split
  simp only [ofOutcomes]
  omega

def begin (directory outputDirectory : Path) (name : Option String) :
    FileAction SelectError (List Path) := do
  FileAction.record .info logger ("Writing Data Sets to " ++ outputDirectory.text)
  FileAction.reading fun files => Attempt.ofExcept (select files directory name)

/-- Converts data sets one after the other. As soon as one is done, a listener is told its name and whether
it has a module. -/
def convertEach [Monad m] [MonadLiftT FileStep m] (registry : Registry) (options : DataModule)
    (outputDirectory : Path) (tell : String → Bool → m Unit) (paths : List Path) : m (List Outcome) :=
  paths.mapM fun path => do
    let outcome ← liftM (convertOne registry options outputDirectory path)
    tell outcome.file outcome.succeeded
    return outcome

def convertFor [Monad m] [MonadLiftT FileStep m] (registry : Registry) (options : DataModule)
    (directory outputDirectory : Path) (name : Option String) (tell : String → Bool → m Unit) :
    ExceptT SelectError m (List Outcome) := do
  let paths ← ExceptT.mk (liftM (begin directory outputDirectory name).run)
  ExceptT.lift (convertEach registry options outputDirectory tell paths)

def convertAll (registry : Registry) (options : DataModule) (directory outputDirectory : Path)
    (name : Option String) : FileAction SelectError (List Outcome) :=
  convertFor registry options directory outputDirectory name fun _ _ => pure ()

end ViewModel.DataSet
