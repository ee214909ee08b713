import ViewModel.Files.Path
import ViewModel.Settings.Assignments
import ViewModel.Validation

/-!
# Settings

A run's settings come from its arguments, the environment, the file of assignments beside it, and the
defaults; the first of these that gives a field a value wins. Values are validated field by field, and
all issues are told at once, in order of the fields. Arguments may also say how the environment and the
file are looked at.
-/

namespace ViewModel

open Files

structure Settings where
  indent : Nat
  verbose : Bool
  typesOnly : Bool
  dataDirectory : String
  structuresDirectory : String
  setsDirectory : String
  typesModule : String
  imageModule : String
  defaultFont : String
  contextName : String
  logLevel : String
  home : Path

namespace Settings

def logLevels : List String := ["DEBUG", "INFO", "WARNING", "ERROR"]

def assignmentsPath : Path := .ofText ".env"

/-- The home directory of the user. There is none if the environment names it by a user. -/
def userHome? (environment : Table String) : Option Path :=
  let text := (environment.get? "HOME").getD ""
  let trimmed := (text.toList.reverse.dropWhile (· == '/')).reverse
  if trimmed.head? == some '~' then none
  else some (Path.ofText (if trimmed == [] then "/" else String.ofList trimmed))

/-- The directory that logs are kept below, unless told otherwise. -/
def defaultHome? (environment : Table String) : Option Path :=
  (userHome? environment).map (·.child ".noesisgen")

/-! ## Sources -/

/-- How settings are looked for: what a variable of the environment that is a setting starts with, whether
the file of assignments counts, empty values count, and names have to agree in case, and the text that
stands for nothing, if there is one. -/
structure Search where
  start : String := "NOESISGEN_"
  readsFile : Bool := true
  takesEmpty : Bool := true
  caseMatters : Bool := false
  nothingText : Option String := none

/-- Whether the value names the file of assignments, alone or among others. -/
def namesFile : Tree → Bool
  | .text name => Path.ofText name == assignmentsPath
  | .list items => items.any fun
    | .text name => Path.ofText name == assignmentsPath
    | _ => false
  | _ => false

/-- The search that arguments with a low line before their names ask for. -/
def Search.ofArguments (arguments : List (String × Tree)) : Search :=
  let standard : Search := {}
  { start :=
      match arguments.lookup "_env_prefix" with
      | some (.text start) => start
      | _ => standard.start
    readsFile := ((arguments.lookup "_env_file").map namesFile).getD standard.readsFile
    takesEmpty :=
      match arguments.lookup "_env_ignore_empty" with
      | some (.flag ignored) => !ignored
      | _ => standard.takesEmpty
    caseMatters :=
      match arguments.lookup "_case_sensitive" with
      | some (.flag matters) => matters
      | _ => standard.caseMatters
    nothingText :=
      match arguments.lookup "_env_parse_none_str" with
      | some (.text text) => some text
      | _ => standard.nothingText }

/-- A name as it is compared with others. -/
def Search.key (search : Search) (name : String) : String :=
  if search.caseMatters then name else String.ofList (name.toList.map Char.toLower)

/-- Values by the names that they are compared under; of names that are the same there, the last counts. -/
def Search.table (search : Search) (values : List (String × α)) : Table α :=
  Table.ofList (values.map fun (name, value) => (search.key name, value))

structure Given where
  search : Search
  arguments : List (String × Tree)
  environment : Table String
  assignments : Table (Option String)

/-- What arguments, the environment and the text of a file of assignments give. -/
def Given.ofSources (arguments : List (String × Tree)) (environment : Table String)
    (assignments : Option String) : Given :=
  let search := Search.ofArguments arguments
  let assigned :=
    match assignments.filter fun _ => search.readsFile with
    | some text => Assignments.parse environment text
    | none => .empty
  { search, arguments
    environment := search.table (environment.entries.filter fun (_, value) =>
      search.takesEmpty || value != "")
    assignments := search.table (assigned.entries.filter fun (_, value) =>
      search.takesEmpty || value != some "") }

/-- The value of a variable or an assignment. -/
def Search.valueOf (search : Search) (text : String) : Tree :=
  if search.nothingText = some text then .nothing else .text text

/-- What is given for a field, from the source that counts most. Of arguments, one of just that name comes
before those that are compared equal. A name that is assigned nothing is as good as none. -/
def Given.value? (given : Given) (field : String) : Option Tree :=
  let outer := given.search.key (given.search.start ++ field)
  let alike := given.arguments.find? fun (name, _) => given.search.key name == field
  ((given.arguments.lookup field).orElse fun _ => alike.map (·.2)).orElse fun _ =>
    ((given.environment.get? outer).orElse fun _ => (given.assignments.get? outer).join).map
      given.search.valueOf

/-! ## Fields -/

/-- The value as a number of spaces. -/
def count (tree : Tree) : Except Validation.Cause Nat := do
  let n ← Validation.integer tree
  if n < 0 then .error .tooSmall else .ok n.toNat

def level : Tree → Except Validation.Cause String
  | .text value => if logLevels.contains value then .ok value else .error .choiceUnknown
  | _ => .error .choiceUnknown

def path : Tree → Except Validation.Cause Path
  | .text value => .ok (Path.ofText value)
  | _ => .error .pathWanted

/-- Why a run has no settings: values are rejected, or nothing is given for the directory of logs and the
user has no home. -/
inductive Error
  | rejected (issues : List Validation.Issue)
  | homeless
  deriving DecidableEq, Repr

def Error.kind : Error → String
  | rejected _ => "ValidationError"
  | homeless => "RuntimeError"

def Error.message : Error → String
  | rejected issues => "rejected: " ++ ", ".intercalate (issues.map fun issue => ".".intercalate issue.path)
  | homeless => "Could not determine home directory."

def resolve (arguments : List (String × Tree)) (environment : Table String)
    (assignments : Option String) : Except Error Settings := do
  let given := Given.ofSources arguments environment assignments
  let field {α : Type} (name : String) (default : α) (read : Tree → Except Validation.Cause α) :
      Except (List Validation.Issue) α :=
    match given.value? name with
    | none => .ok default
    | some value => (read value).mapError fun cause => [⟨[name], cause⟩]
  let text (name default : String) : Except (List Validation.Issue) String :=
    field name default Validation.text
  let home : Except (List Validation.Issue) Path ←
    match given.value? "home_dir", defaultHome? environment with
    | some value, _ => .ok ((path value).mapError fun cause => [⟨["home_dir"], cause⟩])
    | none, some home => .ok (.ok home)
    | none, none => .error .homeless
  (field "indent_level" 2 count).map Settings.mk
    |> Validation.next (field "verbose" false Validation.truth)
    |> Validation.next (field "types_only" false Validation.truth)
    |> Validation.next (text "data_subdir" ".noesis/data")
    |> Validation.next (text "structures_dirname" "structures")
    |> Validation.next (text "sets_dirname" "sets")
    |> Validation.next (text "types_module" "NoesisTypes")
    |> Validation.next (text "image_module" "horizon/ui")
    |> Validation.next (text "default_font" "Bangers")
    |> Validation.next (text "data_context_name" "dataContext")
    |> Validation.next (field "log_level" "INFO" level)
    |> Validation.next home
    |> Except.mapError .rejected

def logDirectory (settings : Settings) : Path := settings.home.child "logs"

def dataPath (settings : Settings) (project : Path) : Path := project.join settings.dataDirectory

def structuresPath (settings : Settings) (project : Path) : Path :=
  (settings.dataPath project).join settings.structuresDirectory

def setsPath (settings : Settings) (project : Path) : Path :=
  (settings.dataPath project).join settings.setsDirectory

end Settings

end ViewModel
