import ViewModel.Terminal.Wrap

/-!
# Forms of commands

A command has a form: its flags, which may take a value, and its arguments. The help on a command follows
from its form.
-/

namespace ViewModel.Command

inductive ValueKind
  | text
  | count
  | directory (present : Bool)
  deriving DecidableEq, Repr

def ValueKind.word : ValueKind → String
  | text => "TEXT"
  | count => "INTEGER RANGE"
  | directory _ => "DIRECTORY"

/-- What the help says about the value after all else. -/
def ValueKind.note : ValueKind → String
  | count => "  [x>=0]"
  | _ => ""

/-- A flag: its names, the value that it takes, and what it is for. -/
structure Flag where
  names : List String
  value : Option ValueKind := none
  purpose : String
  deriving DecidableEq, Repr

/-- An argument: its name, what may be given for it, and whether it has to be given. -/
structure Argument where
  name : String
  value : ValueKind
  required : Bool := true
  deriving DecidableEq, Repr

/-- The form of a command. The first paragraph about it is its summary. A command with commands of its own
takes the name of one of them, and all that follows. -/
structure Form where
  title : String
  about : List String
  flags : List Flag
  arguments : List Argument := []
  commands : List (String × String) := []
  deriving DecidableEq, Repr

def helpFlag : Flag := { names := ["--help"], purpose := "Show this message and exit." }

def helpWidth : Nat := 80

def namesLimit : Nat := 30

/-- What stands for the words that a command takes besides flags. -/
def Form.usageWords (form : Form) : List String :=
  form.arguments.map (fun argument =>
      if argument.required then argument.name else "[" ++ argument.name ++ "]")
    ++ if form.commands.isEmpty then [] else ["[COMMAND]", "[ARGS]..."]

def Form.usage (form : Form) : String :=
  " ".intercalate ("Usage:" :: form.title :: "[OPTIONS]" :: form.usageWords)

def wrapped (cells : Nat) (text : String) : List String :=
  (Terminal.wrap cells .fold .natural true text.toList).map String.ofList

def spaces (count : Nat) : String := String.ofList (List.replicate count ' ')

/-- The lines of names with what they stand for, in two columns. A name that is too long for its column has
a line of its own. -/
def definitions (rows : List (String × String)) : List String :=
  let column := min namesLimit ((rows.map (·.1.length)).foldl max 0) + 2
  rows.flatMap fun (name, purpose) =>
    let lines := wrapped (helpWidth - column - 2) purpose
    let beside (line : String) : String := spaces (column + 2) ++ line
    if name.length + 2 ≤ column then
      ("  " ++ name ++ spaces (column - name.length) ++ lines.headD "") :: lines.tail.map beside
    else ("  " ++ name) :: lines.map beside

def Flag.row (flag : Flag) : String × String :=
  let names := ", ".intercalate flag.names
  match flag.value with
  | none => (names, flag.purpose)
  | some value => (names ++ " " ++ value.word, flag.purpose ++ value.note)

def Form.help (form : Form) : List String :=
  let paragraphs := form.about.flatMap fun text =>
    "" :: (wrapped (helpWidth - 2) text).map ("  " ++ ·)
  let commands :=
    if form.commands.isEmpty then [] else ["", "Commands:"] ++ definitions form.commands
  form.usage :: paragraphs ++ ["", "Options:"] ++ definitions (form.flags.map Flag.row) ++ commands

end ViewModel.Command
