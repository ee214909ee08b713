import ViewModel.Command.Structures

/-!
# The program

The first word that is no flag names a command, and what follows is for that command. Asking for help or
for the version ends a run, whatever else its command line holds.
-/

namespace ViewModel.Command

open Files

def programForm : Form :=
  { title := "cli"
    about := ["noesisgen -- generate TypeScript from Noesis project data."]
    flags := [{ names := ["--version"], purpose := "Show version and exit." }, helpFlag]
    commands :=
      [("generate", generateForm.about.headD ""), ("structures", structuresForm.about.headD "")] }

/-- Answers the first of the flags that ask for help or for the version. -/
def answerQuestions (form : Form) (given : Given) : Action Unit := do
  for (flag, _) in given.flags do
    if flag.names.contains "--help" then
      tellAll form.help
      throw (.exit 0)
    if flag.names.contains "--version" then
      tell versionLine
      throw (.exit 0)

def readFor (form : Form) (words : List String) : Action Given := do
  match form.read words with
  | .error error => refuse form error
  | .ok given =>
    answerQuestions form given
    return given

/-- Runs a command on its words. A path that cannot be looked up at all is not told as a wrong word. -/
def runCommand (form : Form) (command : Given → Action Unit) (words : List String) : Action Unit := do
  let given ← readFor form words
  match form.check (← get).files given with
  | .error (.refused _ (.noPath error)) => orFault .path (.error error)
  | .error error => refuse form error
  | .ok () => command given

/-- Runs the program on its words. A name that stands for no command may still be a flag, if it came
after the mark that ends flags. -/
def program (surroundings : Surroundings) (words : List String) : Action Unit := do
  match (← readFor programForm words).words with
  | [] => tellAll programForm.help
  | "generate" :: rest => runCommand generateForm (generate surroundings) rest
  | "structures" :: rest => runCommand structuresForm (structures surroundings) rest
  | name :: rest => do
    let _ ← readFor programForm (name :: rest)
    refuse programForm (.unknownCommand name (Text.similar name (programForm.commands.map (·.1))))

def run (surroundings : Surroundings) (words : List String) (workplace : Log.Workplace) :
    Ending × Log.Workplace :=
  match (program surroundings words).run.run workplace with
  | (.ok (), workplace) => (.exit 0, workplace)
  | (.error ending, workplace) => (ending, workplace)

end ViewModel.Command
