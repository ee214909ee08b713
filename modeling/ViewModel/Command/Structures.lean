import ViewModel.Command.Generate

/-!
# Listing structures

The structures of a project in a table: the kind of each, its name, and how many members it has.
-/

namespace ViewModel.Command

open Files Schema

def structuresForm : Form :=
  { title := "cli structures"
    about := ["List the structures loaded from PROJECT_PATH."]
    flags := [logFlag, helpFlag]
    arguments := [projectArgument] }

def memberCount : Structure → String
  | .classType _ properties => toString properties.entries.length
  | .enumType _ items => toString items.entries.length
  | .builtIn _ => "-"

def structureGrid (registry : Registry) : Terminal.Grid :=
  { title := toString registry.size ++ " structures"
    columns :=
      [{ header := "Kind" }, { header := "Name", breaks := false },
        { header := "Members", justify := .right }]
    rows := registry.structures.map fun entry => [entry.kindName, entry.name, memberCount entry] }

def structures (surroundings : Surroundings) (given : Given) : Action Unit := do
  let settings ← readSettings surroundings
  let _ ← openSession surroundings settings (given.value? "--log-dir") false
  let registry ← loadProject settings (Path.ofText (given.words.getD 0 ""))
  let lines ← orFault .markup ((structureGrid registry).lines surroundings.cells)
  tellAll (lines.map String.ofList)

end ViewModel.Command
