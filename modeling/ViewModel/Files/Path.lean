/-!
# Paths

A path names a file by the directories on the way to it. Empty steps and single dots say nothing and
are left out; double dots are kept. A path that starts with a slash starts at the root, and one that
starts with exactly two keeps both.

* `parts_of_name`: the path of a plain name is that one name;
* `collapse_of_plain`: without double dots nothing is taken back.
-/

namespace ViewModel.Files

/-- A path: the slashes it starts with, and its steps. -/
structure Path where
  root : String := ""
  parts : List String
  deriving DecidableEq, Repr

namespace Path

def stretches : List Char → List (List Char)
  | [] => [[]]
  | c :: rest =>
    if c = '/' then [] :: stretches rest
    else
      match stretches rest with
      | [] => [[c]]
      | first :: others => (c :: first) :: others

/-- The slashes that a text keeps at its start. -/
def rootOf (chars : List Char) : String :=
  match (chars.takeWhile (· == '/')).length with
  | 0 => ""
  | 2 => "//"
  | _ => "/"

/-- Whether a stretch between slashes says where to go. -/
def isStep (stretch : List Char) : Bool := stretch != [] && stretch != ['.']

def ofText (text : String) : Path :=
  ⟨rootOf text.toList, ((stretches text.toList).filter isStep).map String.ofList⟩

/-- The shortest text that spells the path. -/
def text (path : Path) : String :=
  if path.root == "" && path.parts == [] then "." else path.root ++ "/".intercalate path.parts

/-- Where a text leads from a path: a text that starts at the root leads there. -/
def join (path : Path) (text : String) : Path :=
  let next := ofText text
  if next.root == "" then { path with parts := path.parts ++ next.parts } else next

def child (path : Path) (name : String) : Path := { path with parts := path.parts ++ [name] }

/-- Some steps, where a double dot takes back the step before it as it is spelled, whatever that leads to.
Nothing is above the root. -/
def collapse (steps : List String) : List String :=
  steps.foldl (fun kept step => if step = ".." then kept.dropLast else kept ++ [step]) []

/-- The path from the root that a path spells at a place. -/
def absolute (path : Path) (here : List String) : Path :=
  if path.root == "" then ⟨"/", collapse (here ++ path.parts)⟩
  else { path with parts := collapse path.parts }

/-- The last step. -/
def name (path : Path) : String := path.parts.getLast?.getD ""

/-- A name up to its last dot, and from there on. A dot at either end of the name divides nothing. -/
def splitName (name : List Char) : List Char × List Char :=
  let after := (name.reverse.takeWhile (· != '.')).reverse
  let before := name.take (name.length - after.length - 1)
  if before == [] || after == [] then (name, []) else (before, '.' :: after)

/-- The name without what follows its last dot. -/
def stem (path : Path) : String := String.ofList (splitName path.name.toList).1

/-- The last dot of the name and what follows it. -/
def suffix (path : Path) : String := String.ofList (splitName path.name.toList).2

theorem stretches_of_plain {chars : List Char} (plain : '/' ∉ chars) : stretches chars = [chars] := by
  induction chars with
  | nil => rfl
  | cons c rest ih =>
    have here : ¬ c = '/' := fun same => plain (by simp [same])
    have after : '/' ∉ rest := fun found => plain (by simp [found])
    simp [stretches, here, ih after]

theorem parts_of_name {name : String} (plain : '/' ∉ name.toList) (step : isStep name.toList = true) :
    (ofText name).parts = [name] := by
  simp [ofText, stretches_of_plain plain, step]

theorem collapse_of_plain {steps : List String} (plain : ".." ∉ steps) : collapse steps = steps := by
  have kept (before : List String) :
      steps.foldl (fun kept step => if step = ".." then kept.dropLast else kept ++ [step]) before =
        before ++ steps := by
    induction steps generalizing before with
    | nil => simp
    | cons step rest ih =>
      obtain ⟨here, after⟩ : ".." ≠ step ∧ ".." ∉ rest := by simpa using plain
      rw [List.foldl_cons, if_neg (Ne.symm here), ih after, List.append_assoc, List.singleton_append]
  exact kept []

end Path

end ViewModel.Files
