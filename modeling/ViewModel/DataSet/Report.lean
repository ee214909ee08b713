import ViewModel.DataSet.Batch

/-!
# Reports of batches

A report tells how many data sets there were, how many succeeded and how many failed, and why.
-/

namespace ViewModel.DataSet

def Summary.toTree (summary : Summary) : Tree :=
  .element [("total", .integer summary.total), ("succeeded", .integer summary.succeeded),
    ("failed", .integer summary.failed),
    ("errors", .list (summary.errors.map fun (file, error) =>
      .element [("file", .text file), ("error", .text error)])),
    ("written", .list (summary.written.map .text))]

/-- Why a summary made by hand is not told to its end: it is no element, or its failures do not fit. -/
inductive ReportError
  | noElement
  | misfit (misfit : Misfit)
  deriving DecidableEq, Repr

def ReportError.kind : ReportError → String
  | noElement => "AttributeError"
  | misfit cause => cause.kind

def failureLine (failure : Tree) : Except Misfit String :=
  match failure with
  | .element _ =>
    match failure.field? "file", failure.field? "error" with
    | some file, some error => .ok ("    " ++ file.written ++ ": " ++ error.written)
    | _, _ => .error .keyed
  | _ => .error .unlisted

/-- The failures that a summary lists; none if it says nothing of them. -/
def failures (summary : Tree) : Except Misfit (List Tree) :=
  match summary.field? "errors" with
  | none | some (.text "") | some (.element []) => .ok []
  | some (.list failures) => .ok failures
  | some _ => .error .unlisted

def report (logger : String) (summary : Tree) : Attempt ReportError Unit := do
  let tell (line : String) : Attempt ReportError Unit := Attempt.record .info logger line
  let count (name : String) : String := ((summary.field? name).getD (.integer 0)).written
  let rule := String.ofList (List.replicate 60 '-')
  tell rule
  tell "DATA SETS COMPLETE"
  unless summary matches .element _ do throw .noElement
  tell ("  Total: " ++ count "total")
  tell ("  Succeeded: " ++ count "succeeded")
  tell ("  Failed: " ++ count "failed")
  for failure in ← Attempt.ofExcept ((failures summary).mapError .misfit) do
    tell (← Attempt.ofExcept ((failureLine failure).mapError .misfit))
  tell rule

end ViewModel.DataSet
