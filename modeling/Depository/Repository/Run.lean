import Depository.Export.Summary
import Depository.Repository.Call

/-!
# Runs over all datasets

Exporting and indexing every local dataset. A dataset that fails is counted and does not end the
run.
-/

namespace Depository.Repository

open Depository.Action

/-- How one dataset came out of a run. -/
inductive Visit where
  | succeeded
  | skipped
  | failed (e : Failure)

def Visit.count (v : Visit) (id : DatasetId) (s : RunSummary) : RunSummary :=
  match v with
  | .succeeded => s.addSuccess
  | .skipped => s.addSkipped
  | .failed e => s.addFailure id e.message

/-- Visits datasets one after another. -/
def visitAll (visit : DatasetId → Action Visit) : List DatasetId → RunSummary → Action RunSummary
  | [], s => pure s
  | id :: rest, s => do
    let v ← visit id
    visitAll visit rest (v.count id s)

/-- Visits all local datasets. Only a failure to list them is a failure of the run. -/
def runOver (visit : DatasetId → Action Visit) : Action RunSummary := do
  let ids ← localDatasetIds
  visitAll visit ids (.start ids.length)

/-- Exports a dataset and stamps it. -/
def exportOne (d : Dataset) : Action Unit := do
  exportFormats d
  stampExport d.id (← now)

def visitForExport (force : Bool) (id : DatasetId) : Action Visit := do
  match ← outcome (findDataset? id) with
  | .error e => return .failed e
  | .ok none => return .skipped
  | .ok (some d) =>
    if Export.isNeeded d force then
      match ← outcome (exportOne d) with
      | .ok () => return .succeeded
      | .error e => return .failed e
    else return .skipped

/-- Exports every local dataset that needs it. -/
def exportAll (force : Bool) : Action RunSummary := runOver (visitForExport force)

def visitForIndex (id : DatasetId) : Action Visit := do
  match ← outcome (findDataset? id) with
  | .error e => return .failed e
  | .ok none => return .skipped
  | .ok (some d) =>
    match ← outcome (reindex d false) with
    | .ok () => return .succeeded
    | .error e => return .failed e

/-- Indexes every local dataset anew. -/
def indexAll : Action RunSummary := runOver visitForIndex

end Depository.Repository
