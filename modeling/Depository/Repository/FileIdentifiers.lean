import Depository.Repository.Registering

/-!
# Identifiers for files

Every file of a dataset that has no identifier gets one, registered at once if the settings say
so. All changes to the dataset are stored together at the end.
-/

namespace Depository.Repository

open Depository.Action

/-- How many files got an identifier, how many of these were registered, and how many failed. -/
structure FileIdentifierSummary where
  assigned : Nat
  registered : Nat
  failed : Nat
  deriving DecidableEq

namespace FileIdentifierSummary

def empty : FileIdentifierSummary := ⟨0, 0, 0⟩

def addAssigned (s : FileIdentifierSummary) : FileIdentifierSummary :=
  { s with assigned := s.assigned + 1 }

def addRegistered (s : FileIdentifierSummary) : FileIdentifierSummary :=
  { s with registered := s.registered + 1 }

def addFailed (s : FileIdentifierSummary) : FileIdentifierSummary :=
  { s with failed := s.failed + 1 }

end FileIdentifierSummary

/-- The files of a dataset without an identifier. -/
def pendingFiles (d : Dataset) : List DataFileId :=
  (d.files.filter fun f => f.globalId.isNone).map (·.id)

/-- Registers the identifier that a file was given. -/
def registerAssigned (file : DataFileId) (d : Dataset) (s : FileIdentifierSummary) :
    Action (Dataset × FileIdentifierSummary) := do
  match ← outcome (registerFile file d) with
  | .error _ => return (d, s.addFailed)
  | .ok (report, d) => return (d, if report.isRegistered then s.addRegistered else s.addFailed)

/-- Gives one file an identifier. -/
def assignOne (file : DataFileId) (d : Dataset) (s : FileIdentifierSummary) :
    Action (Dataset × FileIdentifierSummary) := do
  match ← outcome (generateForFile d) with
  | .error _ => return (d, s.addFailed)
  | .ok id =>
    let d := (Subject.file file).assign id d
    if (← surroundings).identifiers.registersImmediately then
      registerAssigned file d s.addAssigned
    else return (d, s.addAssigned)

/-- Gives files identifiers one after another. -/
def assignAll : List DataFileId → Dataset → FileIdentifierSummary →
    Action (Dataset × FileIdentifierSummary)
  | [], d, s => pure (d, s)
  | file :: rest, d, s => do
    let (d, s) ← assignOne file d s
    assignAll rest d s

/-- Gives all files of a dataset identifiers, and stores the dataset if there were any to
give. -/
def assignFileIdentifiers (id : DatasetId) : Action FileIdentifierSummary := do
  if !(← surroundings).identifiers.fileIdentifiersEnabled then return .empty
  else
    let d ← findDataset id
    match pendingFiles d with
    | [] => return .empty
    | pending =>
      let (d, summary) ← assignAll pending d .empty
      let _ ← commit (.merge d)
      return summary

end Depository.Repository
