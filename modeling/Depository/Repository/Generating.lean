import Depository.Repository.Call
import Depository.Text.Numeral

/-!
# Generating identifiers

Candidates are made up one after another until one is used by no dataset and no file. Local
parts are random or numbered; the identifiers of files may instead extend that of their dataset
by a number.
-/

namespace Depository.Repository

open Depository.Action

/-- The alphabet of random local parts. -/
def localAlphabet : List Char := "ABCDEFGHIJKLMNOPQRSTUVWXYZ0123456789".toList

/-- The text of a local part. -/
def localText (p : LocalPart) : String :=
  String.ofList (p.toList.map fun i => localAlphabet.get ⟨i.val, i.isLt⟩)

/-- The local part of the next candidate, after the shoulder. -/
def nextLocal (style : IdentifierStyle) : Action String :=
  match style with
  | .randomString => do return localText (← freshLocalPart)
  | .sequence => do
    match ← nextSequence with
    | some n => return toString n
    | none => fail (.identifier (.generationFailed "identifier sequence returned no value"))

/-- The first unused one of at most as many candidates. -/
def firstUnused (next : Action GlobalId) : Nat → Action (Option GlobalId)
  | 0 => pure none
  | tries + 1 => do
    let candidate ← next
    if ← isLocallyUnique candidate then return some candidate
    else firstUnused next tries

/-- A candidate under a protocol and an authority. -/
def candidate (protocol authority : String) : Action GlobalId := do
  let settings := (← surroundings).identifiers
  let localPart ← nextLocal settings.identifierStyle
  match GlobalId.ofParts protocol authority (settings.shoulder ++ localPart) with
  | .ok id => return id
  | .error flaw => fail (.identifier flaw.failure)

/-- An unused identifier, of the protocol and authority of an existing one if there is one. -/
def generate (existing : Option GlobalId) : Action GlobalId := do
  let settings := (← surroundings).identifiers
  let (protocol, authority) := match existing with
    | some id => (id.protocol, id.authority)
    | none => (settings.protocol, settings.authority)
  match ← firstUnused (candidate protocol authority) settings.maxGenerationAttempts with
  | some id => return id
  | none =>
    fail (.identifier (.generationFailed ("no unique identifier after " ++
      toString settings.maxGenerationAttempts ++ " candidates")))

/-- The number of an identifier below a given beginning. -/
def numberBelow? (start : String) (id : GlobalId) : Option Nat :=
  (Text.after? start.toList id.identifier.toList).bind (Text.unsigned? 64)

/-- The greatest number that a file of a dataset has below a beginning, or zero. -/
def greatestNumber (start : String) (d : Dataset) : Nat :=
  ((d.files.filterMap (·.globalId)).filterMap (numberBelow? start)).foldl max 0

/-- The identifier with a number below that of a dataset. -/
def numbered (parent : GlobalId) (n : Nat) : GlobalId :=
  parent.withIdentifier (parent.identifier ++ "/" ++ toString n)

/-- The first unused number from one on, of at most as many. -/
def firstUnusedNumber (parent : GlobalId) : Nat → Nat → Action (Option GlobalId)
  | 0, _ => pure none
  | tries + 1, n => do
    if ← isLocallyUnique (numbered parent n) then return some (numbered parent n)
    else firstUnusedNumber parent tries (n + 1)

/-- The next unused identifier below that of a dataset. -/
def generateBelow (parent : GlobalId) (d : Dataset) : Action GlobalId := do
  let settings := (← surroundings).identifiers
  let first := greatestNumber (parent.identifier ++ "/") d + 1
  match ← firstUnusedNumber parent settings.maxGenerationAttempts first with
  | some id => return id
  | none =>
    fail (.identifier (.generationFailed ("no free file identifier below " ++ parent.text)))

/-- An unused identifier for a file of a dataset. -/
def generateForFile (d : Dataset) : Action GlobalId := do
  let settings := (← surroundings).identifiers
  if settings.dependentFiles then
    match d.globalId with
    | some parent => generateBelow parent d
    | none =>
      fail (.identifier (.generationFailed ("dataset " ++ d.id.text ++
        " has no identifier to derive file identifiers from")))
  else generate d.globalId

end Depository.Repository
