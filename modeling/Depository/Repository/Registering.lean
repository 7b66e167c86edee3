import Depository.Repository.Generating

/-!
# Registering identifiers

An identifier is submitted to the registry, and as long as the registry finds it taken, another
one in its place, up to the number of requests that the settings allow. Only a registration that
succeeded leaves a time stamp.
-/

namespace Depository.Repository

open Depository.Action

/-- What is registered: a dataset, or one of its files. -/
inductive Subject where
  | dataset
  | file (id : DataFileId)
  deriving DecidableEq

namespace Subject

/-- The identifier that the subject carries. -/
def identifier? (subject : Subject) (d : Dataset) : Option GlobalId :=
  match subject with
  | .dataset => d.globalId
  | .file id => (d.file? id).bind (·.globalId)

/-- Gives the subject an identifier. -/
def assign (subject : Subject) (g : GlobalId) (d : Dataset) : Dataset :=
  match subject with
  | .dataset => { d with globalId := some g }
  | .file id => d.mapFile id fun f => { f with globalId := some g }

/-- Marks the identifier of the subject as registered. -/
def markRegistered (subject : Subject) (time : Time.Instant) (d : Dataset) : Dataset :=
  match subject with
  | .dataset => { d with globalIdCreateTime := some time, identifierRegistered := true }
  | .file id => d.mapFile id fun f =>
      { f with globalIdCreateTime := some time, identifierRegistered := true }

/-- The page that an identifier of the subject leads to. -/
def page (subject : Subject) (application : ApplicationSettings) (id : GlobalId) : String :=
  match subject with
  | .dataset => application.landingPage id.text
  | .file _ => application.filePage id.text

/-- The title of the subject: that of the last version, for a file the label that the version
gives it, if it has one. -/
def title (subject : Subject) (d : Dataset) : String :=
  let datasetTitle := (d.latest?.bind (·.title?)).getD "Untitled"
  match subject with
  | .dataset => datasetTitle
  | .file id => ((d.latest?.bind (·.recordFor? id)).map (·.label)).getD datasetTitle

end Subject

/-- The year of the last release, or of the clock without one. -/
def publicationYear (d : Dataset) : Action Int :=
  match d.releaseTime? with
  | some t => pure t.date.year
  | none => do return (← now).date.year

/-- What is submitted for a subject. -/
def registrationTarget (d : Dataset) (subject : Subject) (id : GlobalId) :
    Action RegistrationTarget := do
  let application := (← surroundings).application
  let year ← publicationYear d
  return {
    identifier := id
    url := subject.page application id
    title := subject.title d
    creators := (d.latest?.bind (·.fieldValues? "author")).getD []
    publisher := application.publisher
    year := year }

/-- Another identifier for a subject in place of one that is taken. -/
def regenerate (d : Dataset) (subject : Subject) (taken : GlobalId) : Action GlobalId :=
  match subject with
  | .dataset => generate (some taken)
  | .file _ => generateForFile d

/-- Submits an identifier after `made` requests. `retry` is done if the registry finds it taken. -/
def attempt (subject : Subject) (made : Nat) (id : GlobalId) (d : Dataset)
    (retry : Action (RegistrationReport × Dataset)) : Action (RegistrationReport × Dataset) := do
  let target ← registrationTarget d subject id
  match ← outcome (submit target) with
  | .error _ => return (⟨made + 1, .failed, id⟩, d)
  | .ok answer =>
    match answer.status with
    | .registered => return (⟨made + 1, .registered, id⟩, subject.markRegistered (← now) d)
    | .failed => return (⟨made + 1, .failed, id⟩, d)
    | .collision => retry

/-- Submits an identifier after `made` requests, and others in its place while there are `left`
more requests to make. -/
def registerFrom (subject : Subject) :
    Nat → Nat → GlobalId → Dataset → Action (RegistrationReport × Dataset)
  | 0, made, id, d => attempt subject made id d (pure (⟨made + 1, .collision, id⟩, d))
  | left + 1, made, id, d => attempt subject made id d do
    match ← outcome (regenerate d subject id) with
    | .error _ => return (⟨made + 1, .collision, id⟩, d)
    | .ok next => registerFrom subject left (made + 1) next (subject.assign next d)

/-- Registers the identifier that a subject carries. At least one request is made. -/
def register (subject : Subject) (d : Dataset) : Action (RegistrationReport × Dataset) := do
  let settings := (← surroundings).identifiers
  match subject.identifier? d with
  | some id => registerFrom subject (settings.maxRegistrationAttempts - 1) 0 id d
  | none =>
    fail (.persistence (.notFound ("no identifier to register on dataset " ++ d.id.text)))

/-- Registers the identifier of a dataset, which is generated if there is none. -/
def registerDataset (d : Dataset) : Action (RegistrationReport × Dataset) := do
  if d.globalId.isSome then register .dataset d
  else
    let id ← generate none
    register .dataset (Subject.dataset.assign id d)

/-- Registers the identifier of a file, which is generated if there is none. -/
def registerFile (file : DataFileId) (d : Dataset) : Action (RegistrationReport × Dataset) := do
  match d.file? file with
  | none => fail (.persistence (.notFound ("data file " ++ file.text)))
  | some f =>
    if f.globalId.isSome then register (.file file) d
    else
      let id ← generateForFile d
      register (.file file) ((Subject.file file).assign id d)

/-- Whether an identifier is unused here and unknown to the registry. A registry that cannot be
asked counts as not knowing it. -/
def isUnique (id : GlobalId) : Action Bool := do
  if ← isLocallyUnique id then
    match (← surroundings).registryHas id with
    | .ok known => return !known
    | .error _ => return true
  else return false

end Depository.Repository
