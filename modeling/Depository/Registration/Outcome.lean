import Depository.Identifier.GlobalId
import Depository.Text.Split

/-!
# Answers of a registry

A registry registers an identifier, finds it taken, or fails. Registries that answer in free text
are read by what the text contains.
-/

namespace Depository

/-- How a request for registration ended. -/
inductive RegistrationStatus where
  | registered | collision | failed
  deriving DecidableEq

namespace RegistrationStatus

def name : RegistrationStatus → String
  | .registered => "Registered"
  | .collision => "Collision"
  | .failed => "Failed"

def text : RegistrationStatus → String
  | .registered => "registered"
  | .collision => "collision"
  | .failed => "failed"

end RegistrationStatus

/-- The answer to one request: how it ended, the identifier submitted, and the message. -/
structure RegistrationOutcome where
  status : RegistrationStatus
  identifier : GlobalId
  message : Option String
  deriving DecidableEq

namespace RegistrationOutcome

def registered (id : GlobalId) : RegistrationOutcome := ⟨.registered, id, none⟩

def collision (id : GlobalId) (message : String) : RegistrationOutcome :=
  ⟨.collision, id, some message⟩

def failed (id : GlobalId) (message : String) : RegistrationOutcome := ⟨.failed, id, some message⟩

def isRegistered (o : RegistrationOutcome) : Bool := o.status == .registered

/-- What a text answer contains when the identifier is taken. -/
def takenMarker : String := "identifier already exists"

/-- Reads a text answer: one that contains the submitted local identifier is a success, one with
the marker a collision, any other a failure. -/
def ofResponseText (id : GlobalId) (text : String) : RegistrationOutcome :=
  if Text.contains text id.identifier then ⟨.registered, id, some text⟩
  else if Text.contains text takenMarker then collision id text
  else failed id text

end RegistrationOutcome

/-- What is sent with a request: the identifier, the page that it leads to, and what is cited. -/
structure RegistrationTarget where
  identifier : GlobalId
  url : String
  title : String
  creators : List String
  publisher : String
  year : Int
  deriving DecidableEq

/-- How a registration ended: the requests made, the last answer, and the identifier that the
subject carries afterwards. -/
structure RegistrationReport where
  attempts : Nat
  status : RegistrationStatus
  identifier : GlobalId
  deriving DecidableEq

def RegistrationReport.isRegistered (r : RegistrationReport) : Bool := r.status == .registered

end Depository
