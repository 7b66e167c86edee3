import Depository.Text.Blank
import Depository.Text.Split

/-!
# Persistent identifiers

A protocol, a naming authority and a local identifier, written `protocol:authority/identifier`.
The local identifier may hold slashes; no part may be blank.
-/

namespace Depository

/-- A persistent identifier. -/
structure GlobalId where
  protocol : String
  authority : String
  identifier : String
  deriving DecidableEq

/-- Why three parts or a text are no persistent identifier. -/
inductive GlobalId.Flaw where
  | malformed (text : String)
  | blankPart (text : String)
  deriving DecidableEq

namespace GlobalId

def text (id : GlobalId) : String := id.protocol ++ ":" ++ id.authority ++ "/" ++ id.identifier

/-- Authority and local identifier, without the protocol. -/
def path (id : GlobalId) : String := id.authority ++ "/" ++ id.identifier

/-- The same protocol and authority with another local identifier. -/
def withIdentifier (id : GlobalId) (identifier : String) : GlobalId := { id with identifier }

def hasBlankPart (id : GlobalId) : Bool :=
  Text.isBlankText id.protocol || Text.isBlankText id.authority || Text.isBlankText id.identifier

def Flaw.message : Flaw → String
  | .malformed text => text
  | .blankPart text => "protocol, authority and identifier must be non-empty: " ++ text

/-- The identifier of three parts, none of them blank. -/
def ofParts (protocol authority identifier : String) : Except Flaw GlobalId :=
  let id : GlobalId := ⟨protocol, authority, identifier⟩
  if id.hasBlankPart then .error (.blankPart id.text) else .ok id

/-- The parts of a text before its first colon, up to the first slash after that, and the
rest. -/
def cutText? (s : String) : Option (String × String × String) := do
  let (protocol, rest) ← Text.cut? ':' s
  let (authority, identifier) ← Text.cut? '/' rest
  return (protocol, authority, identifier)

def ofText (s : String) : Except Flaw GlobalId :=
  match cutText? s with
  | none => .error (.malformed s)
  | some (protocol, authority, identifier) => ofParts protocol authority identifier

end GlobalId

end Depository
