import Depository.Service.Ezid

/-!
# Registries

The two kinds of registry behind one interface: to register an identifier, and to ask whether one
exists. Each takes one request.
-/

namespace Depository.Service.Registry

/-- One request and what its answer means. Without an answer the registry is unavailable. -/
private def exchange (q : Request) (read : Response → Except Failure α) : Conversation α :=
  .ask q fun
    | none => .fail (.identifier (.registryUnavailable (q.title ++ ": " ++ unsent)))
    | some answer => .done (read answer)

/-- Submits an identifier. -/
def register (s : RegistrySettings) (t : RegistrationTarget) : Conversation RegistrationOutcome :=
  match s.provider with
  | .datacite => exchange (Datacite.creation s t) fun a => .ok (Datacite.outcome t.identifier a)
  | .ezid =>
    exchange (Ezid.creation s t) fun a => .ok (.ofResponseText t.identifier a.body)

/-- Asks whether an identifier exists. -/
def hasIdentifier (s : RegistrySettings) (id : GlobalId) : Conversation Bool :=
  match s.provider with
  | .datacite => exchange (Datacite.inquiry s id) (Datacite.existence (Datacite.inquiry s id))
  | .ezid => exchange (Ezid.inquiry s id) (Ezid.existence (Ezid.inquiry s id))

/-- The address of a registry as it is reported. -/
def address (s : RegistrySettings) : String := Text.dropEndChars '/' s.baseUrl

end Depository.Service.Registry
