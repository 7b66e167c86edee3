import Depository.Registration.Anvl
import Depository.Service.Datacite

/-!
# The registry with lines

A registry that takes lines of names and values and answers in text. A registration is read from
what the text contains, an inquiry from its status and its first word.
-/

namespace Depository.Service.Ezid

/-- What is sent about an identifier. -/
def metadata (t : RegistrationTarget) : String :=
  Anvl.text [("_target", t.url), ("datacite.title", t.title),
    ("datacite.creator", Text.join "; " t.creators), ("datacite.publisher", t.publisher),
    ("datacite.publicationyear", toString t.year), ("datacite.resourcetype", "Dataset")]

def identifierUrl (s : RegistrySettings) (id : GlobalId) : String :=
  Text.dropEndChars '/' s.baseUrl ++ "/id/" ++ id.text

def creation (s : RegistrySettings) (t : RegistrationTarget) : Request where
  method := .put
  url := identifierUrl s t.identifier
  headers := [("authorization", basicCredentials s), ("content-type", "text/plain; charset=UTF-8")]
  body := .text (metadata t)

def inquiry (s : RegistrySettings) (id : GlobalId) : Request where
  method := .get
  url := identifierUrl s id
  headers := []
  body := .none

/-- Whether the identifier exists, by the answer to an inquiry. -/
def existence (q : Request) (answer : Response) : Except Failure Bool :=
  if answer.status = 200 ∧ Text.beginsWith answer.body "success:" then .ok true
  else if answer.status = 400 ∨ answer.status = 404 then .ok false
  else
    .error (.identifier (.invalidResponse
      (q.title ++ ": HTTP " ++ statusText answer.status ++ ": " ++ answer.body)))

end Depository.Service.Ezid
