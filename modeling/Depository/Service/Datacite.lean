import Depository.Configuration.Basic
import Depository.Digest.Base64
import Depository.Json.Reader
import Depository.Json.Record
import Depository.Registration.Outcome
import Depository.Service.Exchange
import Depository.Service.Status

/-!
# The registry with documents

A registry that takes and answers JSON documents. It registers what it echoes, up to the case of
ASCII letters, and refuses an identifier that is taken with an error that says so.
-/

namespace Depository.Service

/-- Basic credentials: the account name, a colon and the password in Base64. -/
def basicCredentials (s : RegistrySettings) : String :=
  "Basic " ++ Digest.base64 (s.username ++ ":" ++ s.password.exposed).toUTF8.toList

namespace Datacite

/-- The type of the documents. -/
def mediaType : String := "application/vnd.api+json"

/-- What an error says when the identifier is taken. -/
def takenMarker : String := "has already been taken"

/-- The document that asks for a registration. -/
def document (t : RegistrationTarget) : Json :=
  .obj [("data", .obj [("type", .str "dois"), ("attributes", .obj [
    ("doi", .str t.identifier.path), ("event", .str "register"), ("url", .str t.url),
    ("titles", .arr [.obj [("title", .str t.title)]]),
    ("creators", Json.ofList (fun name => .obj [("name", .str name)]) t.creators),
    ("publisher", .str t.publisher), ("publicationYear", .int t.year),
    ("types", .obj [("resourceTypeGeneral", .str "Dataset")])])])]

def creation (s : RegistrySettings) (t : RegistrationTarget) : Request where
  method := .post
  url := Text.dropEndChars '/' s.baseUrl ++ "/dois"
  headers := [("authorization", basicCredentials s), ("content-type", mediaType)]
  body := .json (document t)

def inquiry (s : RegistrySettings) (id : GlobalId) : Request where
  method := .get
  url := Text.dropEndChars '/' s.baseUrl ++ "/dois/" ++ id.path
  headers := [("authorization", basicCredentials s), ("accept", mediaType)]
  body := .none

/-- The identifier that an answer echoes. -/
def echo? (body : String) : Option String := do
  let answer ← Json.asRecord? 1 (← Json.ofText body)
  let data ← answer.required (Json.asRecord? 1) 0 "data"
  let attributes ← data.required (Json.asRecord? 1) 0 "attributes"
  attributes.required Json.asText? 0 "doi"

/-- The titles of the errors in an answer; none if it cannot be read. -/
def errorTitles (body : String) : List String :=
  let title? (j : Json) : Option String := do
    (← Json.asRecord? 1 j).withDefault Json.asText? "" 0 "title"
  let titles? : Option (List String) := do
    (← Json.asRecord? 1 (← Json.ofText body)).withDefault (Json.asList? title?) [] 0 "errors"
  titles?.getD []

/-- What an answer means for the identifier that was submitted. -/
def outcome (id : GlobalId) (answer : Response) : RegistrationOutcome :=
  if answer.status = 200 ∨ answer.status = 201 then
    match echo? answer.body with
    | none => .failed id "unreadable response: no identifier in it"
    | some echo =>
      if Text.sameIgnoringCase echo id.path then .registered id
      else .failed id ("registry echoed " ++ echo)
  else if answer.status = 422 then
    let titles := errorTitles answer.body
    let message := if titles.isEmpty then answer.body else Text.join "; " titles
    if Text.contains message takenMarker then .collision id message else .failed id message
  else .failed id ("HTTP " ++ statusText answer.status ++ ": " ++ answer.body)

/-- Whether the identifier exists, by the answer to an inquiry. -/
def existence (q : Request) (answer : Response) : Except Failure Bool :=
  if answer.status = 200 then .ok true
  else if answer.status = 404 then .ok false
  else .error (.identifier (.invalidResponse (q.title ++ ": HTTP " ++ statusText answer.status)))

end Datacite

end Depository.Service
