import Depository.CommandLine.Run
import Depository.Configuration.Document
import Depository.Document.Entity
import Depository.Notification.Email
import Depository.Registration.Outcome
import Depository.Text.Numeral

/-!
# Documents of an installation

How a configuration with what follows from it, an invocation of the program, and the messages to
services stand in JSON.
-/

namespace Depository

open Json (asText? asBool? asInt? asList? ofText? ofOption)

def IdentifierStyle.name : IdentifierStyle → String
  | .randomString => "RandomString"
  | .sequence => "StoredProcGenerated"

/-- What a registry is called, and where it is. -/
def RegistrySettings.identification (s : RegistrySettings) : Json :=
  .obj [("name", .str s.provider.name), ("base_url", .str (Service.Registry.address s))]

namespace Configuration

/-- An identifier of which the landing page is shown. -/
def sampleIdentifier : String := "doi:10.5072/FK2ABC"

/-- A configuration and what follows from its settings. -/
def view (c : Configuration) : Json :=
  let types (names : List String) : Json :=
    Json.ofTexts ((NotificationSettings.typesNamed names).map (·.name))
  .obj [("config", c.toJson), ("style", .str c.identifiers.identifierStyle.name),
    ("dependent_file_pids", .bool c.identifiers.dependentFiles),
    ("register_immediately", .bool c.identifiers.registersImmediately),
    ("landing_page", .str (c.application.landingPage sampleIdentifier)),
    ("always_muted", types c.notifications.alwaysMuted),
    ("never_muted", types c.notifications.neverMuted),
    ("password_shown", .bool (Text.contains c.registry.password.shown "REDACTED"))]

/-- What a configuration comes to once the store is open. -/
def wiring (c : Configuration) : Json :=
  .obj [("provider", .str c.registry.provider.name),
    ("base_url", .str (Service.Registry.address c.registry)),
    ("schema", .str Schema.citation.name),
    ("max_attempts", .ofNat c.identifiers.maxRegistrationAttempts), ("store", .str "reachable")]

end Configuration

/-- A registration before it is asked for. -/
def RegistrationTarget.ofJson? (j : Json) : Option RegistrationTarget := do
  return {
    identifier := ← GlobalId.ofJson? (j.get "global_id")
    url := ← asText? (j.get "url")
    title := ← asText? (j.get "title")
    creators := ← asList? asText? (j.get "creators")
    publisher := ← asText? (j.get "publisher")
    year := ← (asInt? (j.get "year")).filter (Text.fitsSigned 32) }

/-- A message before it is sent. -/
def Email.ofJson? (j : Json) : Option Email := do
  return {
    recipient := ← asText? (j.get "to")
    subject := ← asText? (j.get "subject")
    body := ← asText? (j.get "body")
    isHtml := ← asBool? (j.get "html") }

/-- A call of a service outside the repository; `year` writes a year of publication. -/
def Event.toJson? (year : Int → Json) : Event → Option Json
  | .registration t _ =>
    some (.obj [("register", .obj [("global_id", .str t.identifier.text), ("url", .str t.url),
      ("title", .str t.title), ("creators", Json.ofTexts t.creators),
      ("publisher", .str t.publisher), ("year", year t.year)])])
  | .mail m =>
    some (.obj [("mail", .obj [("to", .str m.recipient), ("subject", .str m.subject),
      ("body", .str m.body), ("is_html", .bool m.isHtml)])])
  | .indexing d minor _ =>
    some (.obj [("index", .obj [("dataset", d.id.toJson), ("minor", .bool minor)])])
  | .ingest records files =>
    some (.obj [("ingest",
      .obj [("file_metadatas", .ofNat records), ("files", .ofNat files)])])
  | .store _ _ | .candidate _ | .exporting _ => none

namespace CommandLine

def Command.toJson : Command → Json
  | .validate => .obj [("name", .str "validate-config")]
  | .writeSample output withExamples force =>
    .obj [("name", .str "init"), ("output", .str output), ("with_examples", .bool withExamples),
      ("force", .bool force)]
  | .exportAll force reindex =>
    .obj [("name", .str "export"), ("force", .bool force), ("reindex", .bool reindex)]
  | .listLocks filter =>
    .obj [("name", .str "locks list"), ("dataset", ofOption EntityId.toJson filter.dataset),
      ("reason", ofText? (filter.reason.map (·.text))),
      ("user", ofOption EntityId.toJson filter.user)]
  | .releaseLocks dataset reason =>
    .obj [("name", .str "locks release"), ("dataset", dataset.toJson),
      ("reason", .str reason.text)]
  | .assignFileIdentifiers dataset =>
    .obj [("name", .str "register-file-pids"), ("dataset", dataset.toJson)]

def Invocation.toJson (i : Invocation) : Json :=
  .obj [("config", .str i.configPath), ("log_level", ofText? i.logLevel),
    ("command", i.command.toJson)]

end CommandLine

namespace Service

/-- What a request carries, as a document. -/
def Body.toJson : Body → Json
  | .none => .str ""
  | .json j => j
  | .text s => .str s

/-- The part of an address after the server. -/
def pathOf (server url : String) : String :=
  match Text.after? server.toList url.toList with
  | some rest => if rest.isEmpty then "/" else String.ofList rest
  | none => url

/-- A request to a server as the server saw it. -/
def Request.toJson (server : String) (q : Request) : Json :=
  .obj [("method", .str q.method.name), ("path", .str (pathOf server q.url)),
    ("headers", .obj (q.headers.map fun (name, value) => (name, .str value))),
    ("body", q.body.toJson)]

end Service

end Depository
