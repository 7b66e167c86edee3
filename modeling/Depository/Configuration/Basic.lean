import Depository.Configuration.Secret
import Depository.Notification.Mute
import Depository.Text.Split

/-!
# Configuration

The settings of an installation, section by section, with the values that a section has when
nothing is said.
-/

namespace Depository

/-- Where the repository keeps its data. -/
inductive DatabaseTarget where
  | postgresql | memory
  deriving DecidableEq

def DatabaseTarget.all : List DatabaseTarget := [.postgresql, .memory]

def DatabaseTarget.name : DatabaseTarget → String
  | .postgresql => "postgresql"
  | .memory => "memory"

/-- What the installation is used for. -/
inductive Deployment where
  | development | staging | production
  deriving DecidableEq

def Deployment.all : List Deployment := [.development, .staging, .production]

def Deployment.name : Deployment → String
  | .development => "development"
  | .staging => "staging"
  | .production => "production"

/-- The kinds of registry. -/
inductive RegistryProvider where
  | datacite | ezid
  deriving DecidableEq

def RegistryProvider.all : List RegistryProvider := [.datacite, .ezid]

def RegistryProvider.name : RegistryProvider → String
  | .datacite => "datacite"
  | .ezid => "ezid"

/-- How local identifiers are made up. -/
inductive IdentifierStyle where
  | randomString | sequence
  deriving DecidableEq

/-- Settings of the application as a whole. -/
structure ApplicationSettings where
  logLevel : String
  siteUrl : String
  publisher : String
  deriving DecidableEq

/-- Settings of persistent identifiers. -/
structure IdentifierSettings where
  protocol : String
  authority : String
  shoulder : String
  style : String
  maxRegistrationAttempts : Nat
  maxGenerationAttempts : Nat
  registerWhenPublished : Bool
  fileIdentifiersEnabled : Bool
  fileIdentifierFormat : String
  deriving DecidableEq

/-- Settings of the registry of identifiers. -/
structure RegistrySettings where
  provider : RegistryProvider
  baseUrl : String
  username : String
  password : Secret
  timeoutSeconds : Nat
  tlsVerify : Bool
  deriving DecidableEq

/-- Settings of the database. -/
structure DatabaseSettings where
  connectionString : Secret
  maxConnections : Nat
  connectionTimeoutSeconds : Nat
  statementTimeoutSeconds : Nat
  sslMode : String
  deriving DecidableEq

/-- Settings of the search index. -/
structure IndexSettings where
  enabled : Bool
  solrUrl : String
  timeoutSeconds : Nat
  deriving DecidableEq

/-- Which kinds of notification are muted for all, or cannot be muted. -/
structure NotificationSettings where
  alwaysMuted : List String
  neverMuted : List String
  deriving DecidableEq

/-- Settings of the mail relay. -/
structure MailSettings where
  enabled : Bool
  relayUrl : String
  apiKey : Option Secret
  fromAddress : String
  timeoutSeconds : Nat
  deriving DecidableEq

/-- Settings of exports. -/
structure ExportSettings where
  directory : String
  formats : List String
  deriving DecidableEq

/-- Settings of the log. -/
structure LoggingSettings where
  localEnabled : Bool
  localPath : String
  localRotation : String
  deriving DecidableEq

/-- The configuration of an installation. -/
structure Configuration where
  application : ApplicationSettings
  deployment : Deployment
  databaseTarget : DatabaseTarget
  database : Option DatabaseSettings
  identifiers : IdentifierSettings
  registry : RegistrySettings
  index : IndexSettings
  notifications : NotificationSettings
  mail : MailSettings
  exports : ExportSettings
  logging : LoggingSettings
  deriving DecidableEq

namespace ApplicationSettings

def default : ApplicationSettings where
  logLevel := "info"
  siteUrl := "http://localhost:8080"
  publisher := "Cairn Repository"

/-- The address of the site without slashes at its end. -/
def site (s : ApplicationSettings) : String := Text.dropEndChars '/' s.siteUrl

/-- The page that the identifier of a dataset leads to. -/
def landingPage (s : ApplicationSettings) (identifier : String) : String :=
  s.site ++ "/dataset.xhtml?persistentId=" ++ identifier

/-- The page that the identifier of a file leads to. -/
def filePage (s : ApplicationSettings) (identifier : String) : String :=
  s.site ++ "/file.xhtml?persistentId=" ++ identifier

end ApplicationSettings

namespace IdentifierSettings

def default : IdentifierSettings where
  protocol := "doi"
  authority := "10.5072"
  shoulder := "FK2"
  style := "randomString"
  maxRegistrationAttempts := 10
  maxGenerationAttempts := 1000
  registerWhenPublished := false
  fileIdentifiersEnabled := true
  fileIdentifierFormat := "dependent"

/-- The style of local identifiers; an unknown name means random ones. -/
def identifierStyle (s : IdentifierSettings) : IdentifierStyle :=
  if s.style = "storedProcGenerated" then .sequence else .randomString

/-- Whether the identifiers of files are built on that of their dataset. -/
def dependentFiles (s : IdentifierSettings) : Bool := s.fileIdentifierFormat == "dependent"

/-- Whether identifiers are registered when a dataset is saved. -/
def registersImmediately (s : IdentifierSettings) : Bool := !s.registerWhenPublished

end IdentifierSettings

/-- The settings of a database of which only the connection is known. -/
def DatabaseSettings.ofConnection (connectionString : Secret) : DatabaseSettings :=
  ⟨connectionString, 10, 30, 60, "prefer"⟩

def IndexSettings.default : IndexSettings := ⟨true, "http://localhost:8983/solr/collection1", 30⟩

namespace NotificationSettings

def default : NotificationSettings := ⟨[], []⟩

/-- The kinds named by a list of texts, in each of which names may be separated by commas; none
if one of the names is unknown. -/
def typesNamed (names : List String) : List NotificationType :=
  match NotificationType.listOfText (Text.join "," names) with
  | .ok types => types
  | .error _ => []

/-- The policy that the settings say. -/
def policy (s : NotificationSettings) : MutePolicy :=
  ⟨.ofList (typesNamed s.alwaysMuted), .ofList (typesNamed s.neverMuted)⟩

end NotificationSettings

def MailSettings.default : MailSettings := ⟨false, "", none, "noreply@localhost.localdomain", 30⟩

/-- The formats in which datasets can be exported. -/
def ExportSettings.supported : List String := ["dataverse_json", "datacite"]

def ExportSettings.default : ExportSettings := ⟨"./exports", supported⟩

def LoggingSettings.default : LoggingSettings := ⟨true, "./logs", "daily"⟩

end Depository
