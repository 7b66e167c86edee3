import Depository.Configuration.Basic
import Depository.Configuration.Template
import Depository.Failure

/-!
# Settings from variables

A variable that is set takes the place of a setting. Numbers and truth values have to be readable;
lists have commas between their items.
-/

namespace Depository

namespace Variables

/-- The value of a variable, or what it would replace. -/
def text (vars : Variables) (name : String) (current : String) : String :=
  (vars name).getD current

def secret (vars : Variables) (name : String) (current : Secret) : Secret :=
  ((vars name).map fun s => ⟨s⟩).getD current

/-- The items of a variable, blank ones left out. -/
def list (vars : Variables) (name : String) (current : List String) : List String :=
  match vars name with
  | none => current
  | some s => ((Text.split ',' s).map Text.trim).filter fun item => !item.isEmpty

/-- The value of a variable that has to be readable. -/
def parsed (vars : Variables) (read : List Char → Option α) (name : String) (current : α) :
    Except Failure α :=
  match vars name with
  | none => .ok current
  | some s =>
    match read (Text.trimChars s.toList) with
    | some a => .ok a
    | none => .error (.configuration ("Invalid value '" ++ s ++ "' for " ++ name))

/-- A number of 64 bits. -/
def count (vars : Variables) : String → Nat → Except Failure Nat :=
  vars.parsed (Text.unsigned? 64)

def truth (vars : Variables) : String → Bool → Except Failure Bool :=
  vars.parsed fun cs =>
    if cs = "true".toList then some true
    else if cs = "false".toList then some false
    else none

end Variables

def ApplicationSettings.override (vars : Variables) (s : ApplicationSettings) :
    ApplicationSettings where
  logLevel := vars.text "CAIRN_APPLICATION_LOG_LEVEL" s.logLevel
  siteUrl := vars.text "CAIRN_APPLICATION_SITE_URL" s.siteUrl
  publisher := vars.text "CAIRN_APPLICATION_PUBLISHER" s.publisher

def IdentifierSettings.override (vars : Variables) (s : IdentifierSettings) :
    Except Failure IdentifierSettings := do
  return { s with
    protocol := vars.text "CAIRN_IDENTIFIERS_PROTOCOL" s.protocol
    authority := vars.text "CAIRN_IDENTIFIERS_AUTHORITY" s.authority
    shoulder := vars.text "CAIRN_IDENTIFIERS_SHOULDER" s.shoulder
    style := vars.text "CAIRN_IDENTIFIERS_STYLE" s.style
    maxRegistrationAttempts :=
      ← vars.count "CAIRN_IDENTIFIERS_MAX_REGISTRATION_ATTEMPTS" s.maxRegistrationAttempts
    registerWhenPublished :=
      ← vars.truth "CAIRN_IDENTIFIERS_REGISTER_WHEN_PUBLISHED" s.registerWhenPublished
    fileIdentifierFormat := vars.text "CAIRN_IDENTIFIERS_FILE_PID_FORMAT" s.fileIdentifierFormat }

def RegistrySettings.override (vars : Variables) (s : RegistrySettings) :
    Except Failure RegistrySettings := do
  return { s with
    baseUrl := vars.text "CAIRN_REGISTRY_BASE_URL" s.baseUrl
    username := vars.text "CAIRN_REGISTRY_USERNAME" s.username
    password := vars.secret "CAIRN_REGISTRY_PASSWORD" s.password
    timeoutSeconds := ← vars.count "CAIRN_REGISTRY_TIMEOUT_SECONDS" s.timeoutSeconds }

/-- A variable with the connection makes up for a missing section when the database is in use. -/
def DatabaseSettings.fromVariables (vars : Variables) (target : DatabaseTarget) :
    Option DatabaseSettings → Option DatabaseSettings
  | some s =>
    some { s with
      connectionString := vars.secret "CAIRN_POSTGRESQL_CONNECTION_STRING" s.connectionString }
  | none =>
    if target = .postgresql then
      (vars "CAIRN_POSTGRESQL_CONNECTION_STRING").map fun url => .ofConnection ⟨url⟩
    else none

def DatabaseSettings.override (vars : Variables) (s : DatabaseSettings) :
    Except Failure DatabaseSettings := do
  return { s with
    maxConnections := ← vars.count "CAIRN_POSTGRESQL_MAX_CONNECTIONS" s.maxConnections
    sslMode := vars.text "CAIRN_POSTGRESQL_SSL_MODE" s.sslMode }

def IndexSettings.override (vars : Variables) (s : IndexSettings) :
    Except Failure IndexSettings := do
  return { s with
    enabled := ← vars.truth "CAIRN_INDEX_ENABLED" s.enabled
    solrUrl := vars.text "CAIRN_INDEX_SOLR_URL" s.solrUrl }

def NotificationSettings.override (vars : Variables) (s : NotificationSettings) :
    NotificationSettings where
  alwaysMuted := vars.list "CAIRN_NOTIFICATIONS_ALWAYS_MUTED" s.alwaysMuted
  neverMuted := vars.list "CAIRN_NOTIFICATIONS_NEVER_MUTED" s.neverMuted

def MailSettings.override (vars : Variables) (s : MailSettings) : Except Failure MailSettings := do
  return { s with
    enabled := ← vars.truth "CAIRN_MAIL_ENABLED" s.enabled
    relayUrl := vars.text "CAIRN_MAIL_RELAY_URL" s.relayUrl
    apiKey := ((vars "CAIRN_MAIL_API_KEY").map (⟨·⟩)).or s.apiKey }

def ExportSettings.override (vars : Variables) (s : ExportSettings) : ExportSettings where
  directory := vars.text "CAIRN_EXPORT_DIRECTORY" s.directory
  formats := vars.list "CAIRN_EXPORT_FORMATS" s.formats

def LoggingSettings.override (vars : Variables) (s : LoggingSettings) :
    Except Failure LoggingSettings := do
  return { s with
    localEnabled := ← vars.truth "CAIRN_LOGGING_LOCAL_ENABLED" s.localEnabled
    localPath := vars.text "CAIRN_LOGGING_LOCAL_PATH" s.localPath
    localRotation := vars.text "CAIRN_LOGGING_LOCAL_ROTATION" s.localRotation }

namespace Configuration

/-- The configuration with all variables that are set. The first unreadable one fails. -/
def override (vars : Variables) (c : Configuration) : Except Failure Configuration := do
  let identifiers ← c.identifiers.override vars
  let registry ← c.registry.override vars
  let database ← (DatabaseSettings.fromVariables vars c.databaseTarget c.database).mapM
    (DatabaseSettings.override vars)
  let index ← c.index.override vars
  let mail ← c.mail.override vars
  let logging ← c.logging.override vars
  return { c with
    application := c.application.override vars
    identifiers := identifiers
    registry := registry
    database := database
    index := index
    notifications := c.notifications.override vars
    mail := mail
    exports := c.exports.override vars
    logging := logging }

/-- The variables that take the place of settings. -/
def variableNames : List String :=
  ["APPLICATION_LOG_LEVEL", "APPLICATION_SITE_URL", "APPLICATION_PUBLISHER",
   "IDENTIFIERS_PROTOCOL", "IDENTIFIERS_AUTHORITY", "IDENTIFIERS_SHOULDER", "IDENTIFIERS_STYLE",
   "IDENTIFIERS_MAX_REGISTRATION_ATTEMPTS", "IDENTIFIERS_REGISTER_WHEN_PUBLISHED",
   "IDENTIFIERS_FILE_PID_FORMAT", "REGISTRY_BASE_URL", "REGISTRY_USERNAME", "REGISTRY_PASSWORD",
   "REGISTRY_TIMEOUT_SECONDS", "POSTGRESQL_CONNECTION_STRING", "POSTGRESQL_MAX_CONNECTIONS",
   "POSTGRESQL_SSL_MODE", "INDEX_ENABLED", "INDEX_SOLR_URL", "NOTIFICATIONS_ALWAYS_MUTED",
   "NOTIFICATIONS_NEVER_MUTED", "MAIL_ENABLED", "MAIL_RELAY_URL", "MAIL_API_KEY",
   "EXPORT_DIRECTORY", "EXPORT_FORMATS", "LOGGING_LOCAL_ENABLED", "LOGGING_LOCAL_PATH",
   "LOGGING_LOCAL_ROTATION"].map ("CAIRN_" ++ ·)

end Configuration

end Depository
