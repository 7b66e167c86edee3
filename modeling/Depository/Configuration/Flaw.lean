import Depository.Configuration.Basic

/-!
# Flaws of a configuration

What makes a configuration unusable. The sections are looked at in their order, of the database
only the one in use, and the first flaw found counts.
-/

namespace Depository

/-- What is wrong with a configuration. -/
inductive ConfigurationFlaw where
  | logLevel (given : String)
  | siteUrl
  | noDatabase
  | memoryInProduction
  | noConnection
  | connectionScheme
  | connectionCount (given : Nat)
  | sslMode (given : String)
  | protocol (given : String)
  | noAuthority
  | registrationAttempts (given : Nat)
  | noGenerationAttempts
  | fileFormat (given : String)
  | noRegistryUrl
  | registryUrl
  | noRegistryUser
  | noRegistryPassword
  | noRegistryTime
  | uncheckedRegistry
  | indexUrl
  | alwaysMuted (name : String)
  | neverMuted (name : String)
  | mailUrl
  | mailSender (given : String)
  | noExportDirectory
  | noExportFormats
  | exportFormat (given : String)
  | logRotation (given : String)
  | noLogPath
  deriving DecidableEq

def ApplicationSettings.logLevels : List String := ["trace", "debug", "info", "warn", "error"]

def IdentifierSettings.protocols : List String := ["doi", "hdl"]

def IdentifierSettings.fileFormats : List String := ["dependent", "independent"]

def DatabaseSettings.sslModes : List String :=
  ["disable", "allow", "prefer", "require", "verify-ca", "verify-full"]

def LoggingSettings.rotations : List String := ["daily", "hourly", "never"]

namespace ConfigurationFlaw

private def among (what given : String) (allowed : List String) : String :=
  "Invalid " ++ what ++ " '" ++ given ++ "'. Must be one of: " ++ Text.join ", " allowed

def message : ConfigurationFlaw → String
  | .logLevel given => among "log_level" given ApplicationSettings.logLevels
  | .siteUrl => "application.site_url must start with http:// or https://"
  | .noDatabase => "postgresql configuration is required when database_target = 'postgresql'"
  | .memoryInProduction => "database_target = 'memory' is not allowed in production"
  | .noConnection => "postgresql.connection_string cannot be empty"
  | .connectionScheme =>
    "postgresql.connection_string must start with postgresql:// or postgres://"
  | .connectionCount given =>
    "postgresql.max_connections must be between 1 and 100, got " ++ toString given
  | .sslMode given =>
    "postgresql.ssl_mode must be one of: " ++ Text.join ", " DatabaseSettings.sslModes ++
      ", got '" ++ given ++ "'"
  | .protocol given => among "identifiers.protocol" given IdentifierSettings.protocols
  | .noAuthority => "identifiers.authority cannot be empty"
  | .registrationAttempts given =>
    "identifiers.max_registration_attempts must be between 1 and 100, got " ++ toString given
  | .noGenerationAttempts => "identifiers.max_generation_attempts must be > 0"
  | .fileFormat given =>
    among "identifiers.file_pid_format" given IdentifierSettings.fileFormats
  | .noRegistryUrl => "registry.base_url cannot be empty"
  | .registryUrl => "registry.base_url must start with http:// or https://"
  | .noRegistryUser => "registry.username cannot be empty"
  | .noRegistryPassword => "registry.password cannot be empty"
  | .noRegistryTime => "registry.timeout_seconds must be > 0"
  | .uncheckedRegistry =>
    "TLS certificate verification cannot be disabled in production environments"
  | .indexUrl => "index.solr_url must start with http:// or https://"
  | .alwaysMuted name =>
    "notifications.always_muted: " ++ NotificationType.unknownMessage name
  | .neverMuted name => "notifications.never_muted: " ++ NotificationType.unknownMessage name
  | .mailUrl => "mail.relay_url must start with http:// or https://"
  | .mailSender given => "mail.from_address '" ++ given ++ "' is not an e-mail address"
  | .noExportDirectory => "export.directory cannot be empty"
  | .noExportFormats => "export.formats cannot be empty"
  | .exportFormat given => among "export format" given ExportSettings.supported
  | .logRotation given => among "logging.local_rotation" given LoggingSettings.rotations
  | .noLogPath => "logging.local_path cannot be empty"

end ConfigurationFlaw

/-- The flaw of something that has it. -/
private def flawIf (bad : Bool) (flaw : ConfigurationFlaw) : Option ConfigurationFlaw :=
  if bad then some flaw else none

private theorem flawIf_eq_none_iff {bad : Bool} {flaw : ConfigurationFlaw} :
    flawIf bad flaw = none ↔ bad = false := by
  cases bad <;> simp [flawIf]

/-- Whether a text is the address of a web server. -/
def isWebUrl (s : String) : Bool :=
  Text.beginsWith s "http://" || Text.beginsWith s "https://"

def ApplicationSettings.flaw? (s : ApplicationSettings) : Option ConfigurationFlaw :=
  flawIf (!logLevels.contains s.logLevel) (.logLevel s.logLevel) <|>
    flawIf (!isWebUrl s.siteUrl) .siteUrl

def DatabaseSettings.flaw? (s : DatabaseSettings) : Option ConfigurationFlaw :=
  let url := s.connectionString.exposed
  flawIf url.isEmpty .noConnection <|>
    flawIf (!Text.beginsWith url "postgresql://" && !Text.beginsWith url "postgres://")
      .connectionScheme <|>
    flawIf (s.maxConnections == 0 || 100 < s.maxConnections) (.connectionCount s.maxConnections) <|>
    flawIf (!sslModes.contains s.sslMode) (.sslMode s.sslMode)

/-- The address of a database without flaws begins with one of two schemes. -/
theorem DatabaseSettings.flaw?_eq_none_iff {s : DatabaseSettings} :
    s.flaw? = none ↔ s.connectionString.exposed ≠ "" ∧
      (Text.beginsWith s.connectionString.exposed "postgresql://" = true ∨
        Text.beginsWith s.connectionString.exposed "postgres://" = true) ∧
      s.maxConnections ≠ 0 ∧ s.maxConnections ≤ 100 ∧ s.sslMode ∈ sslModes := by
  simp [flaw?, flawIf_eq_none_iff, and_assoc, Decidable.or_iff_not_imp_left]

def IdentifierSettings.flaw? (s : IdentifierSettings) : Option ConfigurationFlaw :=
  flawIf (!protocols.contains s.protocol) (.protocol s.protocol) <|>
    flawIf (Text.isBlankText s.authority) .noAuthority <|>
    flawIf (s.maxRegistrationAttempts == 0 || 100 < s.maxRegistrationAttempts)
      (.registrationAttempts s.maxRegistrationAttempts) <|>
    flawIf (s.maxGenerationAttempts == 0) .noGenerationAttempts <|>
    flawIf (!fileFormats.contains s.fileIdentifierFormat) (.fileFormat s.fileIdentifierFormat)

theorem IdentifierSettings.flaw?_eq_none_iff {s : IdentifierSettings} :
    s.flaw? = none ↔ s.protocol ∈ protocols ∧ Text.isBlankText s.authority = false ∧
      s.maxRegistrationAttempts ≠ 0 ∧ s.maxRegistrationAttempts ≤ 100 ∧
      s.maxGenerationAttempts ≠ 0 ∧ s.fileIdentifierFormat ∈ fileFormats := by
  simp [flaw?, flawIf_eq_none_iff, and_assoc]

/-- In production the certificate of the registry has to be checked. -/
def RegistrySettings.flaw? (s : RegistrySettings) (deployment : Deployment) :
    Option ConfigurationFlaw :=
  flawIf s.baseUrl.isEmpty .noRegistryUrl <|> flawIf (!isWebUrl s.baseUrl) .registryUrl <|>
    flawIf s.username.isEmpty .noRegistryUser <|> flawIf s.password.isEmpty .noRegistryPassword <|>
    flawIf (s.timeoutSeconds == 0) .noRegistryTime <|>
    flawIf (deployment == .production && !s.tlsVerify) .uncheckedRegistry

def IndexSettings.flaw? (s : IndexSettings) : Option ConfigurationFlaw :=
  flawIf (s.enabled && !isWebUrl s.solrUrl) .indexUrl

/-- The first name of a list that names no kind of notification. -/
def NotificationSettings.unknown? (names : List String) : Option String :=
  match NotificationType.listOfText (Text.join "," names) with
  | .ok _ => none
  | .error name => some name

def NotificationSettings.flaw? (s : NotificationSettings) : Option ConfigurationFlaw :=
  (unknown? s.alwaysMuted).map .alwaysMuted <|> (unknown? s.neverMuted).map .neverMuted

def MailSettings.flaw? (s : MailSettings) : Option ConfigurationFlaw :=
  flawIf (s.enabled && !isWebUrl s.relayUrl) .mailUrl <|>
    flawIf (s.enabled && !s.fromAddress.toList.contains '@') (.mailSender s.fromAddress)

def ExportSettings.flaw? (s : ExportSettings) : Option ConfigurationFlaw :=
  flawIf (Text.isBlankText s.directory) .noExportDirectory <|>
    flawIf s.formats.isEmpty .noExportFormats <|>
    (s.formats.find? fun f => !supported.contains f).map .exportFormat

def LoggingSettings.flaw? (s : LoggingSettings) : Option ConfigurationFlaw :=
  flawIf (!rotations.contains s.localRotation) (.logRotation s.localRotation) <|>
    flawIf (s.localEnabled && Text.isBlankText s.localPath) .noLogPath

namespace Configuration

/-- The flaw of the database in use. Nothing is kept in memory in production. -/
def databaseFlaw? (c : Configuration) : Option ConfigurationFlaw :=
  match c.databaseTarget, c.database with
  | .postgresql, some d => d.flaw?
  | .postgresql, none => some .noDatabase
  | .memory, _ => flawIf (c.deployment == .production) .memoryInProduction

/-- The first flaw of a configuration. -/
def flaw? (c : Configuration) : Option ConfigurationFlaw :=
  c.application.flaw? <|> c.databaseFlaw? <|> c.identifiers.flaw? <|>
    c.registry.flaw? c.deployment <|> c.index.flaw? <|> c.notifications.flaw? <|>
    c.mail.flaw? <|> c.exports.flaw? <|> c.logging.flaw?

/-- A configuration has no flaw exactly if none of its sections in use has one. -/
theorem flaw?_eq_none_iff {c : Configuration} :
    c.flaw? = none ↔ c.application.flaw? = none ∧ c.databaseFlaw? = none ∧
      c.identifiers.flaw? = none ∧ c.registry.flaw? c.deployment = none ∧ c.index.flaw? = none ∧
      c.notifications.flaw? = none ∧ c.mail.flaw? = none ∧ c.exports.flaw? = none ∧
      c.logging.flaw? = none := by
  simp [flaw?]

end Configuration

end Depository
