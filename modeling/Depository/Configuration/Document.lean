import Depository.Configuration.Basic
import Depository.Document.Scalar

/-!
# Documents of the configuration

How the sections of a configuration are read from a document and written as one. A section may
leave out what has a default.
-/

namespace Depository

open Json (asText? asBool? asUnsigned? asList? asOption? Record ofText?)

/-- How records and names of cases stand in documents of some format. -/
structure DocumentStyle where
  record? : Nat → Json → Option Record
  case? : Json → Option String

/-- The style of JSON documents. -/
def DocumentStyle.json : DocumentStyle := ⟨Json.asRecord?, Json.asCase?⟩

/-- The style of TOML documents: surplus items of an array are passed over, and a case may be a
table with one empty member. -/
def DocumentStyle.toml : DocumentStyle where
  record? _ j := match j with
    | .obj members => some (.named members)
    | .arr items => some (.positional items)
    | _ => none
  case? j := match j with
    | .str s => some s
    | .obj [(name, .obj [])] => some name
    | .obj [(name, .arr [])] => some name
    | _ => none

/-- Counts are numbers of 64 bits. -/
def asCount? : Json → Option Nat := asUnsigned? 64

def Secret.ofDocument? (j : Json) : Option Secret := (asText? j).map (⟨·⟩)

namespace ApplicationSettings

def ofDocument? (style : DocumentStyle) (j : Json) : Option ApplicationSettings := do
  let r ← style.record? 3 j
  return {
    logLevel := ← r.withDefault asText? default.logLevel 0 "log_level"
    siteUrl := ← r.withDefault asText? default.siteUrl 1 "site_url"
    publisher := ← r.withDefault asText? default.publisher 2 "publisher" }

def toJson (s : ApplicationSettings) : Json :=
  .obj [("log_level", .str s.logLevel), ("site_url", .str s.siteUrl),
    ("publisher", .str s.publisher)]

end ApplicationSettings

namespace IdentifierSettings

def ofDocument? (style : DocumentStyle) (j : Json) : Option IdentifierSettings := do
  let r ← style.record? 9 j
  return {
    protocol := ← r.withDefault asText? default.protocol 0 "protocol"
    authority := ← r.withDefault asText? default.authority 1 "authority"
    shoulder := ← r.withDefault asText? default.shoulder 2 "shoulder"
    style := ← r.withDefault asText? default.style 3 "style"
    maxRegistrationAttempts :=
      ← r.withDefault asCount? default.maxRegistrationAttempts 4 "max_registration_attempts"
    maxGenerationAttempts :=
      ← r.withDefault asCount? default.maxGenerationAttempts 5 "max_generation_attempts"
    registerWhenPublished :=
      ← r.withDefault asBool? default.registerWhenPublished 6 "register_when_published"
    fileIdentifiersEnabled :=
      ← r.withDefault asBool? default.fileIdentifiersEnabled 7 "file_pids_enabled"
    fileIdentifierFormat :=
      ← r.withDefault asText? default.fileIdentifierFormat 8 "file_pid_format" }

def toJson (s : IdentifierSettings) : Json :=
  .obj [("protocol", .str s.protocol), ("authority", .str s.authority),
    ("shoulder", .str s.shoulder), ("style", .str s.style),
    ("max_registration_attempts", .ofNat s.maxRegistrationAttempts),
    ("max_generation_attempts", .ofNat s.maxGenerationAttempts),
    ("register_when_published", .bool s.registerWhenPublished),
    ("file_pids_enabled", .bool s.fileIdentifiersEnabled),
    ("file_pid_format", .str s.fileIdentifierFormat)]

end IdentifierSettings

namespace RegistrySettings

def ofDocument? (style : DocumentStyle) (j : Json) : Option RegistrySettings := do
  let r ← style.record? 6 j
  let provider? (j : Json) : Option RegistryProvider :=
    (style.case? j).bind (caseNamed? RegistryProvider.all RegistryProvider.name)
  return {
    provider := ← r.required provider? 0 "provider"
    baseUrl := ← r.required asText? 1 "base_url"
    username := ← r.required asText? 2 "username"
    password := ← r.required Secret.ofDocument? 3 "password"
    timeoutSeconds := ← r.withDefault asCount? 30 4 "timeout_seconds"
    tlsVerify := ← r.withDefault asBool? true 5 "tls_verify" }

def toJson (s : RegistrySettings) : Json :=
  .obj [("provider", .str s.provider.name), ("base_url", .str s.baseUrl),
    ("username", .str s.username), ("password", .str s.password.exposed),
    ("timeout_seconds", .ofNat s.timeoutSeconds), ("tls_verify", .bool s.tlsVerify)]

end RegistrySettings

namespace DatabaseSettings

def ofDocument? (style : DocumentStyle) (j : Json) : Option DatabaseSettings := do
  let r ← style.record? 5 j
  return {
    connectionString := ← r.required Secret.ofDocument? 0 "connection_string"
    maxConnections := ← r.withDefault asCount? 10 1 "max_connections"
    connectionTimeoutSeconds := ← r.withDefault asCount? 30 2 "connection_timeout_seconds"
    statementTimeoutSeconds := ← r.withDefault asCount? 60 3 "statement_timeout_seconds"
    sslMode := ← r.withDefault asText? "prefer" 4 "ssl_mode" }

def toJson (s : DatabaseSettings) : Json :=
  .obj [("connection_string", .str s.connectionString.exposed),
    ("max_connections", .ofNat s.maxConnections),
    ("connection_timeout_seconds", .ofNat s.connectionTimeoutSeconds),
    ("statement_timeout_seconds", .ofNat s.statementTimeoutSeconds), ("ssl_mode", .str s.sslMode)]

end DatabaseSettings

namespace IndexSettings

def ofDocument? (style : DocumentStyle) (j : Json) : Option IndexSettings := do
  let r ← style.record? 3 j
  return {
    enabled := ← r.withDefault asBool? default.enabled 0 "enabled"
    solrUrl := ← r.withDefault asText? default.solrUrl 1 "solr_url"
    timeoutSeconds := ← r.withDefault asCount? default.timeoutSeconds 2 "timeout_seconds" }

def toJson (s : IndexSettings) : Json :=
  .obj [("enabled", .bool s.enabled), ("solr_url", .str s.solrUrl),
    ("timeout_seconds", .ofNat s.timeoutSeconds)]

end IndexSettings

namespace NotificationSettings

def ofDocument? (style : DocumentStyle) (j : Json) : Option NotificationSettings := do
  let r ← style.record? 2 j
  return {
    alwaysMuted := ← r.withDefault (asList? asText?) [] 0 "always_muted"
    neverMuted := ← r.withDefault (asList? asText?) [] 1 "never_muted" }

def toJson (s : NotificationSettings) : Json :=
  .obj [("always_muted", Json.ofTexts s.alwaysMuted), ("never_muted", Json.ofTexts s.neverMuted)]

end NotificationSettings

namespace MailSettings

def ofDocument? (style : DocumentStyle) (j : Json) : Option MailSettings := do
  let r ← style.record? 5 j
  return {
    enabled := ← r.withDefault asBool? default.enabled 0 "enabled"
    relayUrl := ← r.withDefault asText? default.relayUrl 1 "relay_url"
    apiKey := ← r.withDefault (asOption? Secret.ofDocument?) default.apiKey 2 "api_key"
    fromAddress := ← r.withDefault asText? default.fromAddress 3 "from_address"
    timeoutSeconds := ← r.withDefault asCount? default.timeoutSeconds 4 "timeout_seconds" }

def toJson (s : MailSettings) : Json :=
  .obj [("enabled", .bool s.enabled), ("relay_url", .str s.relayUrl),
    ("api_key", ofText? (s.apiKey.map (·.exposed))), ("from_address", .str s.fromAddress),
    ("timeout_seconds", .ofNat s.timeoutSeconds)]

end MailSettings

namespace ExportSettings

def ofDocument? (style : DocumentStyle) (j : Json) : Option ExportSettings := do
  let r ← style.record? 2 j
  return {
    directory := ← r.withDefault asText? default.directory 0 "directory"
    formats := ← r.withDefault (asList? asText?) default.formats 1 "formats" }

def toJson (s : ExportSettings) : Json :=
  .obj [("directory", .str s.directory), ("formats", Json.ofTexts s.formats)]

end ExportSettings

namespace LoggingSettings

def ofDocument? (style : DocumentStyle) (j : Json) : Option LoggingSettings := do
  let r ← style.record? 3 j
  return {
    localEnabled := ← r.withDefault asBool? default.localEnabled 0 "local_enabled"
    localPath := ← r.withDefault asText? default.localPath 1 "local_path"
    localRotation := ← r.withDefault asText? default.localRotation 2 "local_rotation" }

def toJson (s : LoggingSettings) : Json :=
  .obj [("local_enabled", .bool s.localEnabled), ("local_path", .str s.localPath),
    ("local_rotation", .str s.localRotation)]

end LoggingSettings

namespace Configuration

def ofDocument? (style : DocumentStyle) (j : Json) : Option Configuration := do
  let r ← style.record? 11 j
  let deployment? (j : Json) : Option Deployment :=
    (style.case? j).bind (caseNamed? Deployment.all Deployment.name)
  let target? (j : Json) : Option DatabaseTarget :=
    (style.case? j).bind (caseNamed? DatabaseTarget.all DatabaseTarget.name)
  return {
    application :=
      ← r.withDefault (ApplicationSettings.ofDocument? style) .default 0 "application"
    deployment := ← r.withDefault deployment? .development 1 "environment"
    databaseTarget := ← r.required target? 2 "database_target"
    database := ← r.optional (DatabaseSettings.ofDocument? style) 3 "postgresql"
    identifiers :=
      ← r.withDefault (IdentifierSettings.ofDocument? style) .default 4 "identifiers"
    registry := ← r.required (RegistrySettings.ofDocument? style) 5 "registry"
    index := ← r.withDefault (IndexSettings.ofDocument? style) .default 6 "index"
    notifications :=
      ← r.withDefault (NotificationSettings.ofDocument? style) .default 7 "notifications"
    mail := ← r.withDefault (MailSettings.ofDocument? style) .default 8 "mail"
    exports := ← r.withDefault (ExportSettings.ofDocument? style) .default 9 "export"
    logging := ← r.withDefault (LoggingSettings.ofDocument? style) .default 10 "logging" }

/-- The whole configuration, secrets included; without a database its section is left out. -/
def toJson (c : Configuration) : Json :=
  .obj ([("application", c.application.toJson), ("environment", .str c.deployment.name),
      ("database_target", .str c.databaseTarget.name)] ++
    (c.database.map fun d => ("postgresql", d.toJson)).toList ++
    [("identifiers", c.identifiers.toJson), ("registry", c.registry.toJson),
      ("index", c.index.toJson), ("notifications", c.notifications.toJson),
      ("mail", c.mail.toJson), ("export", c.exports.toJson), ("logging", c.logging.toJson)])

end Configuration

end Depository
