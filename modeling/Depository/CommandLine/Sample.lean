import Depository.Text.Split

/-!
# Sample configurations

The files that a new installation starts from: a short one, and one that shows every setting.
-/

namespace Depository.CommandLine.Sample

/-- The lines of the short file. -/
def shortLines : List String :=
  ["# Cairn Configuration File",
   "",
   "database_target = \"postgresql\"  # postgresql | memory",
   "",
   "[application]",
   "log_level = \"info\"",
   "site_url = \"https://data.example.org\"",
   "publisher = \"Example Data Repository\"",
   "",
   "[identifiers]",
   "protocol = \"doi\"",
   "authority = \"10.5072\"",
   "shoulder = \"FK2\"",
   "style = \"randomString\"",
   "",
   "[registry]",
   "provider = \"datacite\"",
   "base_url = \"https://api.test.datacite.org\"",
   "username = \"EXAMPLE.REPO\"",
   "password = \"$\x7bCAIRN_REGISTRY_PASSWORD\x7d\"",
   "",
   "[postgresql]",
   "connection_string = \"$\x7bCAIRN_PG_URL\x7d\"",
   "",
   "[index]",
   "solr_url = \"http://localhost:8983/solr/collection1\"",
   "",
   "[logging]",
   "local_enabled = true",
   "local_path = \"./logs\""]

/-- The lines of the file with every setting. -/
def fullLines : List String :=
  ["# Cairn Configuration File",
   "#",
   "# Values of the form $\x7bVAR\x7d are read from the environment (or .env).",
   "# Any key can be overridden with CAIRN_<SECTION>_<KEY>.",
   "",
   "# Persistence backend: postgresql for deployments, memory for local trials",
   "database_target = \"postgresql\"",
   "",
   "# development | staging | production",
   "environment = \"development\"",
   "",
   "[application]",
   "log_level = \"info\"",
   "# Public URL; identifier landing pages point here",
   "site_url = \"https://data.example.org\"",
   "# Publisher sent with every registration",
   "publisher = \"Example Data Repository\"",
   "",
   "[identifiers]",
   "# doi | hdl",
   "protocol = \"doi\"",
   "authority = \"10.5072\"",
   "# Prefix of every generated local identifier",
   "shoulder = \"FK2\"",
   "# randomString | storedProcGenerated",
   "style = \"randomString\"",
   "# Total registry calls per registration, collisions included",
   "max_registration_attempts = 10",
   "max_generation_attempts = 10",
   "# true defers registration to publication",
   "register_when_published = false",
   "file_pids_enabled = true",
   "# dependent (<dataset>/<n>) | independent",
   "file_pid_format = \"dependent\"",
   "",
   "[registry]",
   "# datacite | ezid",
   "provider = \"datacite\"",
   "base_url = \"https://api.test.datacite.org\"",
   "username = \"EXAMPLE.REPO\"",
   "password = \"$\x7bCAIRN_REGISTRY_PASSWORD\x7d\"",
   "timeout_seconds = 60",
   "tls_verify = true",
   "",
   "[postgresql]",
   "connection_string = \"$\x7bCAIRN_PG_URL\x7d\"",
   "max_connections = 20",
   "connection_timeout_seconds = 30",
   "statement_timeout_seconds = 60",
   "# disable | allow | prefer | require | verify-ca | verify-full",
   "ssl_mode = \"prefer\"",
   "",
   "[index]",
   "enabled = true",
   "solr_url = \"http://localhost:8983/solr/collection1\"",
   "timeout_seconds = 60",
   "",
   "[notifications]",
   "# Muted for everyone",
   "always_muted = []",
   "# Delivered regardless of user preferences",
   "never_muted = [\"SUBMITTEDDS\", \"PUBLISHFAILED_PIDREG\"]",
   "",
   "[mail]",
   "enabled = false",
   "relay_url = \"https://mail-relay.example.org/send\"",
   "api_key = \"$\x7bCAIRN_MAIL_API_KEY\x7d\"",
   "from_address = \"repository@example.org\"",
   "",
   "[export]",
   "directory = \"./exports\"",
   "# dataverse_json | datacite",
   "formats = [\"dataverse_json\", \"datacite\"]",
   "",
   "[logging]",
   "local_enabled = true",
   "local_path = \"./logs\"",
   "# daily | hourly | never",
   "local_rotation = \"daily\""]

/-- The text of a sample file. -/
def text (withExamples : Bool) : String :=
  String.join ((if withExamples then fullLines else shortLines).map (· ++ "\n"))

end Depository.CommandLine.Sample
