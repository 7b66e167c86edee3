import Depository.Configuration.Basic
import Depository.Database.ConnectionUrl
import Depository.Failure
import Depository.Store.Basic

/-!
# Opening the store

A store in memory starts empty. A database needs its settings and a readable address; no pool of
connections can be made for it here, so that opening it always fails.
-/

namespace Depository.Database

/-- The store of a configuration. -/
def openStore (c : Configuration) : Except Failure Store :=
  match c.databaseTarget, c.database with
  | .memory, _ => .ok (.empty true)
  | .postgresql, none =>
    .error (.configuration
      "postgresql section is required when database_target = \"postgresql\"")
  | .postgresql, some d =>
    if isConnectionUrl d.connectionString.exposed then
      .error (.persistence (.connectionFailed
        "Failed to create connection pool: time limits need a running scheduler"))
    else .error (.configuration "Invalid PostgreSQL connection string: not an address")

end Depository.Database
