import Depository.Configuration.Flaw
import Depository.Failure
import Depository.Files.Folder

/-!
# Starting the log

The log needs a level that exists and, if it is kept in files, a folder that can be made.
-/

namespace Depository.Log

/-- How much is logged. -/
inductive Level where
  | trace | debug | info | warn | error
  deriving DecidableEq

namespace Level

def all : List Level := [.trace, .debug, .info, .warn, .error]

def name : Level → String
  | .trace => "trace"
  | .debug => "debug"
  | .info => "info"
  | .warn => "warn"
  | .error => "error"

/-- The level of a name, in any case of its letters. -/
def ofText? (s : String) : Option Level := all.find? fun l => Text.sameIgnoringCase l.name s

end Level

/-- The level at which the log starts, or why it does not. -/
def start (level : String) (s : LoggingSettings) (folder : Folder) : Except Failure Level :=
  match Level.ofText? level with
  | none =>
    .error (.configuration ("Invalid log level: " ++ level ++ ". Must be one of: " ++
      Text.join ", " (Level.all.map (·.name))))
  | some l =>
    match if s.localEnabled then folder.obstacle? s.localPath else none with
    | none => .ok l
    | some flaw =>
      .error (.configuration
        ("Failed to create log directory " ++ s.localPath ++ ": " ++ flaw.message))

end Depository.Log
