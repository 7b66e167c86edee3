import Depository.Configuration.Document
import Depository.Configuration.Flaw
import Depository.Configuration.Override
import Depository.Files.Folder
import Depository.Toml.Reader

/-!
# Loading a configuration

A configuration is read from the text of a file: references to variables are filled in, the result
is read as TOML, variables take the place of settings, and the whole is checked for flaws.
-/

namespace Depository.Configuration

/-- Why the text of a configuration cannot be read. -/
def unreadable : Failure :=
  .configuration "Failed to parse TOML: the text is not a table with the required settings"

/-- The configuration that a text describes, before variables take the place of settings. -/
def described (vars : Variables) (text : String) : Except Failure Configuration :=
  match Template.fill vars text with
  | .error names =>
    .error (.configuration
      ("Missing required environment variables: " ++ Text.join ", " names))
  | .ok text =>
    match (Toml.ofText text).bind (ofDocument? .toml) with
    | none => .error unreadable
    | some c => .ok c

/-- A configuration without flaws. -/
def checked (c : Configuration) : Except Failure Configuration :=
  match c.flaw? with
  | some flaw => .error (.configuration ("Configuration validation failed: " ++ flaw.message))
  | none => .ok c

/-- The configuration that a text and the variables describe. -/
def ofText (vars : Variables) (text : String) : Except Failure Configuration := do
  let c ← described vars text
  let c ← c.override vars
  c.checked

/-- The configuration in a file. -/
def load (folder : Folder) (vars : Variables) (path : String) : Except Failure Configuration :=
  match folder.place path with
  | .nothing _ => .error (.configuration ("Configuration file not found: " ++ path))
  | .folder =>
    .error (.configuration
      ("Failed to read configuration file " ++ path ++ ": " ++ FileFlaw.isFolder.message))
  | .file text => ofText vars text

end Depository.Configuration
