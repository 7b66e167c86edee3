import Depository.Configuration.Template

/-!
# Files of variables

A file of variables has one on each line: a name, an equals sign and a value, which may stand in
quotes. Blank lines and comments say nothing.
-/

namespace Depository.Variables

/-- A value without the quotes around it. -/
def unquoted (cs : List Char) : List Char :=
  match cs with
  | '"' :: rest => if rest.getLast? = some '"' then rest.dropLast else cs
  | '\'' :: rest => if rest.getLast? = some '\'' then rest.dropLast else cs
  | _ => cs

/-- The variable on a line. -/
def ofLine? (line : List Char) : Option (String × String) := do
  let line := Text.trimChars line
  if line.head? = some '#' then none
  else
    let line := Text.trimStart ((Text.after? "export ".toList line).getD line)
    let (name, value) ← Text.cutAt '=' line
    some (String.ofList (Text.trimChars name), String.ofList (unquoted (Text.trimChars value)))

/-- The variables of a file. -/
def ofText (s : String) : List (String × String) :=
  (Text.lines s.toList).filterMap ofLine?

end Depository.Variables
