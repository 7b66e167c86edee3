import Depository.Json.Value
import Depository.Text.Ascii
import Depository.Text.Split

/-!
# JSON text

Values written without spaces, or indented by two spaces a level. Members come in the order of
their names; control characters, quotes and backslashes are escaped and nothing else.
-/

namespace Depository.Json

private def escapeChar (c : Char) : List Char :=
  if c = '"' then ['\\', '"']
  else if c = '\\' then ['\\', '\\']
  else if c = '\n' then ['\\', 'n']
  else if c = '\r' then ['\\', 'r']
  else if c = '\t' then ['\\', 't']
  else if c.toNat = 8 then ['\\', 'b']
  else if c.toNat = 12 then ['\\', 'f']
  else if c.toNat < 32 then
    ['\\', 'u', '0', '0', Text.hexDigit (c.toNat / 16), Text.hexDigit (c.toNat % 16)]
  else [c]

/-- A text in quotes. -/
def quoted (s : String) : String :=
  "\"" ++ String.ofList (s.toList.flatMap escapeChar) ++ "\""

private def atom : Json → String
  | .null => "null"
  | .bool true => "true"
  | .bool false => "false"
  | .int n => toString n
  | .real text => text
  | .str s => quoted s
  | .arr _ => "[]"
  | .obj _ => "\x7b\x7d"

private def compactSorted : Json → String
  | .arr items => "[" ++ Text.join "," (compactItems items) ++ "]"
  | .obj members => "\x7b" ++ Text.join "," (compactMembers members) ++ "\x7d"
  | j => atom j
where
  compactItems : List Json → List String
    | [] => []
    | j :: rest => compactSorted j :: compactItems rest
  compactMembers : List (String × Json) → List String
    | [] => []
    | (name, j) :: rest => (quoted name ++ ":" ++ compactSorted j) :: compactMembers rest

/-- The text of a value without spaces. -/
def compact (j : Json) : String := compactSorted j.sorted

private def newline (level : Nat) : String :=
  "\n" ++ String.ofList (List.replicate (2 * level) ' ')

private def prettySorted (level : Nat) : Json → String
  | .arr [] => "[]"
  | .obj [] => "\x7b\x7d"
  | .arr items =>
    "[" ++ newline (level + 1) ++
      Text.join ("," ++ newline (level + 1)) (prettyItems (level + 1) items) ++
      newline level ++ "]"
  | .obj members =>
    "\x7b" ++ newline (level + 1) ++
      Text.join ("," ++ newline (level + 1)) (prettyMembers (level + 1) members) ++
      newline level ++ "\x7d"
  | j => atom j
where
  prettyItems (level : Nat) : List Json → List String
    | [] => []
    | j :: rest => prettySorted level j :: prettyItems level rest
  prettyMembers (level : Nat) : List (String × Json) → List String
    | [] => []
    | (name, j) :: rest => (quoted name ++ ": " ++ prettySorted level j) :: prettyMembers level rest

/-- The text of a value over several lines, two spaces for each level. -/
def pretty (j : Json) : String := prettySorted 0 j.sorted

end Depository.Json
