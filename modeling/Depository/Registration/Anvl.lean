import Depository.Text.Split

/-!
# Name and value lines

Pairs written as lines of a name, a colon, a space and a value. Percent signs and line breaks are
escaped, in names also colons.
-/

namespace Depository.Anvl

/-- The escaped form of one character. -/
def escapeChar (inName : Bool) (c : Char) : List Char :=
  if c = '%' then ['%', '2', '5']
  else if c = '\n' then ['%', '0', 'A']
  else if c = '\r' then ['%', '0', 'D']
  else if c = ':' ∧ inName then ['%', '3', 'A']
  else [c]

def escape (inName : Bool) (s : List Char) : List Char := s.flatMap (escapeChar inName)

/-- The line of one pair. -/
def line (pair : String × String) : String :=
  String.ofList (escape true pair.1.toList) ++ ": " ++
    String.ofList (escape false pair.2.toList)

/-- The lines of all pairs, with line feeds between them. -/
def text (pairs : List (String × String)) : String := Text.join "\n" (pairs.map line)

end Depository.Anvl
