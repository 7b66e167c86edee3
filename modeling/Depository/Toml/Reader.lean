import Depository.Toml.Scalar
import Depository.Toml.Table

/-!
# Reading TOML text

A document is read in two steps: its text into statements, each a key with a value or the header
of a table, and the statements into one table.
-/

namespace Depository.Toml

open Text (Scan)
open Text.Scan (char word span spanOne many separated)

/-- How deep values may lie in each other, and how many parts a key may have. -/
def maxLevels : Nat := 79

/-- A key and the path of tables before it. -/
structure Key where
  path : List String
  name : String

def simpleKey : Scan String :=
  basicText <|> literalText <|> (do
    return String.ofList
      (← spanOne fun c => Text.isAlphanumeric c || c == '-' || c == '_'))

/-- Simple keys with points between them. -/
def key : Scan Key := do
  let parts ← separated (char '.') (do
    let _ ← spaces
    let k ← simpleKey
    let _ ← spaces
    return k)
  match parts.getLast? with
  | some name => if parts.length ≤ maxLevels then return ⟨parts.dropLast, name⟩ else failure
  | none => failure

/-- A key with its value. -/
def pair (value : Scan Json) : Scan (Key × Json) := do
  let k ← key
  char '='
  let _ ← spaces
  return (k, ← value)

/-- White space, line breaks and comments between the items of an array. -/
def gap : Scan Unit := do
  let _ ← many ((do let _ ← spanOne isSpace) <|> (do let _ ← newline) <|> comment)

/-- Values in brackets; a comma may follow the last. -/
def array (value : Scan Json) : Scan Json := do
  char '['
  let items ← Scan.optional (separated (char ',') (do
    gap
    let v ← value
    gap
    return v))
  if items.isSome then
    let _ ← Scan.optional (char ',')
  gap
  char ']'
  return .arr (items.getD [])

/-- Adds values under their keys. -/
def addAll : List (Key × Json) → Members → Option Members
  | [], members => some members
  | (k, v) :: rest, members => do addAll rest (← Members.addValue k.path k.name v members)

/-- Keys with values in braces, on one line. -/
def inlineTable (value : Scan Json) : Scan Json := do
  char '\x7b'
  let pairs ← Scan.optional (separated (char ',') (do
    let p ← pair value
    let _ ← spaces
    return p))
  let _ ← spaces
  char '\x7d'
  match addAll (pairs.getD []) [] with
  | some members => return .obj (Members.toJson members)
  | none => failure

/-- A value with at most so many arrays and tables around the values inside it. -/
def value : Nat → Scan Json
  | 0 => scalar
  | levels + 1 => scalar <|> array (value levels) <|> inlineTable (value levels)

/-- One line of a document that says something. -/
inductive Statement where
  | pair (key : Key) (value : Json)
  | table (key : Key)
  | element (key : Key)

/-- What may follow a statement on its line. -/
def lineEnd : Scan Unit := do
  let _ ← spaces
  let _ ← Scan.optional comment
  newlineOrEnd

def statement : Scan Statement := do
  let s ← (do word "[["; let k ← key; word "]]"; return Statement.element k) <|>
    (do char '['; let k ← key; char ']'; return Statement.table k) <|>
    (do let (k, v) ← pair (value maxLevels); return Statement.pair k v)
  lineEnd
  return s

/-- The statements of a document, a byte order mark at its start passed over. -/
def statements : Scan (List Statement) := do
  let _ ← Scan.optional (char '\ufeff')
  let lines ← many (do
    let _ ← spaces
    (do comment; newlineOrEnd; return none) <|> (do let _ ← newline; return none) <|>
      (do return some (← statement)))
  let _ ← spaces
  return lines.filterMap fun line => line

/-- A table that is built up, and the path of the table opened last. -/
structure Draft where
  root : Members
  current : List String

/-- Adds what a statement says. -/
def Draft.add (d : Draft) : Statement → Option Draft
  | .pair k v => do
    let root ← Members.changeAt .implied (fun _ => Members.addValue k.path k.name v) d.current
      .opened d.root
    return { d with root }
  | .table k => do return ⟨← Members.openTable k.path k.name d.root, k.path ++ [k.name]⟩
  | .element k => do return ⟨← Members.openElement k.path k.name d.root, k.path ++ [k.name]⟩

/-- The table that a document stands for. -/
def ofText (s : String) : Option Json := do
  let lines ← Scan.whole statements s.toList
  let d ← lines.foldlM Draft.add ⟨[], []⟩
  return .obj (Members.toJson d.root)

end Depository.Toml
