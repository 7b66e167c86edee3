import Depository.Json.Value

/-!
# Tables of TOML

A document builds up one table of named entries, statement by statement. Each table remembers how
it came to be, because that decides what may still be added to it: a table is opened by a header
only once, and dotted keys add only to tables that dotted keys have made.
-/

namespace Depository.Toml

/-- How a table came to be: by a header of its own, on the way to another table, or by a dotted
key. -/
inductive Standing where
  | opened | implied | dotted
  deriving DecidableEq

/-- What a name stands for: a value, a table, or an array of tables, each of these opened by a
header. -/
inductive Entry where
  | value (v : Json)
  | table (standing : Standing) (members : List (String × Entry))
  | tables (elements : List (List (String × Entry)))

/-- The entries of a table. -/
abbrev Members := List (String × Entry)

namespace Members

/-- The entries with a new one for a name that has one. -/
def replace (name : String) (e : Entry) : Members → Members
  | [] => []
  | (other, old) :: rest =>
    if other = name then (other, e) :: rest else (other, old) :: replace name e rest

/-- Changes the table at the end of a path, of an array of tables its last. Tables that are
missing on the way come to be as `way` says. Dotted keys do not pass through opened tables. -/
def changeAt (way : Standing) (change : Standing → Members → Option Members) :
    List String → Standing → Members → Option Members
  | [], standing, members => change standing members
  | name :: path, _, members =>
    match members.lookup name with
    | none => do
      let inner ← changeAt way change path way []
      return members ++ [(name, .table way inner)]
    | some (.value _) => none
    | some (.table standing inner) => do
      if way = .dotted ∧ standing = .opened then none
      else
        let inner ← changeAt way change path standing inner
        return replace name (.table standing inner) members
    | some (.tables elements) => do
      let inner ← changeAt way change path .opened (← elements.getLast?)
      return replace name (.tables (elements.dropLast ++ [inner])) members

/-- Adds an entry whose name is not in use. -/
def add (name : String) (e : Entry) (members : Members) : Option Members :=
  if (members.lookup name).isSome then none else some (members ++ [(name, e)])

/-- Adds a value under a key of the given parts. -/
def addValue (path : List String) (name : String) (v : Json) : Members → Option Members :=
  changeAt .dotted
    (fun standing members =>
      if path ≠ [] ∧ standing ≠ .dotted then none else add name (.value v) members)
    path .opened

/-- Opens a table: one that is missing, or that was only on the way to others. -/
def openTable (path : List String) (name : String) : Members → Option Members :=
  changeAt .implied
    (fun _ members =>
      match members.lookup name with
      | none => some (members ++ [(name, .table .opened [])])
      | some (.table .implied inner) => some (replace name (.table .opened inner) members)
      | _ => none)
    path .opened

/-- Opens a further table in an array of tables. -/
def openElement (path : List String) (name : String) : Members → Option Members :=
  changeAt .implied
    (fun _ members =>
      match members.lookup name with
      | none => some (members ++ [(name, .tables [[]])])
      | some (.tables elements) => some (replace name (.tables (elements ++ [[]])) members)
      | _ => none)
    path .opened

end Members

mutual

/-- The value that an entry stands for. -/
def Entry.toJson : Entry → Json
  | .value v => v
  | .table _ members => .obj (Members.toJson members)
  | .tables elements => .arr (Members.listToJson elements)

/-- The values of all entries of a table. -/
def Members.toJson : List (String × Entry) → List (String × Json)
  | [] => []
  | (name, e) :: rest => (name, e.toJson) :: Members.toJson rest

/-- The values of several tables. -/
def Members.listToJson : List (List (String × Entry)) → List Json
  | [] => []
  | members :: rest => .obj (Members.toJson members) :: Members.listToJson rest

end

end Depository.Toml
