import Depository.Json.Value
import Depository.Text.Numeral

/-!
# Reading records

A record is written as an object with named members, or as an array of its fields in order.
Unknown members are passed over; a missing optional member counts as null, but an array has to
hold every field that has no default.
-/

namespace Depository.Json

/-- A record before its fields are read. -/
inductive Record where
  | named (members : List (String × Json))
  | positional (items : List Json)

/-- A value as a record of the given number of fields. -/
def asRecord? (fields : Nat) : Json → Option Record
  | .obj members => some (.named members)
  | .arr items => if items.length ≤ fields then some (.positional items) else none
  | _ => none

namespace Record

/-- The value of a field; `place` counts the fields from zero. -/
def value? (r : Record) (place : Nat) (name : String) : Option Json :=
  match r with
  | .named members => members.lookup name
  | .positional items => items[place]?

/-- A field that has to be there. -/
def required (r : Record) (read : Json → Option α) (place : Nat) (name : String) : Option α :=
  (r.value? place name).bind read

/-- A field that may be null or, among named members, missing. -/
def optional (r : Record) (read : Json → Option α) (place : Nat) (name : String) :
    Option (Option α) :=
  match r, r.value? place name with
  | .named _, none => some none
  | .positional _, none => none
  | _, some .null => some none
  | _, some j => (read j).map some

/-- A field that has a default. -/
def withDefault (r : Record) (read : Json → Option α) (default : α) (place : Nat)
    (name : String) : Option α :=
  match r.value? place name with
  | none => some default
  | some j => read j

end Record

def asText? : Json → Option String
  | .str s => some s
  | _ => none

def asBool? : Json → Option Bool
  | .bool b => some b
  | _ => none

/-- An unsigned number of at most the given number of bits. -/
def asUnsigned? (bits : Nat) : Json → Option Nat
  | .int n => if 0 ≤ n ∧ Text.fitsUnsigned bits n.toNat then some n.toNat else none
  | _ => none

def asInt? : Json → Option Int
  | .int n => some n
  | _ => none

/-- A list with every item read. -/
def asList? (read : Json → Option α) : Json → Option (List α)
  | .arr items => items.mapM read
  | _ => none

/-- Null, or a value that is read. -/
def asOption? (read : Json → Option α) : Json → Option (Option α)
  | .null => some none
  | j => (read j).map some

/-- The name of one of several cases without contents: a text, or an object with that one
member, which is null. -/
def asCase? : Json → Option String
  | .str s => some s
  | .obj [(name, .null)] => some name
  | _ => none

def ofList (write : α → Json) (items : List α) : Json := .arr (items.map write)

def ofOption (write : α → Json) : Option α → Json
  | some a => write a
  | none => .null

end Depository.Json
