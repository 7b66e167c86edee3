/-!
# JSON values

The values of the data format, with member lookup and the order in which members are written.
A number that is a whole number within 64 bits is kept as a number, any other as its text.
-/

namespace Depository

/-- A JSON value. -/
inductive Json where
  | null
  | bool (b : Bool)
  | int (n : Int)
  | real (text : String)
  | str (s : String)
  | arr (items : List Json)
  | obj (members : List (String × Json))
  deriving Inhabited, BEq

namespace Json

/-- The value of a member; the first, if the name is repeated. -/
def member? (name : String) : Json → Option Json
  | .obj members => members.lookup name
  | _ => none

/-- The value of a member, null if there is none. -/
def get (j : Json) (name : String) : Json := (j.member? name).getD .null

/-- A text, or null. -/
def ofText? : Option String → Json
  | some s => .str s
  | none => .null

def ofNat (n : Nat) : Json := .int n

/-- A list of texts. -/
def ofTexts (texts : List String) : Json := .arr (texts.map .str)

/-- Puts a member in the order of the names; a later value of the same name wins. -/
def putMember (name : String) (value : Json) : List (String × Json) → List (String × Json)
  | [] => [(name, value)]
  | (other, v) :: rest =>
    if name < other then (name, value) :: (other, v) :: rest
    else if name = other then (name, value) :: rest
    else (other, v) :: putMember name value rest

/-- Members in the order of their names, each name once. -/
def sortMembers (members : List (String × Json)) : List (String × Json) :=
  members.foldl (fun sorted (name, value) => putMember name value sorted) []

/-- The same value with the members of every object in the order of their names. -/
def sorted : Json → Json
  | .arr items => .arr (sortedItems items)
  | .obj members => .obj (sortMembers (sortedMembers members))
  | j => j
where
  sortedItems : List Json → List Json
    | [] => []
    | j :: rest => j.sorted :: sortedItems rest
  sortedMembers : List (String × Json) → List (String × Json)
    | [] => []
    | (name, j) :: rest => (name, j.sorted) :: sortedMembers rest

end Json

end Depository
