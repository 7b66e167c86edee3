import Depository.Text.Split

/-!
# Folders

Files by their paths. A path is taken from one folder, unless it begins with a slash and so is
absolute; empty parts and single points in it do not count.
-/

namespace Depository

/-- Files and their texts, by the parts of their paths. -/
structure Folder where
  files : List (List String × String)

/-- Why a file cannot be read or written. -/
inductive FileFlaw where
  | missing | isFolder | notFolder
  deriving DecidableEq

def FileFlaw.message : FileFlaw → String
  | .missing => "No such file or directory (os error 2)"
  | .isFolder => "Is a directory (os error 21)"
  | .notFolder => "Not a directory (os error 20)"

/-- What a path leads to. -/
inductive Place where
  | file (text : String)
  | folder
  | nothing (flaw : FileFlaw)

namespace Folder

/-- The parts of a path that count; an absolute path has a slash as its first. -/
def parts (path : String) : List String :=
  (if Text.beginsWith path "/" then ["/"] else []) ++
    (Text.split '/' path).filter fun part => part != "" && part != "."

/-- Whether a path can only mean a folder. -/
def endsInFolder (path : String) : Bool :=
  match (Text.split '/' path).getLast? with
  | some last => last == "" || last == "."
  | none => false

def text? (f : Folder) (parts : List String) : Option String := f.files.lookup parts

/-- Whether there is a folder at a path: this one, the topmost, or one with files below it. -/
def hasFolder (f : Folder) (parts : List String) : Bool :=
  parts.isEmpty || parts == ["/"] || f.files.any fun (path, _) => parts.isPrefixOf path && path != parts

/-- Whether a file stands where a path needs a folder. -/
def isBarred (f : Folder) (parts : List String) : Bool :=
  f.files.any fun (path, _) => path.isPrefixOf parts && path != parts

/-- What a path leads to. -/
def place (f : Folder) (path : String) : Place :=
  let ps := parts path
  if path.isEmpty then .nothing .missing
  else match f.text? ps with
    | some text => if endsInFolder path then .nothing .notFolder else .file text
    | none =>
      if f.hasFolder ps then .folder
      else .nothing (if f.isBarred ps then .notFolder else .missing)

def contains (f : Folder) (path : String) : Bool :=
  match f.place path with
  | .nothing _ => false
  | _ => true

/-- The text of the file at a path. -/
def read (f : Folder) (path : String) : Except FileFlaw String :=
  match f.place path with
  | .file text => .ok text
  | .folder => .error .isFolder
  | .nothing flaw => .error flaw

/-- Puts a text at a path, in place of a file that is there. -/
def put (f : Folder) (parts : List String) (text : String) : Folder :=
  ⟨f.files.filter (fun file => file.1 != parts) ++ [(parts, text)]⟩

/-- Writes a text to the file at a path. The folder around the file has to be there. -/
def write (f : Folder) (path text : String) : Except FileFlaw Folder :=
  match f.place path with
  | .file _ => .ok (f.put (parts path) text)
  | .folder => .error .isFolder
  | .nothing .missing =>
    if path.isEmpty || !f.hasFolder (parts path).dropLast then
      .error .missing
    else if endsInFolder path then .error .isFolder
    else .ok (f.put (parts path) text)
  | .nothing flaw => .error flaw

/-- What keeps a folder from being made at a path: a file there or on the way. -/
def obstacle? (f : Folder) (path : String) : Option FileFlaw :=
  if (f.text? (parts path)).isSome || f.isBarred (parts path) then some .notFolder else none

end Folder

end Depository
