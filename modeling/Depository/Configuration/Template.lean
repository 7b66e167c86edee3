import Depository.Text.Ascii
import Depository.Text.Blank
import Depository.Text.Lines

/-!
# Templates

The text of a configuration may refer to variables, each by its name in braces after a dollar
sign. A line is cut into its references and the characters between them; writing the pieces down
again gives the line back. What a reference is replaced by is not looked at again.
-/

namespace Depository

/-- The values of the variables that are set. -/
abbrev Variables := String → Option String

namespace Template

/-- A character that stands for itself, or a reference to a variable. -/
inductive Piece where
  | plain (c : Char)
  | reference (name : String)
  deriving DecidableEq

/-- The text of a piece. -/
def Piece.source : Piece → List Char
  | .plain c => [c]
  | .reference name => '$' :: '\x7b' :: name.toList ++ ['\x7d']

def startsName (c : Char) : Bool := Text.isUpper c || c == '_'

def continuesName (c : Char) : Bool := startsName c || Text.isDigit c

/-- The name in a reference at the start of a text. -/
def nameAt? : List Char → Option (List Char)
  | '$' :: '\x7b' :: rest =>
    let name := rest.takeWhile continuesName
    if name.head?.any startsName && (rest.dropWhile continuesName).head? == some '\x7d' then
      some name
    else none
  | _ => none

/-- The pieces of a text after so many characters of it that belong to the piece before. -/
def piecesAfter : Nat → List Char → List Piece
  | _, [] => []
  | skip + 1, _ :: rest => piecesAfter skip rest
  | 0, c :: rest =>
    match nameAt? (c :: rest) with
    | some name => .reference (String.ofList name) :: piecesAfter (name.length + 2) rest
    | none => .plain c :: piecesAfter 0 rest

/-- The pieces of a line. -/
def pieces (line : List Char) : List Piece := piecesAfter 0 line

/-- A line is a comment when its first character that is not blank is a hash. -/
def isComment (line : List Char) : Bool := (Text.trimStart line).head? == some '#'

/-- The names that a line refers to; a comment refers to none. -/
def references (line : List Char) : List String :=
  if isComment line then []
  else (pieces line).filterMap fun
    | .reference name => some name
    | .plain _ => none

/-- What a piece is replaced by. -/
def Piece.filled (vars : Variables) : Piece → List Char
  | .plain c => [c]
  | .reference name => ((vars name).getD "").toList

/-- A line with the values of its references; a comment stays as it is. -/
def fillLine (vars : Variables) (line : List Char) : List Char :=
  if isComment line then line else (pieces line).flatMap (Piece.filled vars)

/-- The names that a text refers to and that are not set, each once, in the order of their first
occurrence. -/
def missing (vars : Variables) (text : String) : List String :=
  (((Text.lines text.toList).flatMap references).filter fun name => (vars name).isNone).eraseDups

/-- The text with the values of its references, every line ended by a line feed; or the names
that are not set. -/
def fill (vars : Variables) (text : String) : Except (List String) String :=
  match missing vars text with
  | [] => .ok (String.ofList (Text.unlines ((Text.lines text.toList).map (fillLine vars))))
  | names => .error names

end Template

end Depository
