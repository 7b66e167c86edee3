import Depository.Text.Blank
import Depository.Text.Numeral
import Depository.Text.Split
import Depository.Time.Calendar
import Depository.Web.Address

/-!
# Kinds of field

What a metadata value of each kind has to look like. The space around a value is disregarded,
and the placeholder `N/A` is a value of every kind.
-/

namespace Depository

/-- The kind of the values of a metadata field. -/
inductive FieldKind where
  | text | email | url | date | integer | float
  deriving DecidableEq

/-- The value that stands for one that is missing or unusable. -/
def notApplicable : String := "N/A"

namespace FieldKind

def all : List FieldKind := [.text, .email, .url, .date, .integer, .float]

def name : FieldKind → String
  | .text => "text"
  | .email => "email"
  | .url => "url"
  | .date => "date"
  | .integer => "integer"
  | .float => "float"

/-- A local part, one at sign, and a domain with something before and after its first point. -/
def isEmail (cs : List Char) : Bool :=
  !cs.any Text.isBlank &&
    match Text.cutAt '@' cs with
    | none => false
    | some (localPart, domain) =>
      !localPart.isEmpty && !domain.contains '@' &&
        match Text.cutAt '.' domain with
        | none => false
        | some (host, top) => !host.isEmpty && !top.isEmpty

/-- Four bytes that are a signed number. -/
def isYear (cs : List Char) : Bool :=
  (String.ofList cs).utf8ByteSize == 4 && (Text.signed? 32 cs).isSome

def isMonth (cs : List Char) : Bool :=
  (Text.unsigned? 32 cs).any fun n => 1 ≤ n && n ≤ 12

/-- A year, a year and a month, or a day of the calendar. -/
def isPartialDate (cs : List Char) : Bool :=
  match Text.splitAt '-' cs with
  | [year] => isYear year
  | [year, month] => isYear year && isMonth month
  | [_, _, _] => (Time.dateOfText? cs).isSome
  | _ => false

/-- Whether a value without space around it has the form of the kind. -/
def hasForm (kind : FieldKind) (cs : List Char) : Bool :=
  match kind with
  | .text => true
  | .email => isEmail cs
  | .url => Web.isWebAddress cs
  | .date => isPartialDate cs
  | .integer => (Text.signed? 64 cs).isSome
  | .float => Text.isFloat cs

/-- Whether a value is one of the kind. -/
def accepts (kind : FieldKind) (value : String) : Bool :=
  let cs := Text.trimChars value.toList
  cs = notApplicable.toList || kind.hasForm cs

theorem accepts_notApplicable (kind : FieldKind) : kind.accepts notApplicable = true := by
  have h : Text.trimChars notApplicable.toList = notApplicable.toList := by decide
  simp [accepts, h]

end FieldKind

end Depository
