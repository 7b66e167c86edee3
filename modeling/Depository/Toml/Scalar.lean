import Depository.Json.Value
import Depository.Text.Numeral
import Depository.Text.Scan
import Depository.Text.Split
import Depository.Time.Calendar

/-!
# Scalars of TOML

Texts in their four forms, numbers, truth values, and dates and times. A date or time is kept as
a table with one member, so that nothing takes it for a text.
-/

namespace Depository.Toml

open Text (Scan)
open Text.Scan (one char word span spanOne many covered)

def isSpace (c : Char) : Bool := c == ' ' || c == '\t'

def isBeyondAscii (c : Char) : Bool := 0x80 ≤ c.toNat

/-- Characters that may stand in a comment. -/
def isPrinted (c : Char) : Bool :=
  c == '\t' || (0x20 ≤ c.toNat && c.toNat ≤ 0x7e) || isBeyondAscii c

def spaces : Scan (List Char) := span isSpace

/-- A line break, which counts as a line feed. -/
def newline : Scan Char := do
  (char '\n' <|> word "\r\n")
  return '\n'

def newlineOrEnd : Scan Unit := fun cs =>
  match cs with
  | [] => some ((), [])
  | cs => (newline cs).map fun (_, rest) => ((), rest)

def comment : Scan Unit := do
  char '#'
  let _ ← span isPrinted

/-! ### Texts -/

/-- The character with a code point of so many hexadecimal digits. -/
def codePoint (digits : Nat) : Scan Char := fun cs => do
  let values ← (cs.take digits).mapM Text.hexValue?
  let n := values.foldl (fun n d => n * 16 + d) 0
  if values.length = digits ∧ n.isValidChar then some (Char.ofNat n, cs.drop digits) else none

/-- An escaped character. -/
def escape : Scan Char := do
  char '\\'
  match ← one fun _ => true with
  | 'b' => return Char.ofNat 8
  | 't' => return '\t'
  | 'n' => return '\n'
  | 'f' => return Char.ofNat 12
  | 'r' => return '\r'
  | '"' => return '"'
  | '\\' => return '\\'
  | 'u' => codePoint 4
  | 'U' => codePoint 8
  | _ => failure

/-- Characters that stand for themselves between quotation marks. -/
def isPlain (c : Char) : Bool := isPrinted c && c != '"' && c != '\\'

/-- Characters that stand for themselves between apostrophes. -/
def isLiteral (c : Char) : Bool := isPrinted c && c != '\''

def textOf (parts : List (List Char)) : String := String.ofList parts.flatten

/-- A text between quotation marks. -/
def basicText : Scan String := do
  char '"'
  let parts ← many (spanOne isPlain <|> (do return [← escape]))
  char '"'
  return textOf parts

/-- A text between apostrophes. -/
def literalText : Scan String := do
  char '\''
  let cs ← span isLiteral
  char '\''
  return String.ofList cs

/-- A backslash at the end of a line, which takes away all white space up to the next text. -/
def continuation : Scan (List Char) := do
  char '\\'
  let _ ← spaces
  let _ ← newline
  let _ ← many (spanOne isSpace <|> (do return [← newline]))
  return []

/-- A text of several lines between three marks on each side. One or two marks may stand in it,
also right before its end. A line break at its start does not count. -/
def longText (mark : Char) (part : Scan (List Char)) : Scan String := do
  let marks (n : Nat) : String := String.ofList (List.replicate n mark)
  word (marks 3)
  let _ ← Scan.optional newline
  let parts ← many (part <|> (do return [← newline]) <|> (do
    Scan.notAhead (word (marks 3))
    char mark
    return [mark]))
  let last ← (do word (marks 5); return [mark, mark]) <|> (do word (marks 4); return [mark]) <|>
    (do word (marks 3); return [])
  return textOf (parts ++ [last])

def text : Scan String :=
  longText '"' (spanOne isPlain <|> continuation <|> (do return [← escape])) <|> basicText <|>
    longText '\'' (spanOne isLiteral) <|> literalText

/-! ### Numbers -/

/-- Digits with single underscores allowed between them, without the underscores. -/
def digits (isDigit : Char → Bool) : Scan (List Char) := do
  let run ← spanOne fun c => isDigit c || c == '_'
  if (Text.splitAt '_' run).all fun group => !group.isEmpty then return run.filter (· != '_')
  else failure

/-- A number is within 64 bits with a sign. -/
def integer (n : Int) : Scan Json :=
  if Text.fitsSigned 64 n then return .int n else failure

/-- A whole number without a sign in the base that is written before it. -/
def basedInteger (mark : String) (base : Nat) : Scan Json := do
  word mark
  let isDigit (c : Char) : Bool := (Text.hexValue? c).any (· < base)
  let ds ← digits isDigit
  integer (ds.foldl (fun n c => n * base + (Text.hexValue? c).getD 0) 0 : Nat)

/-- A sign; true for a minus. -/
def sign : Scan Bool := do
  match ← Scan.optional (one fun c => c == '+' || c == '-') with
  | some c => return c == '-'
  | none => return false

/-- Decimal digits without needless zeros at their start. -/
def wholePart : Scan (List Char) := do
  let ds ← digits Text.isDigit
  if ds.length = 1 ∨ ds.head? ≠ some '0' then return ds else failure

def decimalInteger : Scan Json := do
  let negative ← sign
  let n ← (Text.digits? (← wholePart)).elim failure pure
  integer (if negative then -(n : Int) else n)

def exponent : Scan Int := do
  let _ ← one fun c => c == 'e' || c == 'E'
  let negative ← sign
  let n ← (Text.digits? (← digits Text.isDigit)).elim failure pure
  return if negative then -(n : Int) else n

/-- A number with a fraction, an exponent or both. One too large for a double is refused, unless
it is negative. -/
def decimal : Scan Json := do
  let negative ← sign
  let whole ← wholePart
  let fraction ← Scan.optional (do char '.'; digits Text.isDigit)
  let power ← Scan.optional exponent
  if fraction.isNone && power.isNone then failure
  let fraction := fraction.getD []
  let n ← (Text.digits? (whole ++ fraction)).elim failure pure
  if negative || Text.fitsDouble n (power.getD 0 - fraction.length) then
    return .real (String.ofList (whole ++ '.' :: fraction))
  else failure

/-- Infinity or not-a-number. -/
def unbounded : Scan Json := do
  let _ ← sign
  (word "inf" <|> word "nan")
  return .real ""

def number : Scan Json :=
  unbounded <|> decimal <|> basedInteger "0x" 16 <|> basedInteger "0o" 8 <|>
    basedInteger "0b" 2 <|> decimalInteger

/-! ### Dates and times -/

/-- A number of exactly so many digits within bounds. -/
def numberOf (width low high : Nat) : Scan Nat := fun cs => do
  let n ← Text.digits? (cs.take width)
  if (cs.take width).length = width ∧ low ≤ n ∧ n ≤ high then some (n, cs.drop width) else none

def date : Scan Unit := do
  let year ← numberOf 4 0 9999
  char '-'
  let month ← numberOf 2 1 12
  char '-'
  let _ ← numberOf 2 1 (Time.daysInMonth year month)

def timeOfDay : Scan Unit := do
  let _ ← numberOf 2 0 23
  char ':'
  let _ ← numberOf 2 0 59
  char ':'
  let _ ← numberOf 2 0 60
  let _ ← Scan.optional (do char '.'; spanOne Text.isDigit)

def zone : Scan Unit :=
  (do let _ ← one fun c => c == 'Z' || c == 'z') <|> (do
    let _ ← one fun c => c == '+' || c == '-'
    let _ ← numberOf 2 0 23
    char ':'
    let _ ← numberOf 2 0 59)

/-- A date, a time of day, or both with or without the difference from universal time. -/
def moment : Scan Json := do
  let cs ← covered ((do
    date
    let _ ← Scan.optional (do
      let _ ← one fun c => c == 'T' || c == 't' || c == ' '
      timeOfDay
      let _ ← Scan.optional zone)) <|> timeOfDay)
  return .obj [("moment", .str (String.ofList cs))]

def scalar : Scan Json :=
  (do return .str (← text)) <|> moment <|> number <|> (do word "true"; return .bool true) <|>
    (do word "false"; return .bool false)

end Depository.Toml
