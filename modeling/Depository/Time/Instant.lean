import Depository.Time.Calendar

/-!
# Instants

Points in universal time to the nanosecond, with their order and the text of RFC 3339. A second
may be the sixtieth, which is a leap second and lies before the next minute.
-/

namespace Depository.Time

/-- A point in universal time. -/
structure Instant where
  date : Date
  hour : Fin 24
  minute : Fin 60
  second : Fin 61
  nanosecond : Fin 1000000000
  deriving DecidableEq

/-- Instants are ordered as these numbers are. -/
def Instant.rank (t : Instant) : Int :=
  (((((t.date.year * 13 + t.date.month) * 32 + t.date.day) * 24 + t.hour.val) * 60 +
    t.minute.val) * 61 + t.second.val) * 1000000000 + t.nanosecond.val

instance : LT Instant := ⟨fun a b => a.rank < b.rank⟩

instance : LE Instant := ⟨fun a b => a.rank ≤ b.rank⟩

instance (a b : Instant) : Decidable (a < b) := inferInstanceAs (Decidable (a.rank < b.rank))

instance (a b : Instant) : Decidable (a ≤ b) := inferInstanceAs (Decidable (a.rank ≤ b.rank))

/-- The first instant of 1970. -/
def Instant.epoch : Instant := ⟨⟨1970, 1, 1, by decide⟩, 0, 0, 0, 0⟩

/-- The fraction of a second with no, three, six or nine digits, whichever is exact first. -/
def fractionText (nanos : Nat) : String :=
  if nanos = 0 then ""
  else if nanos % 1000000 = 0 then "." ++ Text.padded 3 (nanos / 1000000)
  else if nanos % 1000 = 0 then "." ++ Text.padded 6 (nanos / 1000)
  else "." ++ Text.padded 9 nanos

def Instant.clockText (t : Instant) : String :=
  Text.padded 2 t.hour.val ++ ":" ++ Text.padded 2 t.minute.val ++ ":" ++
    Text.padded 2 t.second.val

/-- The text of RFC 3339 in universal time. -/
def Instant.text (t : Instant) : String :=
  t.date.text ++ "T" ++ t.clockText ++ fractionText t.nanosecond.val ++ "Z"

/-- The same instant from local parts and the minutes that local time is ahead. -/
def Instant.ofLocal? (date : Date) (hour minute : Nat) (second : Fin 61)
    (nanosecond : Fin 1000000000) (ahead : Int) : Option Instant := do
  let minutes : Int := hour * 60 + minute - ahead
  let date ←
    if minutes < 0 then date.previous?
    else if 1440 ≤ minutes then date.next?
    else some date
  let minuteOfDay := (minutes % 1440).toNat
  return ⟨date, Fin.ofNat 24 (minuteOfDay / 60), Fin.ofNat 60 (minuteOfDay % 60), second,
    nanosecond⟩

/-- A fraction of a second after its point: digits after the ninth are passed over. -/
def fraction? (cs : List Char) : Option (Nat × List Char) :=
  let digits := cs.takeWhile Text.isDigit
  let kept := digits.take 9
  (Text.digits? kept).map fun n => (n * Nat.pow 10 (9 - kept.length), cs.drop digits.length)

/-- A difference from universal time, in minutes: the letter Z, or a sign, two digits for the
hours and two for the minutes, with colons or blanks allowed between them. -/
def offset? : List Char → Option (Int × List Char)
  | [] => none
  | c :: rest =>
    if c = 'Z' ∨ c = 'z' then some (0, rest)
    else if c = '+' then signed rest fun n => n
    else if c = '-' ∨ c.toNat = 0x2212 then signed rest fun n => -n
    else none
where
  signed (cs : List Char) (f : Int → Int) : Option (Int × List Char) := do
    let (hours, cs) ← two? cs
    let cs := cs.dropWhile fun c => c = ':' || Text.isBlank c
    let (minutes, cs) ← two? cs
    if minutes < 60 then some (f (hours * 60 + minutes), cs) else none
  two? : List Char → Option (Nat × List Char)
    | a :: b :: rest => (Text.digits? [a, b]).map fun n => (n, rest)
    | _ => none

/-- The offset after the time of day: the letters UTC, or as `offset?` reads it. -/
def zone? (cs : List Char) : Option (Int × List Char) :=
  let cs := Text.trimStart cs
  if (cs.take 3).map Text.upperAscii = ['U', 'T', 'C'] then some (0, cs.drop 3) else offset? cs

/-- An instant in the form of RFC 3339. Blanks are allowed around the parts, and a blank in
place of the letter T. -/
def instantOfText? (text : String) : Option Instant := do
  let (year, cs) ← year? text.toList
  let cs ← literal? '-' (Text.trimStart cs)
  let (month, cs) ← number? 2 cs
  let cs ← literal? '-' (Text.trimStart cs)
  let (day, cs) ← number? 2 cs
  let cs ← match cs with
    | c :: rest => if c = 'T' ∨ c = 't' ∨ c = ' ' then some rest else none
    | [] => none
  let (hour, cs) ← number? 2 cs
  let cs ← literal? ':' (Text.trimStart cs)
  let (minute, cs) ← number? 2 cs
  let cs ← literal? ':' (Text.trimStart cs)
  let (second, cs) ← number? 2 cs
  let (nanos, cs) ← match cs with
    | '.' :: rest => fraction? rest
    | _ => some (0, cs)
  let (ahead, cs) ← zone? cs
  let date ← date? year month day
  if h : second < 61 ∧ nanos < 1000000000 then
    if hour < 24 ∧ minute < 60 ∧ ahead.natAbs < 1440 ∧ (Text.trimStart cs).isEmpty then
      Instant.ofLocal? date hour minute ⟨second, h.1⟩ ⟨nanos, h.2⟩ ahead
    else none
  else none

end Depository.Time
