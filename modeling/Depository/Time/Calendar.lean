import Depository.Text.Blank
import Depository.Text.Numeral

/-!
# Calendar dates

Days of the Gregorian calendar, extended to all years, with their successors and predecessors,
and the reader of dates written as year, month and day.
-/

namespace Depository.Time

def isLeapYear (year : Int) : Bool :=
  year % 4 == 0 && (year % 100 != 0 || year % 400 == 0)

def daysInMonth (year : Int) (month : Nat) : Nat :=
  if month = 2 then (if isLeapYear year then 29 else 28)
  else if month = 4 ∨ month = 6 ∨ month = 9 ∨ month = 11 then 30
  else 31

/-- The years that a date may lie in. -/
def firstYear : Int := -262143

def lastYear : Int := 262142

/-- The month exists and has the day, in a year within the range. -/
def isDate (year : Int) (month day : Nat) : Bool :=
  firstYear ≤ year && year ≤ lastYear && 1 ≤ month && month ≤ 12 && 1 ≤ day &&
    day ≤ daysInMonth year month

/-- A day of the calendar. -/
structure Date where
  year : Int
  month : Nat
  day : Nat
  exists_day : isDate year month day = true
  deriving DecidableEq

/-- The date with these parts, if there is such a day. -/
def date? (year : Int) (month day : Nat) : Option Date :=
  if h : isDate year month day = true then some ⟨year, month, day, h⟩ else none

/-- The following day; none after the last year. -/
def Date.next? (d : Date) : Option Date :=
  if d.day < daysInMonth d.year d.month then date? d.year d.month (d.day + 1)
  else if d.month < 12 then date? d.year (d.month + 1) 1
  else date? (d.year + 1) 1 1

/-- The preceding day; none before the first year. -/
def Date.previous? (d : Date) : Option Date :=
  if 1 < d.day then date? d.year d.month (d.day - 1)
  else if 1 < d.month then date? d.year (d.month - 1) (daysInMonth d.year (d.month - 1))
  else date? (d.year - 1) 12 31

/-- Up to `limit` digits at the start of a text, blanks before them passed over; at least one
digit is needed. -/
def number? (limit : Nat) (cs : List Char) : Option (Nat × List Char) :=
  let cs := Text.trimStart cs
  let digits := (cs.take limit).takeWhile Text.isDigit
  (Text.digits? digits).map fun n => (n, cs.drop digits.length)

/-- A year at the start of a text: at most four digits, or a sign and any number of them. -/
def year? (cs : List Char) : Option (Int × List Char) :=
  match Text.trimStart cs with
  | '-' :: rest => signed rest fun n => -(n : Int)
  | '+' :: rest => signed rest Int.ofNat
  | rest => (number? 4 rest).map fun (n, rest) => (Int.ofNat n, rest)
where
  signed (rest : List Char) (f : Nat → Int) : Option (Int × List Char) :=
    let digits := rest.takeWhile Text.isDigit
    (Text.digits? digits).map fun n => (f n, rest.drop digits.length)

/-- The text after one given character. -/
def literal? (c : Char) : List Char → Option (List Char)
  | [] => none
  | d :: rest => if d = c then some rest else none

/-- A whole text that is a date: year, month and day with hyphens between them. -/
def dateOfText? (cs : List Char) : Option Date := do
  let (year, cs) ← year? cs
  let cs ← literal? '-' cs
  let (month, cs) ← number? 2 cs
  let cs ← literal? '-' cs
  let (day, cs) ← number? 2 cs
  if cs.isEmpty then date? year month day else none

/-- Years 0 to 9999 have four digits, all others a sign as well. -/
def yearText (year : Int) : String :=
  if 0 ≤ year ∧ year ≤ 9999 then Text.padded 4 year.toNat
  else (if year < 0 then "-" else "+") ++ Text.padded 4 year.natAbs

def Date.text (d : Date) : String :=
  yearText d.year ++ "-" ++ Text.padded 2 d.month ++ "-" ++ Text.padded 2 d.day

end Depository.Time
