import Depository.Text.Ascii

/-!
# Universally unique identifiers

Numbers of 128 bits, their canonical text, and the four written forms that are read.
-/

namespace Depository

/-- A number of 128 bits that names an entity. -/
structure Uuid where
  bits : BitVec 128
  deriving DecidableEq

namespace Uuid

instance : Inhabited Uuid := ⟨⟨0⟩⟩

/-- The lowest `count` hexadecimal digits of a number, highest first. -/
def hexDigits : Nat → Nat → List Char
  | 0, _ => []
  | count + 1, n => hexDigits count (n / 16) ++ [Text.hexDigit (n % 16)]

/-- The number that hexadecimal digits stand for, after a value already read. -/
def ofHexDigits (value : Nat) : List Char → Option Nat
  | [] => some value
  | c :: rest =>
    match Text.hexValue? c with
    | some d => ofHexDigits (value * 16 + d) rest
    | none => none

/-- Digits in groups of 8, 4, 4, 4 and 12 with hyphens between them. -/
def hyphenated (digits : List Char) : List Char :=
  digits.take 8 ++ '-' :: (digits.drop 8).take 4 ++ '-' :: (digits.drop 12).take 4 ++
    '-' :: (digits.drop 16).take 4 ++ '-' :: digits.drop 20

/-- The canonical text: small hexadecimal digits in hyphenated groups. -/
def text (id : Uuid) : String := String.ofList (hyphenated (hexDigits 32 id.bits.toNat))

/-- The number of exactly 32 hexadecimal digits. -/
def ofSimple? (cs : List Char) : Option Uuid :=
  if cs.length = 32 then (ofHexDigits 0 cs).map fun n => ⟨.ofNat 128 n⟩ else none

/-- The number of 32 hexadecimal digits in hyphenated groups. -/
def ofHyphenated? (cs : List Char) : Option Uuid :=
  let digits := cs.take 8 ++ (cs.drop 9).take 4 ++ (cs.drop 14).take 4 ++ (cs.drop 19).take 4 ++
    cs.drop 24
  if cs.length = 36 ∧ hyphenated digits = cs then ofSimple? digits else none

/-- Reads 32 digits, hyphenated groups, hyphenated groups in braces, or hyphenated groups
after `urn:uuid:`; letters of either case. -/
def ofText? (s : String) : Option Uuid :=
  let cs := s.toList
  if cs.length = 32 then ofSimple? cs
  else if cs.length = 36 then ofHyphenated? cs
  else if cs.length = 38 then
    if cs.head? = some '{' ∧ cs.getLast? = some '}' then ofHyphenated? (cs.drop 1).dropLast
    else none
  else if (cs.take 9).map Text.lowerAscii = "urn:uuid:".toList then ofHyphenated? (cs.drop 9)
  else none

end Uuid

end Depository
