/-!
# Punycode

The reading of labels that spell characters outside ASCII with letters, digits and hyphens:
each number tells how far to move on and which character to insert there.
-/

namespace Depository.Web.Punycode

private def digit? (c : Char) : Option Nat :=
  if 'a' ≤ c && c ≤ 'z' then some (c.toNat - 97)
  else if 'A' ≤ c && c ≤ 'Z' then some (c.toNat - 65)
  else if '0' ≤ c && c ≤ '9' then some (c.toNat - 48 + 26)
  else none

/-- The digit value below which a number ends, at the digit of the given position. -/
private def threshold (position bias : Nat) : Nat :=
  if position ≤ bias then 1 else if bias + 26 ≤ position then 26 else position - bias

private def shrink (delta k : Nat) : Nat × Nat :=
  if 455 < delta then shrink (delta / 35) (k + 36) else (delta, k)
termination_by delta
decreasing_by omega

/-- The bias after a number, from its value and the count of characters so far. -/
private def adapt (delta count : Nat) (first : Bool) : Nat :=
  let delta := if first then delta / 700 else delta / 2
  let (delta, k) := shrink (delta + delta / count) 0
  k + 36 * delta / (delta + 38)

/-- What has been read: the characters, the last one inserted, the place after it, and the
number that is being read. -/
private structure Progress where
  output : List Char
  last : Nat
  place : Nat
  bias : Nat
  value : Nat
  weight : Nat
  position : Nat

private def Progress.insert? (p : Progress) (value : Nat) : Option Progress :=
  let count := p.output.length + 1
  let moved := p.place + value
  let code := p.last + moved / count
  let place := moved % count
  if code.isValidChar then
    some {
      output := p.output.take place ++ Char.ofNat code :: p.output.drop place
      last := code
      place := place + 1
      bias := adapt value count (p.place == 0)
      value := 0
      weight := 1
      position := 36 }
  else none

private def readDigits (p : Progress) : List Char → Option (List Char)
  | [] => if p.position = 36 then some p.output else none
  | c :: rest =>
    match digit? c with
    | none => none
    | some d =>
      let t := threshold p.position p.bias
      let value := p.value + d * p.weight
      if d < t then
        match p.insert? value with
        | some p => readDigits p rest
        | none => none
      else
        readDigits { p with value, weight := p.weight * (36 - t), position := p.position + 36 } rest

/-- The characters that a label spells, without its mark `xn--`. -/
def decode? (label : List Char) : Option (List Char) :=
  let tail := (label.reverse.takeWhile (· ≠ '-')).reverse
  let basic := label.take (label.length - tail.length - 1)
  let tail := if basic.isEmpty then label else tail
  readDigits ⟨basic, 128, 0, 72, 0, 1, 36⟩ tail

end Depository.Web.Punycode
