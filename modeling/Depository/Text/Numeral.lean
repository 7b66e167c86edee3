import Depository.Text.Ascii

/-!
# Numbers as text

Which texts stand for numbers: decimal integers with an optional sign, and floating-point
numbers with the words for infinity and not-a-number. Only ASCII digits count, and nothing may
surround the number.
-/

namespace Depository.Text

/-- The value of decimal digits read after a value already read. -/
def digitsFrom (value : Nat) : List Char → Option Nat
  | [] => some value
  | c :: rest => if isDigit c then digitsFrom (value * 10 + (c.toNat - 48)) rest else none

/-- The value of a nonempty run of decimal digits. -/
def digits? : List Char → Option Nat
  | [] => none
  | cs => digitsFrom 0 cs

/-- A decimal integer with an optional sign. -/
def integer? : List Char → Option Int
  | '+' :: rest => (digits? rest).map Int.ofNat
  | '-' :: rest => (digits? rest).map fun n => -(n : Int)
  | cs => (digits? cs).map Int.ofNat

/-- Whether a number is a signed integer of the given number of bits. -/
def fitsSigned (bits : Nat) (n : Int) : Bool :=
  let half : Int := Nat.pow 2 (bits - 1)
  n < half && -half ≤ n

/-- Whether a number is an unsigned integer of the given number of bits. -/
def fitsUnsigned (bits : Nat) (n : Nat) : Bool := n < Nat.pow 2 bits

/-- A signed integer of the given number of bits. -/
def signed? (bits : Nat) (cs : List Char) : Option Int :=
  (integer? cs).filter (fitsSigned bits)

/-- An unsigned integer of the given number of bits; a plus sign is allowed, a minus is not. -/
def unsigned? (bits : Nat) (cs : List Char) : Option Nat :=
  let n := match cs with
    | '+' :: rest => digits? rest
    | _ => digits? cs
  n.filter (fitsUnsigned bits)

/-- Whether a text is one of the words for infinity or not-a-number, in any letter case. -/
private def isFloatWord (cs : List Char) : Bool :=
  ["inf", "infinity", "nan"].any fun w => w.toList == cs.map lowerAscii

/-- Whether a text is an exponent, or empty. -/
private def isExponent : List Char → Bool
  | [] => true
  | e :: rest =>
    (e == 'e' || e == 'E') &&
      match rest with
      | '+' :: ds => (digits? ds).isSome
      | '-' :: ds => (digits? ds).isSome
      | ds => (digits? ds).isSome

/-- A decimal number: digits with at most one point among them, at least one digit, and an
optional exponent. -/
private def isDecimal (cs : List Char) : Bool :=
  let whole := cs.takeWhile isDigit
  match cs.dropWhile isDigit with
  | '.' :: rest =>
    let fraction := rest.takeWhile isDigit
    !(whole.isEmpty && fraction.isEmpty) && isExponent (rest.dropWhile isDigit)
  | rest => !whole.isEmpty && isExponent rest

/-- Whether a text stands for a floating-point number. -/
def isFloat (cs : List Char) : Bool :=
  let body := match cs with
    | '+' :: rest => rest
    | '-' :: rest => rest
    | _ => cs
  isFloatWord body || isDecimal body

/-- The least number that no longer rounds to a double: half a step above the largest one. -/
def doubleBound : Nat := Nat.pow 2 970 * (Nat.pow 2 54 - 1)

/-- Whether `digits` times ten to the power `exponent` rounds to a double. -/
def fitsDouble (digits : Nat) (exponent : Int) : Bool :=
  if digits = 0 then true
  else
    let size : Int := (toString digits).length + exponent
    if size < 309 then true
    else if 309 < size then false
    else if 0 ≤ exponent then
      decide (digits * Nat.pow 10 exponent.toNat < doubleBound)
    else decide (digits < doubleBound * Nat.pow 10 (-exponent).toNat)

/-- The decimal digits of a number, padded with zeros to a width. -/
def padded (width : Nat) (n : Nat) : String :=
  let digits := toString n
  String.ofList (List.replicate (width - digits.length) '0') ++ digits

end Depository.Text
