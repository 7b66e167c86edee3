import Depository.Text.Ascii

/-!
# Percent encoding

A percent sign with two hexadecimal digits stands for one byte. A percent sign without them
stands for itself.
-/

namespace Depository.Text

/-- The bytes of a text with each percent sign and its two digits read as one byte. -/
def percentDecodedBytes : List UInt8 → List UInt8
  | [] => []
  | 37 :: a :: b :: rest =>
    match hexValue? (Char.ofNat a.toNat), hexValue? (Char.ofNat b.toNat) with
    | some x, some y => (16 * x + y).toUInt8 :: percentDecodedBytes rest
    | _, _ => 37 :: percentDecodedBytes (a :: b :: rest)
  | a :: rest => a :: percentDecodedBytes rest

/-- The text that a percent-encoded text stands for, if its bytes are a text at all. -/
def percentDecoded? (s : String) : Option String :=
  String.fromUTF8? (percentDecodedBytes s.toUTF8.toList).toByteArray

end Depository.Text
