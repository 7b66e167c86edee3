import Depository.Json.Value
import Depository.Text.Numeral

/-!
# Reading JSON text

The strict grammar: one value with nothing but white space around it, no control characters in
texts, no lone surrogates, at most 127 levels, and no number beyond the range of a double. Of
members with one name the last counts.
-/

namespace Depository.Json

private def isSpace (c : Char) : Bool := c = ' ' || c = '\n' || c = '\t' || c = '\r'

private def skip (cs : List Char) : List Char := cs.dropWhile isSpace

private def hexUnit? : List Char → Option (Nat × List Char)
  | a :: b :: c :: d :: rest => do
    let a ← Text.hexValue? a
    let b ← Text.hexValue? b
    let c ← Text.hexValue? c
    let d ← Text.hexValue? d
    some (((a * 16 + b) * 16 + c) * 16 + d, rest)
  | _ => none

/-- The character of an escape, after its backslash. -/
private def escape? : List Char → Option (Char × List Char)
  | '"' :: rest => some ('"', rest)
  | '\\' :: rest => some ('\\', rest)
  | '/' :: rest => some ('/', rest)
  | 'b' :: rest => some (Char.ofNat 8, rest)
  | 'f' :: rest => some (Char.ofNat 12, rest)
  | 'n' :: rest => some ('\n', rest)
  | 'r' :: rest => some ('\r', rest)
  | 't' :: rest => some ('\t', rest)
  | 'u' :: rest => do
    let (unit, rest) ← hexUnit? rest
    if 0xd800 ≤ unit ∧ unit < 0xdc00 then
      match rest with
      | '\\' :: 'u' :: rest =>
        let (low, rest) ← hexUnit? rest
        if 0xdc00 ≤ low ∧ low < 0xe000 then
          some (Char.ofNat (0x10000 + (unit - 0xd800) * 0x400 + (low - 0xdc00)), rest)
        else none
      | _ => none
    else if 0xdc00 ≤ unit ∧ unit < 0xe000 then none
    else some (Char.ofNat unit, rest)
  | _ => none

/-- The rest of a text after its opening quote; the characters read so far stand in reverse. -/
private def textBody : Nat → List Char → List Char → Option (String × List Char)
  | 0, _, _ => none
  | _ + 1, _, [] => none
  | fuel + 1, read, c :: rest =>
    if c = '"' then some (String.ofList read.reverse, rest)
    else if c = '\\' then
      match escape? rest with
      | some (d, rest) => textBody fuel (d :: read) rest
      | none => none
    else if c.toNat < 32 then none
    else textBody fuel (c :: read) rest

private def text? (cs : List Char) : Option (String × List Char) :=
  textBody (cs.length + 1) [] cs

/-- An exponent after its letter. -/
private def exponent? (cs : List Char) : Option (Int × List Char) :=
  let (sign, cs) : Int × List Char := match cs with
    | '+' :: rest => (1, rest)
    | '-' :: rest => (-1, rest)
    | _ => (1, cs)
  let digits := cs.takeWhile Text.isDigit
  (Text.digits? digits).map fun n => (sign * n, cs.dropWhile Text.isDigit)

/-- A number: a whole number within 64 bits other than minus zero is kept as such. -/
private def number? (cs : List Char) : Option (Json × List Char) := do
  let (negative, body) := match cs with
    | '-' :: rest => (true, rest)
    | _ => (false, cs)
  let whole := body.takeWhile Text.isDigit
  let n ← Text.digits? whole
  if 1 < whole.length ∧ whole.head? = some '0' then none
  else
    let rest := body.dropWhile Text.isDigit
    let (fraction, rest) ← match rest with
      | '.' :: rest =>
        let digits := rest.takeWhile Text.isDigit
        if digits.isEmpty then none else some (digits, rest.dropWhile Text.isDigit)
      | _ => some ([], rest)
    let (exponent, rest) ← match rest with
      | c :: tail =>
        if c = 'e' ∨ c = 'E' then (exponent? tail).map fun (e, rest) => (some e, rest)
        else some (none, rest)
      | [] => some (none, rest)
    let isWhole := fraction.isEmpty && exponent.isNone
    if isWhole ∧ ¬negative ∧ Text.fitsUnsigned 64 n then some (.int n, rest)
    else if isWhole ∧ negative ∧ 0 < n ∧ Text.fitsSigned 64 (-(n : Int)) then some (.int (-(n : Int)), rest)
    else
      let digits ← Text.digits? (whole ++ fraction)
      if Text.fitsDouble digits (exponent.getD 0 - fraction.length) then
        some (.real (String.ofList (cs.take (cs.length - rest.length))), rest)
      else none

/-- The text after a given word. -/
private def word? (word : String) (value : Json) (cs : List Char) : Option (Json × List Char) :=
  if word.toList.isPrefixOf cs then some (value, cs.drop word.length) else none

mutual

/-- A value at the start of a text that has no white space before it. -/
private def value? : Nat → Nat → List Char → Option (Json × List Char)
  | 0, _, _ => none
  | _ + 1, _, [] => none
  | fuel + 1, levels, c :: rest =>
    if c = '"' then (text? rest).map fun (s, rest) => (.str s, rest)
    else if c = '[' then
      if levels = 0 then none
      else match skip rest with
        | ']' :: rest => some (.arr [], rest)
        | rest => (items? fuel (levels - 1) [] rest).map fun (items, rest) => (.arr items, rest)
    else if c = '{' then
      if levels = 0 then none
      else match skip rest with
        | '}' :: rest => some (.obj [], rest)
        | rest =>
          (members? fuel (levels - 1) [] rest).map fun (members, rest) => (.obj members, rest)
    else if c = 'n' then word? "null" .null (c :: rest)
    else if c = 't' then word? "true" (.bool true) (c :: rest)
    else if c = 'f' then word? "false" (.bool false) (c :: rest)
    else number? (c :: rest)

/-- The items of an array up to its closing bracket; those read so far stand in reverse. -/
private def items? : Nat → Nat → List Json → List Char → Option (List Json × List Char)
  | 0, _, _, _ => none
  | fuel + 1, levels, read, cs =>
    match value? fuel levels cs with
    | none => none
    | some (item, rest) =>
      match skip rest with
      | ',' :: rest => items? fuel levels (item :: read) (skip rest)
      | ']' :: rest => some ((item :: read).reverse, rest)
      | _ => none

/-- The members of an object up to its closing brace, in the order of their names. -/
private def members? :
    Nat → Nat → List (String × Json) → List Char → Option (List (String × Json) × List Char)
  | 0, _, _, _ => none
  | fuel + 1, levels, read, cs =>
    match cs with
    | '"' :: rest =>
      match text? rest with
      | none => none
      | some (name, rest) =>
        match skip rest with
        | ':' :: rest =>
          match value? fuel levels (skip rest) with
          | none => none
          | some (value, rest) =>
            let read := putMember name value read
            match skip rest with
            | ',' :: rest => members? fuel levels read (skip rest)
            | '}' :: rest => some (read, rest)
            | _ => none
        | _ => none
    | _ => none

end

/-- The value that a whole text stands for. -/
def ofText (s : String) : Option Json := do
  let cs := s.toList
  let (value, rest) ← value? (2 * cs.length + 2) 127 (skip cs)
  if (skip rest).isEmpty then some value else none

end Depository.Json
