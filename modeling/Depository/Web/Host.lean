import Depository.Text.Ascii
import Depository.Text.Numeral
import Depository.Text.Percent
import Depository.Text.Split
import Depository.Web.Domain

/-!
# Hosts

The host of a web address: an address of the sixth version of the internet protocol in brackets,
an address of the fourth version, or a domain name.
-/

namespace Depository.Web

private def value (base : Nat) (digits : List Char) : Nat :=
  digits.foldl (fun n c => n * base + (Text.hexValue? c).getD 0) 0

/-- A part of a numeric address: decimal, octal after a zero, hexadecimal after `0x`. -/
private def numericPart? (part : List Char) : Option Nat :=
  match part with
  | [] => none
  | '0' :: 'x' :: ds => hexadecimal ds
  | '0' :: 'X' :: ds => hexadecimal ds
  | '0' :: d :: ds =>
    if (d :: ds).all fun c => '0' ≤ c && c ≤ '7' then some (value 8 (d :: ds)) else none
  | ds => if ds.all Text.isDigit then some (value 10 ds) else none
where
  hexadecimal (ds : List Char) : Option Nat :=
    if ds.all fun c => (Text.hexValue? c).isSome then some (value 16 ds) else none

/-- The parts of a host between its points, a point at the end disregarded. -/
private def hostParts (host : List Char) : List (List Char) :=
  let parts := Text.splitAt '.' host
  if parts.getLast? = some [] then parts.dropLast else parts

/-- Whether the last part of a host is a number, which makes the host a numeric address. -/
def endsInNumber (host : List Char) : Bool :=
  match (hostParts host).getLast? with
  | none => false
  | some last => (!last.isEmpty && last.all Text.isDigit) || (numericPart? last).isSome

/-- At most four numbers; all but the last below 256, the last filling the remaining bytes. -/
def isNumericAddress (host : List Char) : Bool :=
  let parts := hostParts host
  match parts.mapM numericPart? with
  | none => false
  | some numbers =>
    numbers.length ≤ 4 && numbers.dropLast.all (· < 256) &&
      numbers.getLast?.any fun n => n < Nat.pow 256 (5 - numbers.length)

private def isGroup (part : List Char) : Bool :=
  !part.isEmpty && part.length ≤ 4 && part.all fun c => (Text.hexValue? c).isSome

/-- Four decimal numbers below 256 without leading zeros. -/
def isDottedQuad (part : List Char) : Bool :=
  let parts := Text.splitAt '.' part
  parts.length = 4 && parts.all fun p =>
    (Text.digits? p).any (· < 256) && (p.length = 1 || p.head? ≠ some '0')

/-- The number of 16-bit groups in a text of groups with colons between them; the last may be
four decimal numbers, which count as two groups. -/
private def groupCount? (cs : List Char) : Option Nat :=
  if cs.isEmpty then some 0
  else
    let parts := Text.splitAt ':' cs
    if parts.all isGroup then some parts.length
    else if parts.dropLast.all isGroup && parts.getLast?.any isDottedQuad then
      some (parts.length + 1)
    else none

/-- The texts before and after the first pair of colons. -/
private def cutAtPair : List Char → Option (List Char × List Char)
  | ':' :: ':' :: rest => some ([], rest)
  | c :: rest => (cutAtPair rest).map fun (before, after) => (c :: before, after)
  | [] => none

/-- Eight groups, or fewer with one pair of colons in place of those left out. -/
def isGroupedAddress (cs : List Char) : Bool :=
  match cutAtPair cs with
  | none => groupCount? cs = some 8
  | some (before, after) =>
    match groupCount? before, groupCount? after with
    | some n, some m => n + m ≤ 7 && !before.contains '.'
    | _, _ => false

/-- Whether a text is a host that a web address may name. -/
def isHost (host : List Char) : Bool :=
  match host with
  | [] => false
  | '[' :: rest => rest.getLast? = some ']' && isGroupedAddress rest.dropLast
  | _ =>
    match Text.percentDecoded? (String.ofList host) with
    | none => false
    | some name =>
      match domain? name.toList with
      | none => false
      | some domain =>
        !domain.isEmpty && (!endsInNumber domain || isNumericAddress domain)

end Depository.Web
