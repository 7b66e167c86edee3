import Depository.Web.Host

/-!
# Web addresses

Which texts are absolute addresses of the schemes `http` and `https` with a host. Tabs and line
breaks are disregarded, a backslash counts as a slash, and the slashes after the scheme may be
left out or repeated.
-/

namespace Depository.Web

private def isSlash (c : Char) : Bool := c = '/' || c = '\\'

private def endsAuthority (c : Char) : Bool := isSlash c || c = '?' || c = '#'

/-- The text between the first and last characters that are neither spaces nor controls, tabs
and line breaks left out. -/
private def cleaned (cs : List Char) : List Char :=
  let low (c : Char) : Bool := c.toNat ≤ 32
  let inner := ((cs.dropWhile low).reverse.dropWhile low).reverse
  inner.filter fun c => !(c = '\t' || c = '\n' || c = '\r')

private def isSchemeChar (c : Char) : Bool :=
  Text.isAlphanumeric c || c = '+' || c = '-' || c = '.'

/-- The scheme in small letters, and the text after its colon. -/
private def scheme? (cs : List Char) : Option (List Char × List Char) :=
  match Text.cutAt ':' cs with
  | none => none
  | some (scheme, rest) =>
    if scheme.head?.any Text.isLetter && scheme.all isSchemeChar then
      some (scheme.map Text.lowerAscii, rest)
    else none

/-- The end of a text after its last at sign; the whole text without one. -/
private def afterLastAt (cs : List Char) : List Char := (cs.reverse.takeWhile (· ≠ '@')).reverse

/-- The host of an authority, and the text from the colon that ends it. -/
private def hostAndPort (inBrackets : Bool) : List Char → List Char × List Char
  | [] => ([], [])
  | c :: rest =>
    if c = ':' ∧ !inBrackets then ([], c :: rest)
    else
      let inside := if c = '[' then true else if c = ']' then false else inBrackets
      let (host, port) := hostAndPort inside rest
      (c :: host, port)

/-- A port is empty or a number of 16 bits. -/
private def isPort (digits : List Char) : Bool :=
  digits.isEmpty || (Text.digits? digits).any (· < 65536)

/-- Whether a text is an absolute address of a web page. -/
def isWebAddress (cs : List Char) : Bool :=
  match scheme? (cleaned cs) with
  | none => false
  | some (scheme, rest) =>
    let authority := (rest.dropWhile isSlash).takeWhile fun c => !endsAuthority c
    let (host, port) := hostAndPort false (afterLastAt authority)
    (scheme = "http".toList || scheme = "https".toList) && isHost host && isPort (port.drop 1)

end Depository.Web
