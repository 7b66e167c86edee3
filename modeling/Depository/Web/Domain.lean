import Depository.Text.Ascii
import Depository.Text.Split
import Depository.Web.DomainTable
import Depository.Web.Punycode
import Depository.Web.ReplacementTable

/-!
# Domain names

Domain names in any script, reduced to the characters that decide how they are read. A name is
refused if a label holds a character that no domain may hold, begins with a combining mark,
spells its characters wrongly, or mixes the directions of writing.
-/

namespace Depository.Web

private def within (ranges : List (Nat × Nat)) (n : Nat) : Bool :=
  ranges.any fun (lo, hi) => lo ≤ n && n ≤ hi

/-- The characters that a character of a domain name stands for; none if it is not allowed. -/
private def mapped? (c : Char) : Option (List Char) :=
  let n := c.toNat
  if n < 128 then some [Text.lowerAscii c]
  else if within disallowedRanges n || within spoiltRanges n then none
  else if within ignoredRanges n then some []
  else match replacedTexts.find? fun (m, _) => m == n with
    | some (_, text) => some text.toList
    | none =>
      match replacedRuns.find? fun (lo, hi, _) => lo ≤ n && n ≤ hi with
      | some (lo, _, start) => some [Char.ofNat (start + (n - lo))]
      | none => some [c]

/-- ASCII characters that no domain name may hold. -/
private def isForbidden (c : Char) : Bool :=
  c.toNat ≤ 32 || c.toNat = 127 || "%#/:<>?@[\\]^|".toList.contains c

private def direction (c : Char) : Direction :=
  match directionRanges.find? fun (lo, hi, _) => lo ≤ c.toNat && c.toNat ≤ hi with
  | some (_, _, d) => d
  | none => .l

/-- The directions of a label without the marks at its end, last first. -/
private def withoutMarks (ds : List Direction) : List Direction := ds.reverse.dropWhile (· = .nsm)

/-- Whether a label may stand in a name that has characters running from right to left. -/
private def directionsAgree (label : List Char) : Bool :=
  match label.map direction with
  | [] => true
  | first :: rest =>
    let ds := first :: rest
    let ending := (withoutMarks ds).head?
    if first = .r ∨ first = .al then
      ds.all (· ≠ .l) && (ending.any fun d => d = .r || d = .al || d = .en || d = .an) &&
        !(ds.contains .en && ds.contains .an)
    else if first = .l then
      ds.all (fun d => d ≠ .r && d ≠ .al && d ≠ .an) &&
        (ending.any fun d => d = .l || d = .en)
    else false

private def isRightToLeft (label : List Char) : Bool :=
  label.any fun c => let d := direction c; d = .r || d = .al || d = .an

/-- The first character that is not a mark belongs to the given letters. -/
private def nextAmong (ranges : List (Nat × Nat)) (cs : List Char) : Bool :=
  (cs.dropWhile fun c => direction c = .nsm).head?.any fun c => within ranges c.toNat

/-- A joiner stands only after a sign that suppresses a vowel; one that keeps letters apart also
between letters that would join. `before` holds the characters already passed, nearest first. -/
private def joinersAllowed (before : List Char) : List Char → Bool
  | [] => true
  | c :: rest =>
    let afterVirama := before.head?.any fun b => within viramaRanges b.toNat
    let here :=
      if c.toNat = 0x200d then afterVirama
      else if c.toNat = 0x200c then
        afterVirama || nextAmong joinsAfterRanges before && nextAmong joinsBeforeRanges rest
      else true
    here && joinersAllowed (c :: before) rest

private def startsWithMark (label : List Char) : Bool :=
  label.head?.any fun c => within markRanges c.toNat

/-- The label that a mapped label spells. -/
private def spelled? (label : List Char) : Option (List Char) :=
  match Text.after? "xn--".toList label with
  | none => some label
  | some rest =>
    match Punycode.decode? rest with
    | none => none
    | some cs =>
      if cs.all (·.toNat < 128) || cs.any (fun c => within unstableRanges c.toNat) ||
          cs.any Text.isUpper then none
      else some cs

/-- A domain name with its labels in mapped form, if the name is allowed. -/
def domain? (name : List Char) : Option (List Char) := do
  let cs := (← name.mapM mapped?).flatten
  let labels := Text.splitAt '.' cs
  let spelled ← labels.mapM spelled?
  if spelled.any (·.any isForbidden) || spelled.any startsWithMark ||
      !spelled.all (joinersAllowed []) then none
  else if spelled.any isRightToLeft && !spelled.all directionsAgree then none
  else some cs

end Depository.Web
