import Depository.Text.CaseTable

/-!
# Capital and small letters

The full case mappings of Unicode: one character may become several, and a capital sigma at the
end of a word becomes the final form of the small letter.
-/

namespace Depository.Text

def CaseRun.covers (r : CaseRun) (n : Nat) : Bool :=
  r.first ≤ n && n ≤ r.last && (n - r.first) % r.step == 0

private def mapChar (runs : List CaseRun) (expansions : List (Nat × List Nat)) (c : Char) :
    List Char :=
  let n := c.toNat
  if n < 0x41 then [c]
  else match expansions.find? (·.1 == n) with
    | some (_, parts) => parts.map Char.ofNat
    | none => match runs.find? (·.covers n) with
      | some r => [Char.ofNat ((n : Int) + r.shift).toNat]
      | none => [c]

/-- The capital form of one character. -/
def upperChar (c : Char) : List Char := mapChar upperRuns upperExpansions c

/-- The small form of one character, a sigma taken as not final. -/
def lowerChar (c : Char) : List Char := mapChar lowerRuns lowerExpansions c

private def inRanges (ranges : List (Nat × Nat)) (c : Char) : Bool :=
  ranges.any fun (lo, hi) => lo ≤ c.toNat && c.toNat ≤ hi

def isCased (c : Char) : Bool := inRanges casedRanges c

def isCaseIgnorable (c : Char) : Bool := inRanges caseIgnorableRanges c

/-- Whether a cased letter comes first once the characters without case are passed over. -/
private def startsCased (cs : List Char) : Bool :=
  match cs.dropWhile isCaseIgnorable with
  | [] => false
  | c :: _ => isCased c

/-- The small form of a text; `before` holds the characters already passed, nearest first. -/
private def lowerFrom (before : List Char) : List Char → List Char
  | [] => []
  | c :: rest =>
    let mapped :=
      if c == 'Σ' then
        if startsCased before && !startsCased rest then ['ς'] else ['σ']
      else lowerChar c
    mapped ++ lowerFrom (c :: before) rest

/-- A text in capital letters. -/
def upper (s : String) : String := String.ofList (s.toList.flatMap upperChar)

/-- A text in small letters. -/
def lower (s : String) : String := String.ofList (lowerFrom [] s.toList)

end Depository.Text
