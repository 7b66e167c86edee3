/-!
# Blank characters

The Unicode property White_Space, and trimming by it. Every rule of the repository that asks
whether a text is blank, or ignores the space around it, means this set.
-/

namespace Depository.Text

/-- The characters with the property White_Space. -/
def isBlank (c : Char) : Bool :=
  let n := c.toNat
  (0x09 ≤ n && n ≤ 0x0d) || n == 0x20 || n == 0x85 || n == 0xa0 || n == 0x1680 ||
    (0x2000 ≤ n && n ≤ 0x200a) || n == 0x2028 || n == 0x2029 || n == 0x202f || n == 0x205f ||
    n == 0x3000

/-- The text without the blank characters at its start. -/
def trimStart (cs : List Char) : List Char := cs.dropWhile isBlank

/-- The text without the blank characters at its end. -/
def trimEnd (cs : List Char) : List Char := (cs.reverse.dropWhile isBlank).reverse

/-- The text without the blank characters at both ends. -/
def trimChars (cs : List Char) : List Char := trimEnd (trimStart cs)

/-- The text without the blank characters at both ends. -/
def trim (s : String) : String := String.ofList (trimChars s.toList)

/-- A text is blank when it holds nothing but blank characters. -/
def isBlankText (s : String) : Bool := s.toList.all isBlank

private theorem dropWhile_eq_nil {p : Char → Bool} {cs : List Char} :
    cs.dropWhile p = [] ↔ cs.all p := by
  induction cs with
  | nil => simp
  | cons c rest ih => by_cases h : p c <;> simp [h, ih]

private theorem all_dropWhile {p : Char → Bool} {cs : List Char} :
    (cs.dropWhile p).all p = cs.all p := by
  induction cs with
  | nil => rfl
  | cons c rest ih => by_cases h : p c <;> simp_all

/-- Trimming empties exactly the blank texts. -/
theorem trimChars_eq_nil_iff {cs : List Char} : trimChars cs = [] ↔ cs.all isBlank := by
  rw [trimChars, trimEnd, List.reverse_eq_nil_iff, dropWhile_eq_nil, List.all_reverse, trimStart,
    all_dropWhile]

end Depository.Text
