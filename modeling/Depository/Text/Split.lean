/-!
# Cutting and joining texts

Texts are cut at single characters. A cut at the first occurrence loses nothing: both parts
and the separator give the text back.
-/

namespace Depository.Text

/-- The parts before and after the first occurrence of a character. -/
def cutAt (sep : Char) : List Char → Option (List Char × List Char)
  | [] => none
  | c :: rest =>
    if c = sep then some ([], rest)
    else (cutAt sep rest).map fun (before, after) => (c :: before, after)

/-- The parts of a text before and after the first occurrence of a character. -/
def cut? (sep : Char) (s : String) : Option (String × String) :=
  (cutAt sep s.toList).map fun (before, after) => (String.ofList before, String.ofList after)

/-- All parts between the occurrences of a character; one more than there are occurrences. -/
def splitAt (sep : Char) : List Char → List (List Char)
  | [] => [[]]
  | c :: rest =>
    if c = sep then [] :: splitAt sep rest
    else match splitAt sep rest with
      | [] => [[c]]
      | part :: parts => (c :: part) :: parts

/-- All parts of a text between the occurrences of a character. -/
def split (sep : Char) (s : String) : List String :=
  (splitAt sep s.toList).map String.ofList

/-- The texts with a separator between each two. -/
def join (sep : String) (parts : List String) : String := sep.intercalate parts

/-- Whether a text begins with another. -/
def beginsWith (s start : String) : Bool := start.toList.isPrefixOf s.toList

def occursIn (part : List Char) : List Char → Bool
  | [] => part.isEmpty
  | c :: rest => part.isPrefixOf (c :: rest) || occursIn part rest

/-- Whether a text occurs in another as consecutive characters. -/
def contains (s part : String) : Bool := occursIn part.toList s.toList

/-- The text after a given beginning. -/
def after? (start : List Char) (s : List Char) : Option (List Char) :=
  if start.isPrefixOf s then some (s.drop start.length) else none

/-- The parts of a text before and after the first occurrence of another. -/
def cutAround (mark : List Char) : List Char → Option (List Char × List Char)
  | [] => if mark.isEmpty then some ([], []) else none
  | c :: rest =>
    if mark.isPrefixOf (c :: rest) then some ([], (c :: rest).drop mark.length)
    else (cutAround mark rest).map fun (before, after) => (c :: before, after)

/-- The text before the first occurrence of another. -/
def before? (mark s : String) : Option String :=
  (cutAround mark.toList s.toList).map fun p => String.ofList p.1

/-- The text up to the end of the first occurrence of another. -/
def through? (mark s : String) : Option String := (before? mark s).map (· ++ mark)

/-- Replaces the occurrences of a nonempty text from the left, at most as many as there is
fuel. -/
def replaceFrom (old new : List Char) : Nat → List Char → List Char
  | 0, cs => cs
  | fuel + 1, cs =>
    match cutAround old cs with
    | none => cs
    | some (before, after) => before ++ new ++ replaceFrom old new fuel after

/-- The text with every occurrence of a nonempty text replaced. -/
def replaceAll (old new : String) (s : String) : String :=
  if old.isEmpty then s
  else String.ofList (replaceFrom old.toList new.toList s.length s.toList)

/-- The text without the occurrences of a character at its end. -/
def dropEndChars (c : Char) (s : String) : String :=
  String.ofList ((s.toList.reverse.dropWhile (· == c)).reverse)

theorem eq_of_cutAt {sep : Char} {s before after : List Char}
    (h : cutAt sep s = some (before, after)) : s = before ++ sep :: after := by
  induction s generalizing before with
  | nil => simp [cutAt] at h
  | cons c rest ih =>
    simp only [cutAt] at h
    split at h
    · next hc => simp_all
    · obtain ⟨p, hp, hq⟩ := Option.map_eq_some_iff.1 h
      obtain ⟨b, a⟩ := p
      simp only [Prod.mk.injEq] at hq
      obtain ⟨rfl, rfl⟩ := hq
      simp [ih hp]

theorem not_mem_of_cutAt {sep : Char} {s before after : List Char}
    (h : cutAt sep s = some (before, after)) : sep ∉ before := by
  induction s generalizing before with
  | nil => simp [cutAt] at h
  | cons c rest ih =>
    simp only [cutAt] at h
    split at h
    · simp_all
    · next hc =>
      obtain ⟨p, hp, hq⟩ := Option.map_eq_some_iff.1 h
      obtain ⟨b, a⟩ := p
      simp only [Prod.mk.injEq] at hq
      obtain ⟨rfl, rfl⟩ := hq
      simp [ih hp, Ne.symm hc]

theorem cutAt_append {sep : Char} {before after : List Char} (h : sep ∉ before) :
    cutAt sep (before ++ sep :: after) = some (before, after) := by
  induction before with
  | nil => simp [cutAt]
  | cons c rest ih =>
    simp only [List.mem_cons, not_or] at h
    simp [cutAt, Ne.symm h.1, ih h.2]

theorem cutAt_eq_none_iff {sep : Char} {s : List Char} : cutAt sep s = none ↔ sep ∉ s := by
  induction s with
  | nil => simp [cutAt]
  | cons c rest ih =>
    by_cases hc : c = sep
    · simp [cutAt, hc]
    · simp [cutAt, hc, ih, Ne.symm hc]

end Depository.Text
