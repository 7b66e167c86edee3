/-!
# Scanning

A scan reads something at the start of a text and leaves the rest, or refuses. Scans are put
together in sequence, by trying one after another, and by repetition as long as the text lasts.
-/

namespace Depository.Text

/-- Reads something at the start of a text. -/
abbrev Scan (α : Type) := StateT (List Char) Option α

namespace Scan

variable {α β : Type}

/-- The whole value of a text; nothing may be left over. -/
def whole (x : Scan α) (cs : List Char) : Option α :=
  match x cs with
  | some (a, []) => some a
  | _ => none

/-- One character with a property. -/
def one (p : Char → Bool) : Scan Char
  | [] => none
  | c :: rest => if p c then some (c, rest) else none

/-- One given character. -/
def char (c : Char) : Scan Unit := do
  let _ ← one (· == c)

/-- A given text. -/
def word (w : String) : Scan Unit := fun cs =>
  if w.toList.isPrefixOf cs then some ((), cs.drop w.length) else none

/-- All characters with a property, up to the first one without it. -/
def span (p : Char → Bool) : Scan (List Char) := fun cs => some (cs.takeWhile p, cs.dropWhile p)

/-- At least one character with a property. -/
def spanOne (p : Char → Bool) : Scan (List Char) := do
  let c ← one p
  return c :: (← span p)

/-- Something that may be missing. -/
def optional (x : Scan α) : Scan (Option α) := fun cs =>
  match x cs with
  | some (a, rest) => some (some a, rest)
  | none => some (none, cs)

/-- Succeeds where the text does not go on as described, and reads nothing. -/
def notAhead (x : Scan α) : Scan Unit := fun cs =>
  match x cs with
  | some _ => none
  | none => some ((), cs)

/-- Reads something at most as often as there is fuel. -/
def repeated (x : Scan α) : Nat → List Char → List α × List Char
  | 0, cs => ([], cs)
  | fuel + 1, cs =>
    match x cs with
    | none => ([], cs)
    | some (a, rest) =>
      let (as, rest) := repeated x fuel rest
      (a :: as, rest)

/-- Reads something as often as possible. What is repeated takes a character each time, so that
the length of the text is fuel enough. -/
def many (x : Scan α) : Scan (List α) := fun cs => some (repeated x cs.length cs)

/-- Reads one or more items with something between each two. -/
def separated (separator : Scan β) (item : Scan α) : Scan (List α) := do
  let first ← item
  let rest ← many (do
    let _ ← separator
    item)
  return first :: rest

/-- The text that a scan reads. -/
def covered (x : Scan α) : Scan (List Char) := fun cs =>
  (x cs).map fun (_, rest) => (cs.take (cs.length - rest.length), rest)

end Scan

end Depository.Text
