import Depository.Proofs.Text.Parts
import Depository.Service.Ezid

/-!
# Name and value lines that are read back

Lines of names and values are read by cutting the text at its line feeds, each line at its first
colon and the space after it, and by undoing the escapes. What was written is read again, whatever
characters the names and values hold, so no value can pass for a line of its own.
-/

namespace Depository

namespace Anvl

/-! ### Reading -/

/-- The text that an escaped one stands for. -/
def unescape : List Char → List Char
  | [] => []
  | '%' :: '2' :: '5' :: rest => '%' :: unescape rest
  | '%' :: '0' :: 'A' :: rest => '\n' :: unescape rest
  | '%' :: '0' :: 'D' :: rest => '\r' :: unescape rest
  | '%' :: '3' :: 'A' :: rest => ':' :: unescape rest
  | c :: rest => c :: unescape rest

/-- The pair of a line: the name stands before the first colon, the value after it and one space. -/
def pair? (line : List Char) : Option (String × String) := do
  let (name, rest) ← Text.cutAt ':' line
  let value ← Text.after? [' '] rest
  return (String.ofList (unescape name), String.ofList (unescape value))

/-- The lines of a text; the empty text has none. -/
def lines (s : String) : List (List Char) := if s = "" then [] else Text.splitAt '\n' s.toList

/-- The pairs of all lines. -/
def pairs? (s : String) : Option (List (String × String)) := (lines s).mapM pair?

/-! ### Escapes -/

private theorem unescape_cons {c : Char} (hc : c ≠ '%') (rest : List Char) :
    unescape (c :: rest) = c :: unescape rest := by
  conv_lhs => unfold unescape
  split <;> simp_all

private theorem unescape_escapeChar_append (inName : Bool) (c : Char) (rest : List Char) :
    unescape (escapeChar inName c ++ rest) = c :: unescape rest := by
  unfold escapeChar
  split_ifs with hpercent hfeed hreturn hcolon
  · rw [hpercent]; rfl
  · rw [hfeed]; rfl
  · rw [hreturn]; rfl
  · rw [hcolon.1]; rfl
  · exact unescape_cons hpercent rest

private theorem unescape_escape (inName : Bool) (s : List Char) :
    unescape (escape inName s) = s := by
  induction s with
  | nil => rfl
  | cons c rest ih =>
    rw [escape, List.flatMap_cons, unescape_escapeChar_append]
    exact congrArg (c :: ·) ih

private theorem not_mem_escape {inName : Bool} {d : Char} (h : ∀ c, d ∉ escapeChar inName c)
    (s : List Char) : d ∉ escape inName s := by
  intro hd
  obtain ⟨c, -, hc⟩ := List.mem_flatMap.mp hd
  exact h c hc

private theorem feed_not_mem_escapeChar (inName : Bool) (c : Char) :
    '\n' ∉ escapeChar inName c := by
  unfold escapeChar
  split_ifs with hpercent hfeed
  all_goals simp [eq_comm (a := '\n'), *]

private theorem colon_not_mem_escapeChar (c : Char) : ':' ∉ escapeChar true c := by
  unfold escapeChar
  split_ifs with hpercent hfeed hreturn hcolon
  all_goals simp_all [eq_comm]

/-! ### Lines -/

private theorem toList_line (pair : String × String) :
    (line pair).toList =
      escape true pair.1.toList ++ ':' :: ' ' :: escape false pair.2.toList := by
  simp [line]

private theorem feed_not_mem_line (pair : String × String) : '\n' ∉ (line pair).toList := by
  simp [toList_line, not_mem_escape (feed_not_mem_escapeChar _)]

private theorem pair?_line (pair : String × String) : pair? (line pair).toList = some pair := by
  unfold pair?
  rw [toList_line, Text.cutAt_append (not_mem_escape colon_not_mem_escapeChar _)]
  simp [Text.after?, unescape_escape]

private theorem line_injective : Function.Injective line := by
  intro pair pair' h
  have hread : pair? (line pair).toList = pair? (line pair').toList := by rw [h]
  rw [pair?_line, pair?_line] at hread
  exact Option.some.inj hread

/-- A pair has at least the colon to show. -/
private theorem text_ne_empty {pairs : List (String × String)} (h : pairs ≠ []) :
    text pairs ≠ "" := by
  obtain ⟨pair, rest, rfl⟩ := List.exists_cons_of_ne_nil h
  intro hempty
  have hcolon : ':' ∈ (text (pair :: rest)).toList := by
    cases rest <;> simp [text, Text.join, toList_line]
  rw [hempty] at hcolon
  cases hcolon

private theorem lines_text (pairs : List (String × String)) :
    lines (text pairs) = pairs.map fun pair => (line pair).toList := by
  by_cases hpairs : pairs = []
  · rw [hpairs]
    rfl
  · rw [lines, if_neg (text_ne_empty hpairs), text]
    have hlines : ∀ part ∈ pairs.map line, '\n' ∉ part.toList := by
      intro part hpart
      obtain ⟨pair, -, rfl⟩ := List.mem_map.mp hpart
      exact feed_not_mem_line pair
    have hsplit := Text.splitAt_join (by simpa using hpairs) hlines
    rwa [List.map_map] at hsplit

private theorem pairs?_text (pairs : List (String × String)) :
    pairs? (text pairs) = some pairs := by
  rw [pairs?, lines_text]
  induction pairs with
  | nil => rfl
  | cons pair rest ih => simp [List.mapM_cons, pair?_line, ih]

end Anvl

namespace Service.Ezid

/-- What is sent about an identifier, before it is written. -/
def fields (t : RegistrationTarget) : List (String × String) :=
  [("_target", t.url), ("datacite.title", t.title),
    ("datacite.creator", Text.join "; " t.creators), ("datacite.publisher", t.publisher),
    ("datacite.publicationyear", toString t.year), ("datacite.resourcetype", "Dataset")]

private theorem metadata_eq (t : RegistrationTarget) : metadata t = Anvl.text (fields t) := rfl

end Service.Ezid

namespace Anvl

/-- A text has one line for each pair, and the lines are read as the pairs again; so different
pairs are written differently. In what is sent about an identifier there are always the same six
names, each with its own value, and two such texts differ exactly in the lines of the values that
differ. -/
theorem text_carries_pairs :
    (∀ pairs, lines (text pairs) = pairs.map (fun pair => (line pair).toList) ∧
      pairs? (text pairs) = some pairs) ∧
    Function.Injective text ∧
    (∀ t : RegistrationTarget, pairs? (Service.Ezid.metadata t) =
      some [("_target", t.url), ("datacite.title", t.title),
        ("datacite.creator", Text.join "; " t.creators), ("datacite.publisher", t.publisher),
        ("datacite.publicationyear", toString t.year), ("datacite.resourcetype", "Dataset")]) ∧
    ∀ (t t' : RegistrationTarget) (i : Nat),
      (lines (Service.Ezid.metadata t))[i]? = (lines (Service.Ezid.metadata t'))[i]? ↔
        (Service.Ezid.fields t)[i]? = (Service.Ezid.fields t')[i]? := by
  refine ⟨fun pairs => ⟨lines_text pairs, pairs?_text pairs⟩, ?_, ?_, ?_⟩
  · intro pairs pairs' h
    have hread : pairs? (text pairs) = pairs? (text pairs') := congrArg pairs? h
    rw [pairs?_text, pairs?_text] at hread
    exact Option.some.inj hread
  · intro t
    exact pairs?_text (Service.Ezid.fields t)
  · intro t t' i
    have hline : Function.Injective fun pair => (line pair).toList :=
      fun _ _ h => line_injective (String.toList_inj.mp h)
    rw [Service.Ezid.metadata_eq, Service.Ezid.metadata_eq, lines_text, lines_text,
      List.getElem?_map, List.getElem?_map]
    exact (Option.map_injective hline).eq_iff

/-- An escaped line feed belongs to its value, and so do the colons after the first. -/
example : pairs? "_target: https://x.org/a?b=1\ndatacite.title: 50%25 done%0Aa: b" =
    some [("_target", "https://x.org/a?b=1"), ("datacite.title", "50% done\na: b")] := by
  decide +kernel

end Anvl

end Depository
