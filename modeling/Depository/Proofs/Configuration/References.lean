import Depository.Configuration.Load
import Mathlib.Data.List.Basic
import Mathlib.Data.List.Forall2
import Mathlib.Data.List.TakeWhile

/-!
# References in a template

A template is filled in one pass from left to right over each line that is no comment. The pieces
that a line is cut into are the references that stand in it and the characters between them. So
every reference is replaced once by the value of its variable, all else stays, and if variables are
not set, their names are told in the order in which they first occur.
-/

namespace Depository

namespace Template

variable {vars : Variables}

/-! ### Names and references -/

/-- A capital letter or an underscore, and then capital letters, digits and underscores. -/
def IsName (name : String) : Prop :=
  ∃ first rest, name.toList = first :: rest ∧ startsName first = true ∧
    ∀ c ∈ rest, continuesName c = true

/-- A text does not begin with a reference. -/
def NoReference (cs : List Char) : Prop :=
  ∀ name, IsName name → ¬ (Piece.reference name).source <+: cs

/-- A comment has a hash behind the blanks at its start. -/
def IsCommentLine (line : List Char) : Prop :=
  ∃ blanks rest, line = blanks ++ '#' :: rest ∧ ∀ c ∈ blanks, Text.isBlank c = true

private theorem isComment_iff {line : List Char} : isComment line = true ↔ IsCommentLine line := by
  rw [isComment, beq_iff_eq, Text.trimStart]
  constructor
  · intro h
    obtain ⟨rest, hrest⟩ := List.head?_eq_some_iff.mp h
    refine ⟨line.takeWhile Text.isBlank, rest, ?_, fun c hc => List.mem_takeWhile_imp hc⟩
    rw [← hrest, List.takeWhile_append_dropWhile]
  · rintro ⟨blanks, rest, rfl, hblanks⟩
    have hhash : Text.isBlank '#' = false := by decide
    rw [List.dropWhile_append_of_pos hblanks, List.dropWhile_cons_of_neg (by simp [hhash])]
    rfl

theorem IsName.continuesName {name : String} (h : IsName name) :
    ∀ c ∈ name.toList, continuesName c = true := by
  obtain ⟨first, rest, hname, hfirst, hrest⟩ := h
  rw [hname, List.forall_mem_cons]
  exact ⟨by simp [Template.continuesName, hfirst], hrest⟩

private theorem continuesName_brace : continuesName '\x7d' = false := by decide

/-- A name ends where the brace after it stands. -/
private theorem IsName.takeWhile_append {name : String} (h : IsName name) (rest : List Char) :
    (name.toList ++ '\x7d' :: rest).takeWhile Template.continuesName = name.toList := by
  rw [List.takeWhile_append_of_pos h.continuesName,
    List.takeWhile_cons_of_neg (by simp [continuesName_brace]), List.append_nil]

private theorem IsName.dropWhile_append {name : String} (h : IsName name) (rest : List Char) :
    (name.toList ++ '\x7d' :: rest).dropWhile Template.continuesName = '\x7d' :: rest := by
  rw [List.dropWhile_append_of_pos h.continuesName,
    List.dropWhile_cons_of_neg (by simp [continuesName_brace])]

private theorem source_append (name : String) (rest : List Char) :
    (Piece.reference name).source ++ rest =
      '$' :: '\x7b' :: (name.toList ++ '\x7d' :: rest) := by
  simp [Piece.source]

/-- Two references at one place are the same. -/
private theorem source_append_inj {name other : String} {rest rest' : List Char} (h : IsName name)
    (h' : IsName other)
    (heq : (Piece.reference name).source ++ rest = (Piece.reference other).source ++ rest') :
    name = other ∧ rest = rest' := by
  rw [source_append, source_append, List.cons_inj_right, List.cons_inj_right] at heq
  have hname := congrArg (List.takeWhile Template.continuesName) heq
  rw [h.takeWhile_append, h'.takeWhile_append] at hname
  obtain rfl := String.toList_inj.mp hname
  exact ⟨rfl, (List.cons.inj (List.append_cancel_left heq)).2⟩

private theorem nameAt?_source_append {name : String} (h : IsName name) (rest : List Char) :
    nameAt? ((Piece.reference name).source ++ rest) = some name.toList := by
  obtain ⟨first, others, hname, hfirst, -⟩ := id h
  rw [source_append]
  simp only [nameAt?, h.takeWhile_append, h.dropWhile_append]
  rw [if_pos]
  simp [hname, hfirst]

private theorem of_nameAt?_eq_some {cs name : List Char} (h : nameAt? cs = some name) :
    IsName (String.ofList name) ∧
      ∃ rest, cs = (Piece.reference (String.ofList name)).source ++ rest := by
  unfold nameAt? at h
  split at h
  · next rest =>
    dsimp only at h
    split at h
    · next hname =>
      cases h
      simp only [Bool.and_eq_true, Option.any_eq_true, beq_iff_eq] at hname
      obtain ⟨⟨first, hhead, hfirst⟩, hbrace⟩ := hname
      obtain ⟨others, hcons⟩ := List.head?_eq_some_iff.mp hhead
      obtain ⟨after, hafter⟩ := List.head?_eq_some_iff.mp hbrace
      refine ⟨⟨first, others, ?_, hfirst, fun c hc => ?_⟩, after, ?_⟩
      · rw [String.toList_ofList, hcons]
      · have hmem : c ∈ rest.takeWhile continuesName := hcons ▸ List.mem_cons_of_mem _ hc
        exact List.mem_takeWhile_imp hmem
      · rw [source_append, String.toList_ofList, ← hafter, List.takeWhile_append_dropWhile]
    · cases h
  · cases h

private theorem noReference_of_nameAt? {cs : List Char} (h : nameAt? cs = none) :
    NoReference cs := by
  rintro name hname ⟨rest, rfl⟩
  rw [nameAt?_source_append hname] at h
  cases h

/-! ### The pass over a line -/

/-- A line is cut from the left, at each place into the reference that stands there or else into the
next character. -/
inductive Cut : List Char → List Piece → Prop where
  | nil : Cut [] []
  | reference {name : String} {rest : List Char} {pieces : List Piece} (hname : IsName name)
      (hrest : Cut rest pieces) :
      Cut ((Piece.reference name).source ++ rest) (.reference name :: pieces)
  | plain {c : Char} {rest : List Char} {pieces : List Piece} (hnone : NoReference (c :: rest))
      (hrest : Cut rest pieces) : Cut (c :: rest) (.plain c :: pieces)

private theorem piecesAfter_eq (skip : Nat) (cs : List Char) :
    piecesAfter skip cs = pieces (cs.drop skip) := by
  induction cs generalizing skip with
  | nil => cases skip <;> rfl
  | cons c rest ih =>
    cases skip with
    | zero => rfl
    | succ skip => rw [piecesAfter, ih, List.drop_succ_cons]

private theorem pieces_source_append {name : String} (h : IsName name) (rest : List Char) :
    pieces ((Piece.reference name).source ++ rest) = .reference name :: pieces rest := by
  have hname := nameAt?_source_append h rest
  rw [source_append] at hname ⊢
  have hrest : ('\x7b' :: (name.toList ++ '\x7d' :: rest)).drop (name.toList.length + 2) = rest := by
    simp
  rw [pieces, piecesAfter]
  simp only [hname, piecesAfter_eq, hrest, String.ofList_toList]

private theorem pieces_cons {c : Char} {rest : List Char} (h : nameAt? (c :: rest) = none) :
    pieces (c :: rest) = .plain c :: pieces rest := by
  rw [pieces, piecesAfter]
  simp only [h]
  rfl

/-- The pieces of a line are those that the pass finds. -/
private theorem cut_pieces (line : List Char) : Cut line (pieces line) := by
  induction hlength : line.length using Nat.strong_induction_on generalizing line with
  | h n ih =>
    cases line with
    | nil => exact .nil
    | cons c rest =>
      cases hname : nameAt? (c :: rest) with
      | none =>
        rw [pieces_cons hname]
        exact .plain (noReference_of_nameAt? hname) (ih rest.length (by simp [← hlength]) rest rfl)
      | some name =>
        obtain ⟨hisName, after, hafter⟩ := of_nameAt?_eq_some hname
        have hshorter : after.length < n := by
          rw [← hlength, hafter, List.length_append]
          simp [Piece.source]
        rw [hafter, pieces_source_append hisName]
        exact .reference hisName (ih after.length hshorter after rfl)

/-! ### Filling a line -/

/-- What a line becomes in one pass from left to right: a reference is replaced by the value of its
variable, any other character stays, and what was put in is not looked at again. -/
inductive Filled (vars : Variables) : List Char → List Char → Prop where
  | nil : Filled vars [] []
  | reference {name value : String} {rest out : List Char} (hname : IsName name)
      (hvalue : vars name = some value) (hrest : Filled vars rest out) :
      Filled vars ((Piece.reference name).source ++ rest) (value.toList ++ out)
  | plain {c : Char} {rest out : List Char} (hnone : NoReference (c :: rest))
      (hrest : Filled vars rest out) : Filled vars (c :: rest) (c :: out)

/-- The names in the references of a line. -/
def namesIn (pieces : List Piece) : List String :=
  pieces.filterMap fun
    | .reference name => some name
    | .plain _ => none

@[simp] theorem namesIn_plain (c : Char) (rest : List Piece) :
    namesIn (.plain c :: rest) = namesIn rest := rfl

@[simp] theorem namesIn_reference (name : String) (rest : List Piece) :
    namesIn (.reference name :: rest) = name :: namesIn rest := rfl

private theorem filled_of_cut {line : List Char} {pieces : List Piece} (h : Cut line pieces)
    (hset : ∀ name ∈ namesIn pieces, (vars name).isSome = true) :
    Filled vars line (pieces.flatMap (Piece.filled vars)) := by
  induction h with
  | nil => exact .nil
  | @reference name rest pieces hname hrest ih =>
    obtain ⟨hfirst, hothers⟩ : (vars name).isSome = true ∧
        ∀ other ∈ namesIn pieces, (vars other).isSome = true := by
      simpa using hset
    obtain ⟨value, hvalue⟩ := Option.isSome_iff_exists.mp hfirst
    rw [List.flatMap_cons, Piece.filled, hvalue]
    exact .reference hname hvalue (ih hothers)
  | @plain c rest pieces hnone hrest ih =>
    rw [List.flatMap_cons]
    exact .plain hnone (ih hset)

/-- A line can be filled in one way at most, and then all its references are to variables that are
set. -/
private theorem of_filled {line out : List Char} {pieces : List Piece} (hcut : Cut line pieces)
    (h : Filled vars line out) :
    out = pieces.flatMap (Piece.filled vars) ∧
      ∀ name ∈ namesIn pieces, (vars name).isSome = true := by
  induction h generalizing pieces with
  | nil =>
    generalize hline : ([] : List Char) = line at hcut
    cases hcut with
    | nil => exact ⟨rfl, by simp [namesIn]⟩
    | reference => simp [Piece.source] at hline
    | plain => cases hline
  | @reference name value rest out hname hvalue hrest ih =>
    generalize hline : (Piece.reference name).source ++ rest = line at hcut
    cases hcut with
    | nil => simp [Piece.source] at hline
    | @reference name' rest' pieces' hname' hrest' =>
      obtain ⟨rfl, rfl⟩ := source_append_inj hname hname' hline
      obtain ⟨rfl, hset⟩ := ih hrest'
      refine ⟨by rw [List.flatMap_cons, Piece.filled, hvalue]; rfl, ?_⟩
      simpa [hvalue] using hset
    | plain hnone => exact absurd ⟨rest, hline⟩ (hnone name hname)
  | @plain c rest out hnone hrest ih =>
    generalize hline : c :: rest = line at hcut
    cases hcut with
    | nil => cases hline
    | @reference name' rest' pieces' hname' hrest' =>
      exact absurd ⟨rest', hline.symm⟩ (hnone name' hname')
    | @plain c' rest' pieces' hnone' hrest' =>
      cases hline
      obtain ⟨rfl, hset⟩ := ih hrest'
      exact ⟨rfl, hset⟩

/-- What a line of a template becomes; a comment stays as it is. -/
inductive FilledLine (vars : Variables) (line : List Char) : List Char → Prop where
  | comment (h : IsCommentLine line) : FilledLine vars line line
  | other {out : List Char} (h : ¬ IsCommentLine line) (hout : Filled vars line out) :
      FilledLine vars line out

private theorem references_of_comment {line : List Char} (h : IsCommentLine line) :
    references line = [] := by
  rw [references, if_pos (isComment_iff.mpr h)]

private theorem references_of_not_comment {line : List Char} (h : ¬ IsCommentLine line) :
    references line = namesIn (pieces line) := by
  rw [references, if_neg (mt isComment_iff.mp h)]
  rfl

private theorem filledLine_iff {line out : List Char} :
    FilledLine vars line out ↔
      out = fillLine vars line ∧ ∀ name ∈ references line, (vars name).isSome = true := by
  by_cases hcomment : IsCommentLine line
  · rw [fillLine, if_pos (isComment_iff.mpr hcomment), references_of_comment hcomment]
    constructor
    · rintro (_ | ⟨hnot, -⟩)
      · exact ⟨rfl, by simp⟩
      · exact absurd hcomment hnot
    · rintro ⟨rfl, -⟩
      exact .comment hcomment
  · rw [fillLine, if_neg (mt isComment_iff.mp hcomment), references_of_not_comment hcomment]
    constructor
    · rintro (h | ⟨-, hout⟩)
      · exact absurd h hcomment
      · exact of_filled (cut_pieces line) hout
    · rintro ⟨rfl, hset⟩
      exact .other hcomment (filled_of_cut (cut_pieces line) hset)

/-! ### Where references stand in a line -/

/-- The references among the pieces of a line, with the columns where they stand. -/
def columns : List Piece → List (Nat × String)
  | [] => []
  | .plain _ :: rest => (columns rest).map fun (i, name) => (i + 1, name)
  | .reference name :: rest =>
    (0, name) :: (columns rest).map fun (i, other) =>
      (i + (Piece.reference name).source.length, other)

private theorem map_columns (pieces : List Piece) :
    (columns pieces).map (·.2) = namesIn pieces := by
  induction pieces with
  | nil => rfl
  | cons piece rest ih =>
    cases piece with
    | plain c => simpa [columns, Function.comp_def] using ih
    | reference name => simpa [columns, Function.comp_def] using ih

private theorem pairwise_columns (pieces : List Piece) :
    (columns pieces).Pairwise fun x y => x.1 < y.1 := by
  induction pieces with
  | nil => exact .nil
  | cons piece rest ih =>
    cases piece with
    | plain c =>
      rw [columns, List.pairwise_map]
      exact ih.imp fun h => Nat.add_lt_add_right h 1
    | reference name =>
      rw [columns, List.pairwise_cons, List.pairwise_map]
      refine ⟨fun x hx => ?_, ih.imp fun h => Nat.add_lt_add_right h _⟩
      obtain ⟨y, -, rfl⟩ := List.mem_map.mp hx
      have hlength : 0 < (Piece.reference name).source.length := by simp [Piece.source]
      exact Nat.add_pos_right y.1 hlength

/-- Within a reference no other one begins. -/
private theorem not_source_prefix_of_inside {name other : String} {rest : List Char} {i : Nat}
    (h : IsName name) (hpos : i ≠ 0) (hinside : i < (Piece.reference name).source.length) :
    ¬ (Piece.reference other).source <+: ((Piece.reference name).source ++ rest).drop i := by
  rintro ⟨after, hafter⟩
  have hdollar : '$' ∈ ((Piece.reference name).source).drop i := by
    rw [List.drop_append_of_le_length (by omega), source_append] at hafter
    cases hdrop : ((Piece.reference name).source).drop i with
    | nil => exact absurd (List.drop_eq_nil_iff.mp hdrop) (by omega)
    | cons d ds =>
      rw [hdrop, List.cons_append] at hafter
      rw [(List.cons.inj hafter).1]
      exact List.mem_cons_self
  obtain ⟨j, rfl⟩ := Nat.exists_eq_succ_of_ne_zero hpos
  have hin : '$' ∈ '\x7b' :: name.toList ++ ['\x7d'] := List.mem_of_mem_drop hdollar
  have hcontinues : continuesName '$' = false := by decide
  have hnot : '$' ∉ name.toList := fun hmem => by
    cases hcontinues.symm.trans (h.continuesName _ hmem)
  simp [hnot] at hin

/-- The pass misses no reference and finds no other. -/
private theorem mem_columns_iff {line : List Char} {pieces : List Piece} (h : Cut line pieces)
    {i : Nat} {name : String} : (i, name) ∈ columns pieces ↔
      IsName name ∧ (Piece.reference name).source <+: line.drop i := by
  induction h generalizing i with
  | nil => simp [columns, Piece.source]
  | @plain c rest pieces hnone hrest ih =>
    cases i with
    | zero =>
      constructor
      · simp [columns]
      · rintro ⟨hname, hprefix⟩
        exact absurd hprefix (hnone name hname)
    | succ i => simp [columns, ih]
  | @reference other rest pieces hother hrest ih =>
    rcases Nat.lt_or_ge i (Piece.reference other).source.length with hinside | houtside
    · by_cases hpos : i = 0
      · subst hpos
        have hzero : (0, name) ∈ columns (.reference other :: pieces) ↔ name = other := by
          simp [columns, Piece.source]
        rw [hzero, List.drop_zero]
        constructor
        · rintro rfl
          exact ⟨hother, List.prefix_append _ _⟩
        · rintro ⟨hname, after, hafter⟩
          exact (source_append_inj hname hother hafter).1
      · constructor
        · intro hmem
          simp only [columns, List.mem_cons, Prod.mk.injEq, List.mem_map, Prod.exists] at hmem
          omega
        · rintro ⟨-, hprefix⟩
          exact absurd hprefix (not_source_prefix_of_inside hother hpos hinside)
    · obtain ⟨j, rfl⟩ := Nat.exists_eq_add_of_le' houtside
      rw [List.drop_append, List.drop_eq_nil_of_le (by omega), List.nil_append,
        Nat.add_sub_cancel, ← ih]
      simp [columns, Piece.source]

/-! ### Where references stand in a text -/

/-- A line of a text and a character in it, both counted from zero. -/
structure Place where
  line : Nat
  column : Nat

/-- In a text, one place comes before another. -/
def Place.Before (p q : Place) : Prop := p.line < q.line ∨ p.line = q.line ∧ p.column < q.column

/-- At a place in some lines a reference stands, and the line is no comment. -/
def StandsAt (lines : List (List Char)) (p : Place) (name : String) : Prop :=
  ∃ line, lines[p.line]? = some line ∧ ¬ IsCommentLine line ∧ IsName name ∧
    (Piece.reference name).source <+: line.drop p.column

namespace Place

/-- The same place with one more line before it. -/
def below (p : Place) : Place := ⟨p.line + 1, p.column⟩

end Place

/-- The references in some lines, with the places where they stand. -/
def occurrences : List (List Char) → List (Place × String)
  | [] => []
  | line :: rest =>
    (if isComment line then [] else
      (columns (pieces line)).map fun (i, name) => (⟨0, i⟩, name)) ++
      (occurrences rest).map fun (p, name) => (p.below, name)

private theorem map_occurrences (lines : List (List Char)) :
    (occurrences lines).map (·.2) = lines.flatMap references := by
  induction lines with
  | nil => rfl
  | cons line rest ih =>
    have hbelow : ((occurrences rest).map fun (p, name) => (p.below, name)).map (·.2) =
        rest.flatMap references := by
      rw [← ih, List.map_map]
      rfl
    rw [occurrences, List.map_append, hbelow, List.flatMap_cons]
    congr 1
    by_cases hcomment : IsCommentLine line
    · rw [references_of_comment hcomment, if_pos (isComment_iff.mpr hcomment)]
      rfl
    · rw [references_of_not_comment hcomment, if_neg (mt isComment_iff.mp hcomment),
        ← map_columns, List.map_map]
      rfl

private theorem pairwise_occurrences (lines : List (List Char)) :
    (occurrences lines).Pairwise fun x y => x.1.Before y.1 := by
  induction lines with
  | nil => exact .nil
  | cons line rest ih =>
    rw [occurrences, List.pairwise_append]
    refine ⟨?_, ?_, ?_⟩
    · split
      · exact .nil
      · rw [List.pairwise_map]
        exact (pairwise_columns _).imp fun h => Or.inr ⟨rfl, h⟩
    · rw [List.pairwise_map]
      refine ih.imp fun h => h.imp (Nat.add_lt_add_right · 1) fun hsame => ?_
      exact ⟨congrArg (· + 1) hsame.1, hsame.2⟩
    · intro x hx y hy
      obtain ⟨z, -, rfl⟩ := List.mem_map.mp hy
      left
      have hline : x.1.line = 0 := by
        split at hx
        · cases hx
        · obtain ⟨u, -, rfl⟩ := List.mem_map.mp hx
          rfl
      rw [hline]
      exact Nat.succ_pos _

private theorem standsAt_first_iff {line : List Char} {rest : List (List Char)} {i : Nat}
    {name : String} :
    StandsAt (line :: rest) ⟨0, i⟩ name ↔
      ¬ IsCommentLine line ∧ (i, name) ∈ columns (pieces line) := by
  simp [StandsAt, mem_columns_iff (cut_pieces line)]

private theorem standsAt_below_iff {line : List Char} {rest : List (List Char)} {p : Place}
    {name : String} : StandsAt (line :: rest) p.below name ↔ StandsAt rest p name := by
  simp [StandsAt, Place.below]

private theorem mem_occurrences_iff {lines : List (List Char)} {p : Place} {name : String} :
    (p, name) ∈ occurrences lines ↔ StandsAt lines p name := by
  induction lines generalizing p with
  | nil => simp [occurrences, StandsAt]
  | cons line rest ih =>
    rw [occurrences, List.mem_append]
    obtain ⟨_ | i, j⟩ := p
    · rw [standsAt_first_iff]
      by_cases hcomment : IsCommentLine line
      · simp [isComment_iff.mpr hcomment, hcomment, Place.below]
      · rw [if_neg (mt isComment_iff.mp hcomment)]
        simp [hcomment, Place.below]
    · rw [show (⟨i + 1, j⟩ : Place) = Place.below ⟨i, j⟩ from rfl, standsAt_below_iff, ← ih]
      have hlater : ∀ x ∈ if isComment line then [] else
          (columns (pieces line)).map fun (i, name) => ((⟨0, i⟩, name) : Place × String),
          x.1.line = 0 := by
        intro x hx
        split at hx
        · cases hx
        · obtain ⟨y, -, rfl⟩ := List.mem_map.mp hx
          rfl
      constructor
      · rintro (h | h)
        · cases hlater _ h
        · obtain ⟨⟨⟨_, _⟩, _⟩, hmem, heq⟩ := List.mem_map.mp h
          cases heq
          exact hmem
      · intro h
        exact .inr (List.mem_map.mpr ⟨_, h, rfl⟩)

/-! ### Names that are not set -/

/-- Each name once, in the order of the places where the names first occur. -/
private theorem pairwise_eraseDups {before : Place → Place → Prop} {l : List (Place × String)}
    (h : l.Pairwise fun x y => before x.1 y.1) :
    (l.map (·.2)).eraseDups.Pairwise fun a b =>
      ∃ p, (p, a) ∈ l ∧ ∀ q, (q, b) ∈ l → before p q := by
  induction hlength : l.length using Nat.strong_induction_on generalizing l with
  | h n ih =>
    cases l with
    | nil => exact .nil
    | cons x rest =>
      obtain ⟨p, a⟩ := x
      obtain ⟨hfirst, hrest⟩ := List.pairwise_cons.mp h
      have hfilter : (rest.map (·.2)).filter (fun b => !b == a) =
          (rest.filter fun y => !y.2 == a).map (·.2) := by
        rw [List.filter_map]
        rfl
      have hne {b : String} (hb : b ∈ ((rest.filter fun y => !y.2 == a).map (·.2)).eraseDups) :
          b ≠ a := by
        rw [List.mem_eraseDups, List.mem_map] at hb
        obtain ⟨y, hy, rfl⟩ := hb
        simpa using (List.mem_filter.mp hy).2
      rw [List.map_cons, List.eraseDups_cons, hfilter, List.pairwise_cons]
      refine ⟨fun b hb => ⟨p, List.mem_cons_self, fun q hq => ?_⟩, ?_⟩
      · rcases List.mem_cons.mp hq with hq | hq
        · exact absurd (Prod.mk.inj hq).2 (hne hb)
        · exact hfirst _ hq
      · have hshorter : (rest.filter fun y => !y.2 == a).length < n := by
          rw [← hlength]
          exact Nat.lt_succ_of_le (List.length_filter_le _ _)
        refine (ih _ hshorter (hrest.filter _) rfl).imp_of_mem fun {b c} _ hc hbc => ?_
        obtain ⟨q, hq, hafter⟩ := hbc
        refine ⟨q, List.mem_cons_of_mem _ (List.mem_filter.mp hq).1, fun r hr => ?_⟩
        rcases List.mem_cons.mp hr with hr | hr
        · exact absurd (Prod.mk.inj hr).2 (hne hc)
        · exact hafter r (List.mem_filter.mpr ⟨hr, by simpa using hne hc⟩)

/-- The references to variables that are not set. -/
def unset (vars : Variables) (lines : List (List Char)) : List (Place × String) :=
  (occurrences lines).filter fun x => (vars x.2).isNone

private theorem mem_unset_iff {lines : List (List Char)} {p : Place} {name : String} :
    (p, name) ∈ unset vars lines ↔ StandsAt lines p name ∧ vars name = none := by
  rw [unset, List.mem_filter, mem_occurrences_iff, Option.isNone_iff_eq_none]

private theorem missing_eq (vars : Variables) (text : String) :
    missing vars text = ((unset vars (Text.lines text.toList)).map (·.2)).eraseDups := by
  rw [missing, ← map_occurrences, List.filter_map]
  rfl

private theorem mem_missing_iff {text name : String} :
    name ∈ missing vars text ↔
      vars name = none ∧ ∃ p, StandsAt (Text.lines text.toList) p name := by
  simp [missing_eq, List.mem_eraseDups, mem_unset_iff, and_comm]

private theorem pairwise_missing (vars : Variables) (text : String) :
    (missing vars text).Pairwise fun a b =>
      ∃ p, StandsAt (Text.lines text.toList) p a ∧
        ∀ q, StandsAt (Text.lines text.toList) q b → p.Before q := by
  have hordered : (unset vars (Text.lines text.toList)).Pairwise fun x y => x.1.Before y.1 :=
    (pairwise_occurrences _).filter _
  have hpairs := pairwise_eraseDups hordered
  rw [← missing_eq] at hpairs
  refine hpairs.imp_of_mem fun {a b} _ hb h => ?_
  obtain ⟨p, hp, hafter⟩ := h
  refine ⟨p, (mem_unset_iff.mp hp).1, fun q hq => hafter q (mem_unset_iff.mpr ⟨hq, ?_⟩)⟩
  exact (mem_missing_iff.mp hb).1

private theorem nodup_missing (vars : Variables) (text : String) : (missing vars text).Nodup := by
  refine (pairwise_missing vars text).imp fun {a b} h hab => ?_
  obtain ⟨p, hp, hafter⟩ := h
  have hself := hafter p (hab ▸ hp)
  simp [Place.Before] at hself

/-! ### Filling a text -/

private theorem forall₂_filledLine_iff {lines outs : List (List Char)} :
    List.Forall₂ (FilledLine vars) lines outs ↔ outs = lines.map (fillLine vars) ∧
      ∀ line ∈ lines, ∀ name ∈ references line, (vars name).isSome = true := by
  induction lines generalizing outs with
  | nil => simp [List.forall₂_nil_left_iff]
  | cons line rest ih =>
    cases outs with
    | nil => simp [List.forall₂_nil_right_iff]
    | cons out outs =>
      rw [List.forall₂_cons, filledLine_iff, ih]
      simp only [List.map_cons, List.cons.injEq, List.forall_mem_cons]
      exact and_and_and_comm

private theorem missing_eq_nil_iff {text : String} :
    missing vars text = [] ↔
      ∀ p name, StandsAt (Text.lines text.toList) p name → (vars name).isSome = true := by
  rw [List.eq_nil_iff_forall_not_mem]
  simp only [mem_missing_iff, not_and, not_exists, Option.isSome_iff_ne_none]
  exact ⟨fun h p name hp hnone => h name hnone p hp, fun h name hnone p hp => h p name hp hnone⟩

private theorem missing_eq_nil_iff_references {text : String} :
    missing vars text = [] ↔ ∀ line ∈ Text.lines text.toList, ∀ name ∈ references line,
      (vars name).isSome = true := by
  have hdups {names : List String} : names.eraseDups = [] ↔ names = [] := by
    simp [List.eq_nil_iff_forall_not_mem]
  rw [missing, hdups, List.filter_eq_nil_iff]
  simp only [List.mem_flatMap, Option.isNone_iff_eq_none, Option.isSome_iff_ne_none]
  exact ⟨fun h line hline name hname => h name ⟨line, hline, hname⟩,
    fun h name ⟨line, hline, hname⟩ => h line hline name hname⟩

private theorem fill_eq_ok_iff {text result : String} :
    fill vars text = .ok result ↔ missing vars text = [] ∧ result =
      String.ofList (Text.unlines ((Text.lines text.toList).map (fillLine vars))) := by
  unfold fill
  split
  · next hnone => simp [hnone, eq_comm]
  · next hsome => exact ⟨nofun, fun h => absurd h.1 hsome⟩

private theorem fill_eq_error_iff {text : String} {names : List String} :
    fill vars text = .error names ↔ missing vars text = names ∧ names ≠ [] := by
  unfold fill
  split
  · next hnone =>
    constructor
    · intro h
      cases h
    · rintro ⟨rfl, hne⟩
      exact absurd hnone hne
  · next hsome =>
    constructor
    · intro h
      cases h
      exact ⟨rfl, hsome⟩
    · rintro ⟨rfl, -⟩
      rfl

/-- A template is filled exactly if every reference on a line that is no comment is to a variable
that is set. Then each line is filled in one pass, and ends with a line feed. Otherwise the names of
the variables that are not set are told, each once and in the order in which they first occur. -/
theorem fill_single_pass (vars : Variables) (text : String) :
    ((∃ result, fill vars text = .ok result) ↔
      ∀ p name, StandsAt (Text.lines text.toList) p name → (vars name).isSome = true) ∧
    (∀ result, fill vars text = .ok result ↔
      ∃ outs, List.Forall₂ (FilledLine vars) (Text.lines text.toList) outs ∧
        result = String.ofList (outs.flatMap fun out => out ++ ['\n'])) ∧
    ∀ names, fill vars text = .error names →
      names ≠ [] ∧ names.Nodup ∧
      (∀ name, name ∈ names ↔
        vars name = none ∧ ∃ p, StandsAt (Text.lines text.toList) p name) ∧
      (names.Pairwise fun a b =>
        ∃ p, StandsAt (Text.lines text.toList) p a ∧
          ∀ q, StandsAt (Text.lines text.toList) q b → p.Before q) ∧
      Configuration.ofText vars text = .error (.configuration
        ("Missing required environment variables: " ++ Text.join ", " names)) := by
  refine ⟨?_, ?_, ?_⟩
  · simp only [fill_eq_ok_iff, exists_and_left, exists_eq, and_true]
    exact missing_eq_nil_iff
  · intro result
    rw [fill_eq_ok_iff, missing_eq_nil_iff_references]
    simp only [forall₂_filledLine_iff]
    constructor
    · rintro ⟨hset, rfl⟩
      exact ⟨_, ⟨rfl, hset⟩, rfl⟩
    · rintro ⟨outs, ⟨rfl, hset⟩, rfl⟩
      exact ⟨hset, rfl⟩
  · intro names h
    obtain ⟨rfl, hne⟩ := fill_eq_error_iff.mp h
    refine ⟨hne, nodup_missing vars text, fun name => mem_missing_iff, pairwise_missing vars text, ?_⟩
    simp only [Configuration.ofText, Configuration.described, h]
    rfl

theorem fill_single_pass_two_names :
    ∃ text, fill (fun _ => none) text = .error ["B", "A"] ∧
      Configuration.ofText (fun _ => none) text = .error (.configuration
        ("Missing required environment variables: " ++ Text.join ", " ["B", "A"])) := by
  refine ⟨"a = $\x7bB\x7d $\x7b$\x7bA\x7d\x7d $\x7bB\x7d\n # $\x7bC\x7d", ?_⟩
  have hnames : fill (fun _ => none)
      "a = $\x7bB\x7d $\x7b$\x7bA\x7d\x7d $\x7bB\x7d\n # $\x7bC\x7d" = .error ["B", "A"] := by
    rfl
  obtain ⟨-, -, hfails⟩ := fill_single_pass (fun _ => none)
    "a = $\x7bB\x7d $\x7b$\x7bA\x7d\x7d $\x7bB\x7d\n # $\x7bC\x7d"
  obtain ⟨-, -, -, -, hmessage⟩ := hfails _ hnames
  exact ⟨hnames, hmessage⟩

/-- A value that reads like a reference stays as it is. -/
example : fill (fun name => if name = "A" then some "$\x7bB\x7d" else none)
    "a = $\x7bA\x7d$" = .ok "a = $\x7bB\x7d$\n" := by rfl

end Template

end Depository
