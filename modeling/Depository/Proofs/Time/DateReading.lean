import Depository.Proofs.Text.Numerals
import Depository.Time.Calendar
import Mathlib.Data.List.DropRight
import Mathlib.Data.List.TakeWhile

/-!
# Texts that are read as dates

A date is read from a year, a month and a day with hyphens between them. Blanks may stand before
each of the three; month and day have one or two digits, and the year has up to four, or a sign and
any number of them. Nothing else is read, and every such text is, if the calendar has that day.
-/

namespace Depository

namespace Text

/-- At least one decimal digit, and the number that the digits stand for. -/
structure Numeral (cs : List Char) (n : Nat) : Prop where
  nonempty : cs ≠ []
  digits : ∀ c ∈ cs, c.isDigit = true
  value : Nat.ofDigitChars 10 cs 0 = n

private theorem isDigit_of_digitsFrom {cs : List Char} {value n : Nat}
    (h : digitsFrom value cs = some n) :
    ∀ c ∈ cs, c.isDigit = true := by
  induction cs generalizing value with
  | nil => simp
  | cons c rest ih =>
    rw [digitsFrom] at h
    split at h
    · next hc => exact List.forall_mem_cons.mpr ⟨hc, ih h⟩
    · cases h

theorem digits?_eq_some_iff {cs : List Char} {n : Nat} : digits? cs = some n ↔ Numeral cs n := by
  cases cs with
  | nil =>
    constructor
    · intro h
      cases h
    · intro h
      exact absurd rfl h.nonempty
  | cons c rest =>
    show digitsFrom 0 (c :: rest) = some n ↔ _
    constructor
    · intro h
      have hdigits := isDigit_of_digitsFrom h
      rw [digitsFrom_eq hdigits] at h
      exact ⟨List.cons_ne_nil _ _, hdigits, Option.some.inj h⟩
    · intro h
      rw [digitsFrom_eq h.digits, h.value]

theorem isBlank_eq_false_of_isDigit {c : Char} (h : c.isDigit = true) : isBlank c = false := by
  have hrange : 48 ≤ c.toNat ∧ c.toNat ≤ 57 := Char.isDigit_iff_toNat.mp h
  simp only [isBlank, Bool.or_eq_false_iff, Bool.and_eq_false_iff, decide_eq_false_iff_not,
    beq_eq_false_iff_ne]
  omega

theorem trimStart_append {blanks cs : List Char} {c : Char}
    (hblanks : ∀ b ∈ blanks, isBlank b = true) (hc : isBlank c = false) :
    trimStart (blanks ++ c :: cs) = c :: cs := by
  rw [trimStart, List.dropWhile_append_of_pos hblanks, List.dropWhile_cons_of_neg (by simp [hc])]

private theorem exists_blanks_append_trimStart (cs : List Char) :
    ∃ blanks, cs = blanks ++ trimStart cs ∧ ∀ b ∈ blanks, isBlank b = true := by
  refine ⟨cs.takeWhile isBlank, List.takeWhile_append_dropWhile.symm, ?_⟩
  intro b hb
  exact List.mem_takeWhile_imp hb

private theorem trimStart_trimStart (cs : List Char) : trimStart (trimStart cs) = trimStart cs :=
  List.dropWhile_idempotent isBlank cs

/-- The digits at the start of a text, as far as they go. -/
theorem takeWhile_isDigit_append {digits rest : List Char}
    (hdigits : ∀ c ∈ digits, c.isDigit = true) (hrest : ∀ c ∈ rest.head?, c.isDigit = false) :
    (digits ++ rest).takeWhile isDigit = digits := by
  have hnone : rest.takeWhile isDigit = [] := by
    cases rest with
    | nil => rfl
    | cons c cs =>
      have hc : isDigit c = false := hrest c rfl
      exact List.takeWhile_cons_of_neg (by simp [hc])
  have hpos : ∀ c ∈ digits, isDigit c = true := hdigits
  rw [List.takeWhile_append_of_pos hpos, hnone, List.append_nil]

end Text

namespace Time

open Text (isBlank trimStart)

/-! ### Numbers -/

/-- Blanks, and then a numeral of at most `limit` digits. -/
inductive PaddedNumeral (limit : Nat) : List Char → Nat → Prop where
  | intro {blanks digits : List Char} {n : Nat} (hblanks : ∀ c ∈ blanks, isBlank c = true)
      (hdigits : Text.Numeral digits n) (hlength : digits.length ≤ limit) :
      PaddedNumeral limit (blanks ++ digits) n

private theorem of_number?_eq_some {limit n : Nat} {cs rest : List Char}
    (h : number? limit cs = some (n, rest)) :
    ∃ text, cs = text ++ rest ∧ PaddedNumeral limit text n := by
  unfold number? at h
  obtain ⟨m, hm, hpair⟩ := Option.map_eq_some_iff.mp h
  cases hpair
  obtain ⟨blanks, hcs, hblanks⟩ := Text.exists_blanks_append_trimStart cs
  have hprefix : ((trimStart cs).take limit).takeWhile Text.isDigit <+: trimStart cs :=
    (List.takeWhile_prefix _).trans (List.take_prefix _ _)
  have hlength : (((trimStart cs).take limit).takeWhile Text.isDigit).length ≤ limit :=
    (List.takeWhile_prefix _).length_le.trans (List.length_take_le _ _)
  refine ⟨_, ?_, .intro hblanks (Text.digits?_eq_some_iff.mp hm) hlength⟩
  rw [List.append_assoc, List.prefix_iff_eq_append.mp hprefix]
  exact hcs

/-- Blanks before a number make no difference. -/
private theorem number?_trimStart (limit : Nat) (cs : List Char) :
    number? limit (trimStart cs) = number? limit cs := by
  unfold number?
  rw [Text.trimStart_trimStart]

/-- What follows the blanks of a number begins with a digit. -/
theorem PaddedNumeral.trimStart_append {limit n : Nat} {text : List Char}
    (h : PaddedNumeral limit text n) (rest : List Char) :
    ∃ digits, trimStart (text ++ rest) = digits ++ rest ∧ Text.Numeral digits n ∧
      digits.length ≤ limit := by
  obtain ⟨hblanks, hdigits, hlength⟩ := h
  next blanks digits =>
  refine ⟨digits, ?_, hdigits, hlength⟩
  obtain ⟨d, ds, rfl⟩ := List.exists_cons_of_ne_nil hdigits.nonempty
  have hd := Text.isBlank_eq_false_of_isDigit (hdigits.digits d List.mem_cons_self)
  rw [List.append_assoc]
  exact Text.trimStart_append hblanks hd

theorem number?_append {limit n : Nat} {text rest : List Char} (h : PaddedNumeral limit text n)
    (hrest : ∀ c ∈ rest.head?, c.isDigit = false) :
    number? limit (text ++ rest) = some (n, rest) := by
  obtain ⟨digits, htrim, hdigits, hlength⟩ := h.trimStart_append rest
  have htaken : ((digits ++ rest).take limit).takeWhile Text.isDigit = digits := by
    rw [List.take_append, List.take_of_length_le hlength]
    refine Text.takeWhile_isDigit_append hdigits.digits fun c hc => hrest c ?_
    rw [List.head?_take] at hc
    split at hc
    · cases hc
    · exact hc
  unfold number?
  dsimp only
  rw [htrim, htaken, Text.digits?_eq_some_iff.mpr hdigits, Option.map_some, List.drop_left]

/-! ### Years -/

/-- Blanks, and then a numeral of at most four digits, or a sign and a numeral of any length. -/
inductive YearText : List Char → Int → Prop where
  | unsigned {text : List Char} {n : Nat} (h : PaddedNumeral 4 text n) : YearText text n
  | plus {blanks digits : List Char} {n : Nat} (hblanks : ∀ c ∈ blanks, isBlank c = true)
      (hdigits : Text.Numeral digits n) : YearText (blanks ++ '+' :: digits) n
  | minus {blanks digits : List Char} {n : Nat} (hblanks : ∀ c ∈ blanks, isBlank c = true)
      (hdigits : Text.Numeral digits n) : YearText (blanks ++ '-' :: digits) (-n)

private theorem of_signed_eq_some {f : Nat → Int} {year : Int} {cs rest : List Char}
    (h : year?.signed cs f = some (year, rest)) :
    ∃ digits n, cs = digits ++ rest ∧ Text.Numeral digits n ∧ year = f n := by
  unfold year?.signed at h
  obtain ⟨n, hn, hpair⟩ := Option.map_eq_some_iff.mp h
  cases hpair
  refine ⟨cs.takeWhile Text.isDigit, n, ?_, Text.digits?_eq_some_iff.mp hn, rfl⟩
  exact (List.prefix_iff_eq_append.mp (List.takeWhile_prefix _)).symm

private theorem signed_append {f : Nat → Int} {n : Nat} {digits rest : List Char}
    (hdigits : Text.Numeral digits n) (hrest : ∀ c ∈ rest.head?, c.isDigit = false) :
    year?.signed (digits ++ rest) f = some (f n, rest) := by
  unfold year?.signed
  dsimp only
  rw [Text.takeWhile_isDigit_append hdigits.digits hrest, Text.digits?_eq_some_iff.mpr hdigits,
    Option.map_some, List.drop_left]

private theorem of_year?_eq_some {year : Int} {cs rest : List Char}
    (h : year? cs = some (year, rest)) :
    ∃ text, cs = text ++ rest ∧ YearText text year := by
  obtain ⟨blanks, hcs, hblanks⟩ := Text.exists_blanks_append_trimStart cs
  unfold year? at h
  split at h
  · next signed htrim =>
    obtain ⟨digits, n, rfl, hdigits, rfl⟩ := of_signed_eq_some h
    exact ⟨blanks ++ '-' :: digits, by simpa [htrim] using hcs, .minus hblanks hdigits⟩
  · next signed htrim =>
    obtain ⟨digits, n, rfl, hdigits, rfl⟩ := of_signed_eq_some h
    exact ⟨blanks ++ '+' :: digits, by simpa [htrim] using hcs, .plus hblanks hdigits⟩
  · obtain ⟨⟨n, rest'⟩, hnumber, hpair⟩ := Option.map_eq_some_iff.mp h
    cases hpair
    rw [number?_trimStart] at hnumber
    obtain ⟨text, htext, hnumeral⟩ := of_number?_eq_some hnumber
    exact ⟨text, htext, .unsigned hnumeral⟩

theorem year?_append {year : Int} {text rest : List Char} (h : YearText text year)
    (hrest : ∀ c ∈ rest.head?, c.isDigit = false) :
    year? (text ++ rest) = some (year, rest) := by
  unfold year?
  cases h with
  | unsigned h =>
    obtain ⟨digits, htrim, hdigits, -⟩ := h.trimStart_append rest
    -- A digit is no sign.
    have hhead (sign : Char) (cs : List Char) (hsign : trimStart (text ++ rest) = sign :: cs) :
        sign.isDigit = true := by
      obtain ⟨d, ds, rfl⟩ := List.exists_cons_of_ne_nil hdigits.nonempty
      rw [htrim] at hsign
      obtain ⟨rfl, -⟩ := List.cons.inj hsign
      exact hdigits.digits d List.mem_cons_self
    split
    · next hsign => cases hhead _ _ hsign
    · next hsign => cases hhead _ _ hsign
    · rw [number?_trimStart, number?_append h hrest]
      rfl
  | @plus blanks digits n hblanks hdigits =>
    have htrim : trimStart (blanks ++ '+' :: digits ++ rest) = '+' :: (digits ++ rest) := by
      rw [List.append_assoc]
      exact Text.trimStart_append hblanks (by decide)
    rw [htrim]
    exact signed_append hdigits hrest
  | @minus blanks digits n hblanks hdigits =>
    have htrim : trimStart (blanks ++ '-' :: digits ++ rest) = '-' :: (digits ++ rest) := by
      rw [List.append_assoc]
      exact Text.trimStart_append hblanks (by decide)
    rw [htrim]
    exact signed_append hdigits hrest

/-! ### Dates -/

theorem literal?_eq_some_iff {c : Char} {cs rest : List Char} :
    literal? c cs = some rest ↔ cs = c :: rest := by
  cases cs with
  | nil => simp [literal?]
  | cons d ds =>
    by_cases hd : d = c
    · simp [literal?, hd]
    · simp [literal?, hd]

theorem date?_eq_some_iff {year : Int} {month day : Nat} {d : Date} :
    date? year month day = some d ↔ d.year = year ∧ d.month = month ∧ d.day = day := by
  unfold date?
  constructor
  · intro h
    split at h
    · cases h
      exact ⟨rfl, rfl, rfl⟩
    · cases h
  · rintro ⟨rfl, rfl, rfl⟩
    rw [dif_pos d.exists_day]

/-- A text is read as a date exactly if it is a year, a month and a day of that date with hyphens
between them. -/
theorem dateOfText?_eq_some_iff {cs : List Char} {d : Date} :
    dateOfText? cs = some d ↔ ∃ year month day, cs = year ++ '-' :: (month ++ '-' :: day) ∧
      YearText year d.year ∧ PaddedNumeral 2 month d.month ∧ PaddedNumeral 2 day d.day := by
  constructor
  · intro h
    simp only [dateOfText?, Option.bind_eq_bind, Option.bind_eq_some_iff, Prod.exists,
      literal?_eq_some_iff] at h
    obtain ⟨y, _, hyear, _, rfl, m, _, hmonth, _, rfl, n, rest, hday, hdate⟩ := h
    split at hdate
    · next hempty =>
      obtain ⟨hy, hm, hn⟩ := date?_eq_some_iff.mp hdate
      obtain rfl := List.isEmpty_iff.mp hempty
      obtain ⟨year, rfl, hyearText⟩ := of_year?_eq_some hyear
      obtain ⟨month, rfl, hmonthText⟩ := of_number?_eq_some hmonth
      obtain ⟨day, rfl, hdayText⟩ := of_number?_eq_some hday
      rw [List.append_nil, hy, hm, hn]
      exact ⟨year, month, day, rfl, hyearText, hmonthText, hdayText⟩
    · cases hdate
  · rintro ⟨year, month, day, rfl, hyear, hmonth, hday⟩
    have hyear' : year? (year ++ '-' :: (month ++ '-' :: day)) =
        some (d.year, '-' :: (month ++ '-' :: day)) := year?_append hyear (by simp)
    have hmonth' : number? 2 (month ++ '-' :: day) = some (d.month, '-' :: day) :=
      number?_append hmonth (by simp)
    have hday' : number? 2 (day ++ []) = some (d.day, []) := number?_append hday (by simp)
    have hdate : date? d.year d.month d.day = some d := date?_eq_some_iff.mpr ⟨rfl, rfl, rfl⟩
    rw [List.append_nil] at hday'
    simp [dateOfText?, hyear', hmonth', hday', literal?, hdate]

end Time

end Depository
