import Depository.Proofs.Text.Parts
import Depository.Proofs.Time.DateReading
import Depository.Schema.Kind
import Mathlib.Data.String.Basic

/-!
# Dates as metadata values

A date is given as a year of four digits, a year and a month of two, or a year, a month and a day.
Values of the kind are all that, and more: a plus sign counts as a digit of the year, a month may
have a sign and any number of digits, and days are whatever is read as a date. All these are values
that do not keep to digits in groups of four, two and two.
-/

namespace Depository

namespace Text

/-- A numeral with a given number of digits. -/
structure FixedNumeral (width : Nat) (cs : List Char) (n : Nat) : Prop extends Numeral cs n where
  length : cs.length = width

private theorem ofDigitChars_lt {cs : List Char} (h : ∀ c ∈ cs, c.isDigit = true) (value : Nat) :
    Nat.ofDigitChars 10 cs value < (value + 1) * 10 ^ cs.length := by
  induction cs generalizing value with
  | nil => simp
  | cons c rest ih =>
    obtain ⟨hc, hrest⟩ := List.forall_mem_cons.mp h
    have hlast : c.toNat ≤ 57 := (Char.isDigit_iff_toNat.mp hc).2
    have hdigit : 10 * value + (c.toNat - '0'.toNat) + 1 ≤ (value + 1) * 10 := by
      have hzero : '0'.toNat = 48 := rfl
      omega
    rw [Nat.ofDigitChars_cons, List.length_cons, Nat.pow_succ']
    calc _ < (10 * value + (c.toNat - '0'.toNat) + 1) * 10 ^ rest.length := ih hrest _
      _ ≤ (value + 1) * 10 * 10 ^ rest.length := Nat.mul_le_mul_right _ hdigit
      _ = (value + 1) * (10 * 10 ^ rest.length) := Nat.mul_assoc _ _ _

private theorem Numeral.lt {cs : List Char} {n : Nat} (h : Numeral cs n) : n < 10 ^ cs.length := by
  have hlt := ofDigitChars_lt h.digits 0
  rwa [h.value, Nat.zero_add, Nat.one_mul] at hlt

/-- ASCII characters take one byte each. -/
private theorem utf8ByteSize_of_isDigit {cs : List Char} (h : ∀ c ∈ cs, c.isDigit = true) :
    (String.ofList cs).utf8ByteSize = cs.length := by
  rw [String.utf8ByteSize_ofList]
  induction cs with
  | nil => rfl
  | cons c rest ih =>
    obtain ⟨hc, hrest⟩ := List.forall_mem_cons.mp h
    have hsize : c.utf8Size = 1 := by
      have hlast : c.toNat ≤ 57 := (Char.isDigit_iff_toNat.mp hc).2
      rw [Char.utf8Size_eq_one_iff, UInt32.le_iff_toNat_le]
      exact hlast.trans (by decide)
    rw [String.utf8Len_cons, ih hrest, hsize, List.length_cons]

private theorem utf8ByteSize_plus {cs : List Char} (h : ∀ c ∈ cs, c.isDigit = true) :
    (String.ofList ('+' :: cs)).utf8ByteSize = cs.length + 1 := by
  have hrest := utf8ByteSize_of_isDigit h
  rw [String.utf8ByteSize_ofList] at hrest ⊢
  have hplus : ('+').utf8Size = 1 := by decide
  rw [String.utf8Len_cons, hrest, hplus]

private theorem integer?_of_numeral {cs : List Char} {n : Nat} (h : Numeral cs n) :
    integer? cs = some (n : Int) := by
  unfold integer?
  split
  · cases h.digits '+' List.mem_cons_self
  · cases h.digits '-' List.mem_cons_self
  · rw [digits?_eq_some_iff.mpr h]
    rfl

private theorem integer?_plus_of_numeral {cs : List Char} {n : Nat} (h : Numeral cs n) :
    integer? ('+' :: cs) = some (n : Int) := by
  show (digits? cs).map Int.ofNat = _
  rw [digits?_eq_some_iff.mpr h]
  rfl

end Text

namespace FieldKind

open Text (Numeral FixedNumeral)
open Time (YearText PaddedNumeral)

/-! ### Years and months -/

/-- Four digits, or a plus sign and three. -/
inductive YearNumeral : List Char → Prop where
  | plain {cs : List Char} {n : Nat} (h : FixedNumeral 4 cs n) : YearNumeral cs
  | signed {cs : List Char} {n : Nat} (h : FixedNumeral 3 cs n) : YearNumeral ('+' :: cs)

/-- A number from 1 to 12, with any number of digits and perhaps a plus sign. -/
inductive MonthNumeral : List Char → Prop where
  | plain {cs : List Char} {n : Nat} (h : Numeral cs n) (hfirst : 1 ≤ n) (hlast : n ≤ 12) :
      MonthNumeral cs
  | signed {cs : List Char} {n : Nat} (h : Numeral cs n) (hfirst : 1 ≤ n) (hlast : n ≤ 12) :
      MonthNumeral ('+' :: cs)

private theorem fitsSigned_of_lt {n width : Nat} (h : n < 10 ^ width) (hwidth : width ≤ 4) :
    Text.fitsSigned 32 n = true := by
  have hbound : n < 10 ^ 4 := h.trans_le (Nat.pow_le_pow_right (by decide) hwidth)
  simp only [Text.fitsSigned, Bool.and_eq_true, decide_eq_true_eq]
  have hhalf : Nat.pow 2 (32 - 1) = 2147483648 := rfl
  omega

private theorem isYear_eq_true_iff {cs : List Char} (hminus : '-' ∉ cs) :
    isYear cs = true ↔ YearNumeral cs := by
  unfold isYear Text.signed?
  rw [Bool.and_eq_true, beq_iff_eq]
  constructor
  · rintro ⟨hsize, hsigned⟩
    obtain ⟨n, hn⟩ := Option.isSome_iff_exists.mp hsigned
    have hinteger := (Option.filter_eq_some_iff.mp hn).1
    unfold Text.integer? at hinteger
    split at hinteger
    · next digits =>
      obtain ⟨m, hm, -⟩ := Option.map_eq_some_iff.mp hinteger
      have hdigits := Text.digits?_eq_some_iff.mp hm
      rw [Text.utf8ByteSize_plus hdigits.digits] at hsize
      exact .signed ⟨hdigits, Nat.succ.inj hsize⟩
    · exact absurd List.mem_cons_self hminus
    · obtain ⟨m, hm, -⟩ := Option.map_eq_some_iff.mp hinteger
      have hdigits := Text.digits?_eq_some_iff.mp hm
      rw [Text.utf8ByteSize_of_isDigit hdigits.digits] at hsize
      exact .plain ⟨hdigits, hsize⟩
  · intro h
    cases h with
    | plain h =>
      have hfits := fitsSigned_of_lt h.lt (Nat.le_of_eq h.length)
      rw [Text.integer?_of_numeral h.toNumeral, Option.filter_some, if_pos hfits]
      exact ⟨(Text.utf8ByteSize_of_isDigit h.digits).trans h.length, rfl⟩
    | @signed digits n h =>
      have hfits := fitsSigned_of_lt h.lt (by rw [h.length]; decide)
      rw [Text.integer?_plus_of_numeral h.toNumeral, Option.filter_some, if_pos hfits,
        Text.utf8ByteSize_plus h.digits, h.length]
      exact ⟨rfl, rfl⟩

private theorem isMonth_of_numeral {cs digits : List Char} {n : Nat}
    (hread : Text.unsigned? 32 cs = (Text.digits? digits).filter (Text.fitsUnsigned 32))
    (h : Numeral digits n) (hfirst : 1 ≤ n) (hlast : n ≤ 12) : isMonth cs = true := by
  have hfits : Text.fitsUnsigned 32 n = true := by
    have hbound : n < Nat.pow 2 32 := Nat.lt_of_le_of_lt hlast (by decide)
    exact decide_eq_true hbound
  unfold isMonth
  rw [hread, Text.digits?_eq_some_iff.mpr h, Option.filter_some, if_pos hfits]
  simp [hfirst, hlast]

private theorem isMonth_eq_true_iff {cs : List Char} : isMonth cs = true ↔ MonthNumeral cs := by
  constructor
  · intro h
    unfold isMonth Text.unsigned? at h
    obtain ⟨n, hn, hmonth⟩ := (Option.any_eq_true _ _).mp h
    have hread := (Option.filter_eq_some_iff.mp hn).1
    simp only [Bool.and_eq_true, decide_eq_true_eq] at hmonth
    split at hread
    · exact .signed (Text.digits?_eq_some_iff.mp hread) hmonth.1 hmonth.2
    · exact .plain (Text.digits?_eq_some_iff.mp hread) hmonth.1 hmonth.2
  · intro h
    cases h with
    | plain h hfirst hlast =>
      refine isMonth_of_numeral ?_ h hfirst hlast
      unfold Text.unsigned?
      split
      · cases h.digits '+' List.mem_cons_self
      · rfl
    | signed h hfirst hlast => exact isMonth_of_numeral rfl h hfirst hlast

/-! ### Whole dates -/

/-- The placeholder, a year of four digits, a year and a month of two, or a day of the calendar with
all three. -/
inductive DocumentedDate : List Char → Prop where
  | missing : DocumentedDate notApplicable.toList
  | year {year : List Char} {y : Nat} (hyear : FixedNumeral 4 year y) : DocumentedDate year
  | month {year month : List Char} {y m : Nat} (hyear : FixedNumeral 4 year y)
      (hmonth : FixedNumeral 2 month m) (hfirst : 1 ≤ m) (hlast : m ≤ 12) :
      DocumentedDate (year ++ '-' :: month)
  | day {year month day : List Char} {y m d : Nat} (hyear : FixedNumeral 4 year y)
      (hmonth : FixedNumeral 2 month m) (hday : FixedNumeral 2 day d)
      (hexists : Time.isDate y m d = true) : DocumentedDate (year ++ '-' :: (month ++ '-' :: day))

/-- What is taken for a date. -/
inductive TakenDate : List Char → Prop where
  | missing : TakenDate notApplicable.toList
  | year {year : List Char} (hyear : YearNumeral year) : TakenDate year
  | month {year month : List Char} (hyear : YearNumeral year) (hmonth : MonthNumeral month) :
      TakenDate (year ++ '-' :: month)
  | day {year month day : List Char} {d : Time.Date} (hminus : '-' ∉ year)
      (hyear : YearText year d.year) (hmonth : PaddedNumeral 2 month d.month)
      (hday : PaddedNumeral 2 day d.day) : TakenDate (year ++ '-' :: (month ++ '-' :: day))

/-- The placeholder, or digits with hyphens between them in groups of four, of four and two, or of
four, two and two. -/
def IsPlain (cs : List Char) : Prop :=
  cs = notApplicable.toList ∨
    (Text.splitAt '-' cs).map List.length ∈ [[4], [4, 2], [4, 2, 2]] ∧
      ∀ part ∈ Text.splitAt '-' cs, part.all Char.isDigit = true

instance : DecidablePred IsPlain := fun _ => inferInstanceAs (Decidable (_ ∨ _))

private theorem minus_notMem_of_blank {blanks : List Char}
    (h : ∀ c ∈ blanks, Text.isBlank c = true) :
    '-' ∉ blanks := fun hmem => absurd (h _ hmem) (by decide)

private theorem minus_notMem_of_numeral {digits : List Char} {n : Nat} (h : Numeral digits n) :
    '-' ∉ digits := fun hmem => absurd (h.digits _ hmem) (by decide)

private theorem YearNumeral.minus_notMem {year : List Char} (h : YearNumeral year) :
    '-' ∉ year := by
  cases h with
  | plain h => exact minus_notMem_of_numeral h.toNumeral
  | signed h => simp [minus_notMem_of_numeral h.toNumeral]

private theorem MonthNumeral.minus_notMem {month : List Char} (h : MonthNumeral month) :
    '-' ∉ month := by
  cases h with
  | plain h => exact minus_notMem_of_numeral h
  | signed h => simp [minus_notMem_of_numeral h]

private theorem paddedNumeral_minus_notMem {limit n : Nat} {text : List Char}
    (h : PaddedNumeral limit text n) : '-' ∉ text := by
  obtain ⟨hblanks, hdigits, -⟩ := h
  simp [minus_notMem_of_blank hblanks, minus_notMem_of_numeral hdigits]

/-- A year without a hyphen, or one with a minus sign. -/
private theorem minus_notMem_or_of_yearText {text : List Char} {year : Int}
    (h : YearText text year) :
    '-' ∉ text ∨ ∃ blanks digits, text = blanks ++ '-' :: digits ∧ '-' ∉ blanks ∧ '-' ∉ digits := by
  cases h with
  | unsigned h => exact Or.inl (paddedNumeral_minus_notMem h)
  | plus hblanks hdigits =>
    left
    simp [minus_notMem_of_blank hblanks, minus_notMem_of_numeral hdigits]
  | minus hblanks hdigits =>
    exact Or.inr ⟨_, _, rfl, minus_notMem_of_blank hblanks, minus_notMem_of_numeral hdigits⟩

private theorem splitAt_year {year : List Char} (hyear : '-' ∉ year) :
    Text.splitAt '-' year = [year] :=
  (Text.splitAt_eq_iff (by simp)).mpr ⟨by simp, by simpa using hyear⟩

private theorem splitAt_month {year month : List Char} (hyear : '-' ∉ year) (hmonth : '-' ∉ month) :
    Text.splitAt '-' (year ++ '-' :: month) = [year, month] :=
  (Text.splitAt_eq_iff (by simp)).mpr ⟨by simp, by simp [hyear, hmonth]⟩

private theorem splitAt_day {year month day : List Char} (hyear : '-' ∉ year) (hmonth : '-' ∉ month)
    (hday : '-' ∉ day) :
    Text.splitAt '-' (year ++ '-' :: (month ++ '-' :: day)) = [year, month, day] :=
  (Text.splitAt_eq_iff (by simp)).mpr ⟨by simp, by simp [hyear, hmonth, hday]⟩

private theorem takenDate_of_isPartialDate {cs : List Char} (h : isPartialDate cs = true) :
    TakenDate cs := by
  unfold isPartialDate at h
  split at h
  · next year hparts =>
    obtain ⟨hcs, hminus⟩ := (Text.splitAt_eq_iff (by simp)).mp hparts
    obtain rfl : year = cs := by simpa using hcs
    exact .year ((isYear_eq_true_iff (hminus year (by simp))).mp h)
  · next year month hparts =>
    obtain ⟨hcs, hminus⟩ := (Text.splitAt_eq_iff (by simp)).mp hparts
    obtain rfl : year ++ '-' :: month = cs := by simpa using hcs
    obtain ⟨hyear, hmonth⟩ := Bool.and_eq_true_iff.mp h
    exact .month ((isYear_eq_true_iff (hminus year (by simp))).mp hyear)
      (isMonth_eq_true_iff.mp hmonth)
  · next first second third hparts =>
    obtain ⟨d, hd⟩ := Option.isSome_iff_exists.mp h
    obtain ⟨year, month, day, rfl, hyear, hmonth, hday⟩ := Time.dateOfText?_eq_some_iff.mp hd
    refine .day ?_ hyear hmonth hday
    rcases minus_notMem_or_of_yearText hyear with hminus | ⟨blanks, digits, rfl, hblanks, hdigits⟩
    · exact hminus
    · -- The sign would make a fourth part.
      have hfour : Text.splitAt '-' (blanks ++ '-' :: digits ++ '-' :: (month ++ '-' :: day)) =
          [blanks, digits, month, day] := by
        rw [Text.splitAt_eq_iff (by simp)]
        refine ⟨by simp, ?_⟩
        simp [hblanks, hdigits, paddedNumeral_minus_notMem hmonth, paddedNumeral_minus_notMem hday]
      cases hfour.symm.trans hparts
  · cases h

/-- What is taken for a date, of all values. -/
private theorem accepts_date_iff (s : String) :
    FieldKind.date.accepts s = true ↔ TakenDate (Text.trimChars s.toList) := by
  have haccepts : FieldKind.date.accepts s = true ↔
      Text.trimChars s.toList = notApplicable.toList ∨
        isPartialDate (Text.trimChars s.toList) = true := by
    simp [accepts, hasForm]
  rw [haccepts]
  generalize Text.trimChars s.toList = cs
  constructor
  · rintro (rfl | h)
    · exact .missing
    · exact takenDate_of_isPartialDate h
  · intro h
    cases h with
    | missing => exact Or.inl rfl
    | year hyear =>
      right
      unfold isPartialDate
      rw [splitAt_year hyear.minus_notMem]
      exact (isYear_eq_true_iff hyear.minus_notMem).mpr hyear
    | month hyear hmonth =>
      right
      unfold isPartialDate
      rw [splitAt_month hyear.minus_notMem hmonth.minus_notMem]
      exact Bool.and_eq_true_iff.mpr ⟨(isYear_eq_true_iff hyear.minus_notMem).mpr hyear,
        isMonth_eq_true_iff.mpr hmonth⟩
    | day hminus hyear hmonth hday =>
      right
      unfold isPartialDate
      rw [splitAt_day hminus (paddedNumeral_minus_notMem hmonth) (paddedNumeral_minus_notMem hday)]
      have hdate := Time.dateOfText?_eq_some_iff.mpr ⟨_, _, _, rfl, hyear, hmonth, hday⟩
      exact Option.isSome_iff_exists.mpr ⟨_, hdate⟩

private theorem paddedNumeral_of_fixedNumeral {width n : Nat} {text : List Char}
    (h : FixedNumeral width text n) : PaddedNumeral width text n := by
  show PaddedNumeral width ([] ++ text) n
  exact .intro (by simp) h.toNumeral (Nat.le_of_eq h.length)

/-- Digits as they stand, without blanks before them. -/
private theorem numeral_of_isDigit {limit n : Nat} {text : List Char}
    (h : PaddedNumeral limit text n) (hdigits : ∀ c ∈ text, c.isDigit = true) : Numeral text n := by
  obtain ⟨hblanks, hnumeral, -⟩ := h
  next blanks digits =>
  have hnone : blanks = [] := by
    rw [List.eq_nil_iff_forall_not_mem]
    intro c hc
    have hdigit := hdigits c (List.mem_append_left _ hc)
    cases (hblanks c hc).symm.trans (Text.isBlank_eq_false_of_isDigit hdigit)
  rwa [hnone]

private theorem numeral_of_yearText {year : Int} {text : List Char} (h : YearText text year)
    (hdigits : ∀ c ∈ text, c.isDigit = true) : ∃ n : Nat, year = n ∧ Numeral text n := by
  cases h with
  | unsigned h => exact ⟨_, rfl, numeral_of_isDigit h hdigits⟩
  | plus => cases hdigits '+' (List.mem_append_right _ List.mem_cons_self)
  | minus => cases hdigits '-' (List.mem_append_right _ List.mem_cons_self)

private theorem fixedNumeral_of_yearNumeral {text : List Char} (h : YearNumeral text)
    (hdigits : ∀ c ∈ text, c.isDigit = true) : ∃ n, FixedNumeral 4 text n := by
  cases h with
  | plain h => exact ⟨_, h⟩
  | signed h => cases hdigits '+' List.mem_cons_self

private theorem numeral_of_monthNumeral {text : List Char} (h : MonthNumeral text)
    (hdigits : ∀ c ∈ text, c.isDigit = true) : ∃ n, Numeral text n ∧ 1 ≤ n ∧ n ≤ 12 := by
  cases h with
  | plain h hfirst hlast => exact ⟨_, h, hfirst, hlast⟩
  | signed h => cases hdigits '+' List.mem_cons_self

/-- The documented dates are those of the taken ones that keep to digits in groups. -/
private theorem documentedDate_iff {cs : List Char} :
    DocumentedDate cs ↔ TakenDate cs ∧ IsPlain cs := by
  constructor
  · intro h
    cases h with
    | missing => exact ⟨.missing, Or.inl rfl⟩
    | year hyear =>
      refine ⟨.year (.plain hyear), Or.inr ?_⟩
      rw [splitAt_year (minus_notMem_of_numeral hyear.toNumeral)]
      exact ⟨by simp [hyear.length], by simpa using hyear.digits⟩
    | month hyear hmonth hfirst hlast =>
      refine ⟨.month (.plain hyear) (.plain hmonth.toNumeral hfirst hlast), Or.inr ?_⟩
      rw [splitAt_month (minus_notMem_of_numeral hyear.toNumeral)
        (minus_notMem_of_numeral hmonth.toNumeral)]
      exact ⟨by simp [hyear.length, hmonth.length], by simpa using ⟨hyear.digits, hmonth.digits⟩⟩
    | @day year month day y m d hyear hmonth hday hexists =>
      have hyearMinus := minus_notMem_of_numeral hyear.toNumeral
      have hmonthMinus := minus_notMem_of_numeral hmonth.toNumeral
      have hdayMinus := minus_notMem_of_numeral hday.toNumeral
      refine ⟨.day (d := ⟨y, m, d, hexists⟩) hyearMinus ?_ ?_ ?_, Or.inr ?_⟩
      · exact .unsigned (paddedNumeral_of_fixedNumeral hyear)
      · exact paddedNumeral_of_fixedNumeral hmonth
      · exact paddedNumeral_of_fixedNumeral hday
      · rw [splitAt_day hyearMinus hmonthMinus hdayMinus]
        exact ⟨by simp [hyear.length, hmonth.length, hday.length],
          by simpa using ⟨hyear.digits, hmonth.digits, hday.digits⟩⟩
  · rintro ⟨htaken, rfl | ⟨hlengths, hdigits⟩⟩
    · exact .missing
    · simp only [List.all_eq_true] at hdigits
      cases htaken with
      | missing => exact .missing
      | year hyear =>
        rw [splitAt_year hyear.minus_notMem] at hdigits
        obtain ⟨y, hy⟩ := fixedNumeral_of_yearNumeral hyear (hdigits _ (by simp))
        exact .year hy
      | @month year month hyear hmonth =>
        rw [splitAt_month hyear.minus_notMem hmonth.minus_notMem] at hlengths hdigits
        obtain ⟨y, hy⟩ := fixedNumeral_of_yearNumeral hyear (hdigits year (by simp))
        obtain ⟨m, hm, hfirst, hlast⟩ := numeral_of_monthNumeral hmonth (hdigits month (by simp))
        have hlength : month.length = 2 := by simpa [hy.length] using hlengths
        exact .month hy ⟨hm, hlength⟩ hfirst hlast
      | @day year month day d hminus hyear hmonth hday =>
        rw [splitAt_day hminus (paddedNumeral_minus_notMem hmonth)
          (paddedNumeral_minus_notMem hday)] at hlengths hdigits
        obtain ⟨y, hy, hyearNumeral⟩ := numeral_of_yearText hyear (hdigits year (by simp))
        have hmonthNumeral := numeral_of_isDigit hmonth (hdigits month (by simp))
        have hdayNumeral := numeral_of_isDigit hday (hdigits day (by simp))
        obtain ⟨hyearLength, hmonthLength, hdayLength⟩ :
            year.length = 4 ∧ month.length = 2 ∧ day.length = 2 := by simpa using hlengths
        have hexists := d.exists_day
        rw [hy] at hexists
        exact .day ⟨hyearNumeral, hyearLength⟩ ⟨hmonthNumeral, hmonthLength⟩
          ⟨hdayNumeral, hdayLength⟩ hexists

/-- A value is taken for a date exactly if it is a date in one of the forms that are taken. That
agrees with the documented forms exactly for the values that, if they are taken, keep to digits in
groups. -/
theorem date_values_documented_iff (s : String) :
    let value := Text.trimChars s.toList
    (FieldKind.date.accepts s = true ↔ TakenDate value) ∧
      ((FieldKind.date.accepts s = true ↔ DocumentedDate value) ↔
        (TakenDate value → IsPlain value)) := by
  intro value
  refine ⟨accepts_date_iff s, ?_⟩
  rw [accepts_date_iff s, documentedDate_iff]
  show (TakenDate value ↔ TakenDate value ∧ IsPlain value) ↔ _
  tauto

/-- The calendar decides where the forms agree. -/
example : FieldKind.date.accepts "2024-02-29" = true ∧
    FieldKind.date.accepts "2023-02-29" = false := by
  decide +kernel

/-- A plus sign passes for the first digit of a year, and a single digit for a month. -/
theorem signed_year_taken :
    (FieldKind.date.accepts "+202" = true ∧
      ¬ DocumentedDate (Text.trimChars "+202".toList)) ∧
    (FieldKind.date.accepts "2024-1" = true ∧
      ¬ DocumentedDate (Text.trimChars "2024-1".toList)) := by
  refine ⟨⟨by decide +kernel, fun h => ?_⟩, by decide +kernel, fun h => ?_⟩
  · exact absurd (documentedDate_iff.mp h).2 (by decide +kernel)
  · exact absurd (documentedDate_iff.mp h).2 (by decide +kernel)

end FieldKind

end Depository
