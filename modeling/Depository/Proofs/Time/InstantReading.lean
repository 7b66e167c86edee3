import Depository.Proofs.Time.DateReading
import Depository.Time.Instant
import Mathlib.Data.Nat.Digits.Defs

/-!
# Instants that are read back

The text of an instant is read as that instant: its year of any size, its clock with a leap second
too, and its fraction of a second to the nanosecond.
-/

namespace Depository

namespace Text

/-! ### Numbers of a width -/

private theorem Numeral.zeros_append {digits : List Char} {n : Nat} (h : Numeral digits n)
    (count : Nat) :
    Numeral (List.replicate count '0' ++ digits) n := by
  induction count with
  | zero => exact h
  | succ count ih =>
    refine ⟨List.cons_ne_nil _ _, List.forall_mem_cons.mpr ⟨by decide, ih.digits⟩, ?_⟩
    rw [List.replicate_succ, List.cons_append, Nat.ofDigitChars_cons]
    exact ih.value

private theorem numeral_padded (width n : Nat) : Numeral (padded width n).toList n := by
  have hdigits : Numeral (toString n).toList n := digits?_eq_some_iff.mp (digits?_toString n)
  rw [padded, String.toList_append, String.toList_ofList]
  exact hdigits.zeros_append _

private theorem length_padded {width n : Nat} (hwidth : 0 < width) (hn : n < 10 ^ width) :
    (padded width n).toList.length = width := by
  have hlength : (toString n).length ≤ width := Nat.repr_length n width hwidth hn
  rw [padded, String.toList_append, String.toList_ofList, List.length_append,
    List.length_replicate, String.length_toList]
  omega

end Text

namespace Time

open Text (isBlank trimStart)

private theorem paddedNumeral_padded {width limit n : Nat} (hwidth : 0 < width)
    (hn : n < 10 ^ width)
    (hlimit : width ≤ limit) : PaddedNumeral limit (Text.padded width n).toList n := by
  have hlength : (Text.padded width n).toList.length ≤ limit :=
    (Text.length_padded hwidth hn).trans_le hlimit
  have hnumeral : PaddedNumeral limit ([] ++ (Text.padded width n).toList) n :=
    .intro (by simp) (Text.numeral_padded width n) hlength
  rwa [List.nil_append] at hnumeral

/-- A number of two digits before a character that is no digit. -/
private theorem number?_padded_two {n : Nat} (hn : n < 100) {c : Char} (rest : List Char)
    (hc : c.isDigit = false) :
    number? 2 ((Text.padded 2 n).toList ++ c :: rest) = some (n, c :: rest) :=
  number?_append (paddedNumeral_padded (by decide) hn (by decide)) (by simpa using hc)

private theorem yearText_yearText (year : Int) : YearText (yearText year).toList year := by
  unfold yearText
  split
  · next hrange =>
    have hyear : (year.toNat : Int) = year := Int.toNat_of_nonneg hrange.1
    have hnumeral : PaddedNumeral 4 (Text.padded 4 year.toNat).toList year.toNat :=
      paddedNumeral_padded (by decide) (by omega) (by decide)
    have htext : YearText (Text.padded 4 year.toNat).toList year.toNat := .unsigned hnumeral
    rwa [hyear] at htext
  · rw [String.toList_append]
    have hdigits := Text.numeral_padded 4 year.natAbs
    have hnone : ∀ c ∈ ([] : List Char), isBlank c = true := by simp
    split
    · next hneg =>
      have hyear : -(year.natAbs : Int) = year := by omega
      have htext := YearText.minus hnone hdigits
      rwa [hyear] at htext
    · next hpos =>
      have hyear : (year.natAbs : Int) = year := by omega
      have htext := YearText.plus hnone hdigits
      rwa [hyear] at htext

/-! ### The fraction of a second -/

/-- A fraction of so many digits, up to nine. -/
private theorem fraction?_padded {width n : Nat} {c : Char} (rest : List Char) (hwidth : 0 < width)
    (hlimit : width ≤ 9) (hn : n < 10 ^ width) (hc : c.isDigit = false) :
    fraction? ((Text.padded width n).toList ++ c :: rest) =
      some (n * 10 ^ (9 - width), c :: rest) := by
  have hnumeral := Text.numeral_padded width n
  have hlength := Text.length_padded hwidth hn
  have hdigits : ((Text.padded width n).toList ++ c :: rest).takeWhile Text.isDigit =
      (Text.padded width n).toList :=
    Text.takeWhile_isDigit_append hnumeral.digits (by simpa using hc)
  have hkept : (Text.padded width n).toList.take 9 = (Text.padded width n).toList :=
    List.take_of_length_le (hlength.trans_le hlimit)
  unfold fraction?
  dsimp only
  rw [hdigits, hkept, Text.digits?_eq_some_iff.mpr hnumeral, hlength, Option.map_some,
    List.drop_left' hlength]
  rfl

/-- What is read behind the seconds. -/
def nanos? (cs : List Char) : Option (Nat × List Char) :=
  match cs with
  | '.' :: rest => fraction? rest
  | _ => some (0, cs)

private theorem nanos?_bind {α : Type} (cs : List Char) (next : Nat × List Char → Option α) :
    (match cs with
      | '.' :: rest => fraction? rest >>= next
      | _ => some (0, cs) >>= next) = nanos? cs >>= next := by
  unfold nanos?
  split <;> rfl

private theorem nanos?_point (rest : List Char) : nanos? ('.' :: rest) = fraction? rest := rfl

private theorem nanos?_fractionText {nanos : Nat} (h : nanos < 1000000000) (rest : List Char) :
    nanos? ((fractionText nanos).toList ++ 'Z' :: rest) = some (nanos, 'Z' :: rest) := by
  have hread (width n : Nat) (hwidth : 0 < width) (hlimit : width ≤ 9) (hn : n < 10 ^ width) :
      nanos? (("." ++ Text.padded width n).toList ++ 'Z' :: rest) =
        some (n * 10 ^ (9 - width), 'Z' :: rest) := by
    have hpoint : (".").toList = ['.'] := rfl
    rw [String.toList_append, hpoint, List.cons_append, List.nil_append, List.cons_append,
      nanos?_point]
    exact fraction?_padded rest hwidth hlimit hn (by decide)
  unfold fractionText
  split
  · next hzero =>
    rw [hzero]
    rfl
  · split
    · next hmillis =>
      rw [hread 3 _ (by decide) (by decide) (by omega)]
      congr 2
      omega
    · split
      · next hmicros =>
        rw [hread 6 _ (by decide) (by decide) (by omega)]
        congr 2
        omega
      · rw [hread 9 _ (by decide) (by decide) (by omega)]
        congr 2
        omega

/-! ### The whole text -/

private theorem isDate_iff {year : Int} {month day : Nat} : isDate year month day = true ↔
    (firstYear ≤ year ∧ year ≤ lastYear) ∧ (1 ≤ month ∧ month ≤ 12) ∧
      1 ≤ day ∧ day ≤ daysInMonth year month := by
  simp [isDate, and_assoc]

private theorem daysInMonth_le (year : Int) (month : Nat) : daysInMonth year month ≤ 31 := by
  unfold daysInMonth
  split
  · split <;> decide
  · split <;> decide

/-- Where local time is universal time, the parts of an instant are its own. -/
private theorem ofLocal?_self (t : Instant) :
    Instant.ofLocal? t.date t.hour.val t.minute.val t.second t.nanosecond 0 = some t := by
  obtain ⟨date, hour, minute, second, nanosecond⟩ := t
  have hday : ¬ (hour.val * 60 + minute.val - 0 : Int) < 0 ∧
      ¬ (1440 : Int) ≤ hour.val * 60 + minute.val - 0 := by omega
  have hminutes : ((hour.val * 60 + minute.val - 0 : Int) % 1440).toNat =
      hour.val * 60 + minute.val := by omega
  have hhour : Fin.ofNat 24 ((hour.val * 60 + minute.val) / 60) = hour := by
    apply Fin.ext
    rw [Fin.val_ofNat]
    omega
  have hminute : Fin.ofNat 60 ((hour.val * 60 + minute.val) % 60) = minute := by
    apply Fin.ext
    rw [Fin.val_ofNat]
    omega
  simp only [Instant.ofLocal?, if_neg hday.1, if_neg hday.2, hminutes, hhour, hminute]
  rfl

theorem toList_text (t : Instant) : t.text.toList =
    (yearText t.date.year).toList ++ '-' :: ((Text.padded 2 t.date.month).toList ++
      '-' :: ((Text.padded 2 t.date.day).toList ++
        'T' :: ((Text.padded 2 t.hour.val).toList ++ ':' :: ((Text.padded 2 t.minute.val).toList ++
          ':' :: ((Text.padded 2 t.second.val).toList ++
            ((fractionText t.nanosecond.val).toList ++ ['Z'])))))) := by
  simp [Instant.text, Date.text, Instant.clockText, String.toList_append]

/-- Behind the seconds no digit follows at once. -/
private theorem head?_fractionText (nanos : Nat) :
    ∀ c ∈ ((fractionText nanos).toList ++ ['Z']).head?, c.isDigit = false := by
  have hpoint (text : String) : ∀ c ∈ (("." ++ text).toList ++ ['Z']).head?, c.isDigit = false := by
    intro c hc
    rw [String.toList_append] at hc
    cases hc
    rfl
  unfold fractionText
  split
  · simp
  · split
    · exact hpoint _
    · split
      · exact hpoint _
      · exact hpoint _

/-- A character that stands behind a number is found where the blanks have been passed over. -/
private theorem literal?_trimStart {c : Char} (cs : List Char) (hc : isBlank c = false) :
    literal? c (trimStart (c :: cs)) = some cs := by
  have hnone : ∀ c ∈ ([] : List Char), isBlank c = true := by simp
  have htrim : trimStart (c :: cs) = c :: cs := Text.trimStart_append hnone hc
  rw [htrim]
  exact literal?_eq_some_iff.mpr rfl

/-- What is read first is handed on. -/
private theorem bind_of_eq_some {α β : Type} {read : Option α} {a : α} (h : read = some a)
    (next : α → Option β) : (read >>= next) = next a := by
  rw [h]
  rfl

/-- An instant is read back from its text. -/
theorem instantOfText?_text (t : Instant) : instantOfText? t.text = some t := by
  obtain ⟨-, hmonth, hday⟩ := isDate_iff.mp t.date.exists_day
  have hdays := daysInMonth_le t.date.year t.date.month
  have hsecond : PaddedNumeral 2 (Text.padded 2 t.second.val).toList t.second.val :=
    paddedNumeral_padded (by decide) (by omega) (by decide)
  have hzone : zone? ['Z'] = some (0, []) := by decide
  have hdate : date? t.date.year t.date.month t.date.day = some t.date :=
    date?_eq_some_iff.mpr ⟨rfl, rfl, rfl⟩
  rw [instantOfText?, toList_text]
  refine (bind_of_eq_some (year?_append (yearText_yearText _) (by simp)) _).trans ?_
  refine (bind_of_eq_some (literal?_trimStart _ rfl) _).trans ?_
  refine (bind_of_eq_some (number?_padded_two (by omega) _ rfl) _).trans ?_
  refine (bind_of_eq_some (literal?_trimStart _ rfl) _).trans ?_
  refine (bind_of_eq_some (number?_padded_two (by omega) _ rfl) _).trans ?_
  refine (if_pos (.inl rfl)).trans ?_
  refine (bind_of_eq_some rfl _).trans ?_
  refine (bind_of_eq_some (number?_padded_two (by omega) _ rfl) _).trans ?_
  refine (bind_of_eq_some (literal?_trimStart _ rfl) _).trans ?_
  refine (bind_of_eq_some (number?_padded_two (by omega) _ rfl) _).trans ?_
  refine (bind_of_eq_some (literal?_trimStart _ rfl) _).trans ?_
  refine (bind_of_eq_some (number?_append hsecond (head?_fractionText _)) _).trans ?_
  refine (nanos?_bind _ _).trans ?_
  refine (bind_of_eq_some (nanos?_fractionText t.nanosecond.isLt []) _).trans ?_
  refine (bind_of_eq_some hzone _).trans ?_
  refine (bind_of_eq_some hdate _).trans ?_
  refine (dif_pos ⟨t.second.isLt, t.nanosecond.isLt⟩).trans ?_
  refine (if_pos ⟨t.hour.isLt, t.minute.isLt, by decide, rfl⟩).trans ?_
  exact ofLocal?_self t

end Time

end Depository
