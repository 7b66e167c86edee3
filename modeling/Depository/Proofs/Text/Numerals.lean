import Depository.Text.Numeral
import Depository.Text.Split

/-!
# Numerals that are read back

The decimal numeral of a number is read as that number, so that different numbers have different
numerals, also behind a common beginning.
-/

namespace Depository.Text

/-- Digits are read as the standard library reads them. -/
theorem digitsFrom_eq {cs : List Char} (h : ∀ c ∈ cs, c.isDigit = true) (value : Nat) :
    digitsFrom value cs = some (Nat.ofDigitChars 10 cs value) := by
  induction cs generalizing value with
  | nil => rfl
  | cons c rest ih =>
    have hc : isDigit c = true := h c List.mem_cons_self
    have hrest : ∀ c ∈ rest, c.isDigit = true := fun c hc => h c (List.mem_cons_of_mem _ hc)
    rw [digitsFrom, if_pos hc, ih hrest, Nat.ofDigitChars_cons, Nat.mul_comm value 10]
    rfl

private theorem isDigit_of_mem_toString {n : Nat} {c : Char} (h : c ∈ (toString n).toList) :
    c.isDigit = true := by
  rw [Nat.toString_eq_repr, Nat.toList_repr] at h
  exact Nat.isDigit_of_mem_toDigits (by decide) (by decide) h

theorem digits?_toString (n : Nat) : digits? (toString n).toList = some n := by
  have hdigits : digitsFrom 0 (toString n).toList = some n := by
    rw [digitsFrom_eq (fun _ => isDigit_of_mem_toString), Nat.toString_eq_repr, Nat.toList_repr,
      Nat.ofDigitChars_ten_toDigits]
  cases hchars : (toString n).toList with
  | nil =>
    rw [Nat.toString_eq_repr, Nat.toList_repr] at hchars
    exact absurd hchars Nat.toDigits_ne_nil
  | cons c rest =>
    rw [hchars] at hdigits
    exact hdigits

theorem unsigned?_toString {bits n : Nat} (h : fitsUnsigned bits n = true) :
    unsigned? bits (toString n).toList = some n := by
  have hdigits := digits?_toString n
  simp only [unsigned?]
  split
  · next rest hchars =>
    -- No numeral begins with a sign.
    have hplus : ('+').isDigit = true := by
      apply isDigit_of_mem_toString (n := n)
      rw [hchars]
      exact List.mem_cons_self
    cases hplus
  · rw [hdigits, Option.filter_some, if_pos h]

theorem toString_injective {m n : Nat} (h : toString m = toString n) : m = n := by
  have hm := digits?_toString m
  rw [h, digits?_toString n] at hm
  exact (Option.some.inj hm).symm

theorem toString_int_injective {m n : Int} (h : toString m = toString n) : m = n := by
  -- No numeral of a natural number begins with a minus.
  have hsigned (k l : Nat) : toString (Int.ofNat k) ≠ toString (Int.negSucc l) := by
    intro heq
    have hminus : ('-').isDigit = true := by
      apply isDigit_of_mem_toString (n := k)
      show '-' ∈ (toString (Int.ofNat k)).toList
      rw [heq]
      show '-' ∈ ("-" ++ Nat.repr (l + 1)).toList
      rw [String.toList_append]
      exact List.mem_append_left _ List.mem_cons_self
    cases hminus
  cases m with
  | ofNat k =>
    cases n with
    | ofNat l => exact congrArg Int.ofNat (toString_injective h)
    | negSucc l => exact absurd h (hsigned k l)
  | negSucc k =>
    cases n with
    | ofNat l => exact absurd h.symm (hsigned l k)
    | negSucc l =>
      have hdigits : "-" ++ toString (k + 1) = "-" ++ toString (l + 1) := h
      have hsame := toString_injective ((String.append_right_inj "-").mp hdigits)
      rw [Nat.succ.inj hsame]

theorem after?_append (start rest : List Char) : after? start (start ++ rest) = some rest := by
  have hstart : start.isPrefixOf (start ++ rest) = true :=
    List.isPrefixOf_iff_prefix.mpr (List.prefix_append start rest)
  rw [after?, if_pos hstart, List.drop_left]

end Depository.Text
