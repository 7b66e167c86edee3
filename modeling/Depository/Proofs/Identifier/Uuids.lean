import Depository.Identifier.EntityId
import Mathlib.Tactic.Ring

/-!
# The text of identities

The canonical text of an identity is read back as that identity, so two entities that differ are
written differently.
-/

namespace Depository

namespace Uuid

private theorem length_hexDigits (count n : Nat) : (hexDigits count n).length = count := by
  induction count generalizing n with
  | zero => rfl
  | succ count ih => rw [hexDigits, List.length_append, ih, List.length_singleton]

private theorem ofHexDigits_append {value middle : Nat} {cs : List Char}
    (h : ofHexDigits value cs = some middle) (ds : List Char) :
    ofHexDigits value (cs ++ ds) = ofHexDigits middle ds := by
  induction cs generalizing value with
  | nil =>
    cases h
    rfl
  | cons c rest ih =>
    rw [ofHexDigits] at h
    rw [List.cons_append, ofHexDigits]
    cases hc : Text.hexValue? c with
    | none =>
      rw [hc] at h
      cases h
    | some d =>
      rw [hc] at h
      exact ih h

private theorem ofHexDigits_hexDigits (value count n : Nat) :
    ofHexDigits value (hexDigits count n) = some (value * 16 ^ count + n % 16 ^ count) := by
  induction count generalizing n with
  | zero => simp [hexDigits, ofHexDigits, Nat.mod_one]
  | succ count ih =>
    have hdigit := Text.hexValue?_hexDigit (Nat.mod_lt n (by decide : 0 < 16))
    have hlow : n % 16 ^ (count + 1) = n / 16 % 16 ^ count * 16 + n % 16 := by
      rw [Nat.pow_succ', Nat.mod_mul, Nat.mul_comm, Nat.add_comm]
    rw [hexDigits, ofHexDigits_append (ih _), ofHexDigits, hdigit, hlow]
    simp only [ofHexDigits]
    congr 1
    ring

private theorem take_append_drop_after {α : Type} (l : List α) (m n : Nat) :
    (l.drop m).take n ++ l.drop (m + n) = l.drop m := by
  rw [← List.drop_drop, List.take_append_drop]

/-- The groups put together are the digits again. -/
private theorem ofHyphenated?_hyphenated {digits : List Char} (h : digits.length = 32) :
    ofHyphenated? (hyphenated digits) = ofSimple? digits := by
  have hlength : (hyphenated digits).length = 36 := by simp [hyphenated, h]
  have hdigits : (hyphenated digits).take 8 ++ ((hyphenated digits).drop 9).take 4 ++
      ((hyphenated digits).drop 14).take 4 ++ ((hyphenated digits).drop 19).take 4 ++
      (hyphenated digits).drop 24 = digits := by
    calc
      _ = digits.take 8 ++ ((digits.drop 8).take 4 ++ ((digits.drop 12).take 4 ++
          ((digits.drop 16).take 4 ++ digits.drop 20))) := by
        simp [hyphenated, List.drop_append, List.drop_take, h]
      _ = digits := by
        rw [take_append_drop_after digits 16 4, take_append_drop_after digits 12 4,
          take_append_drop_after digits 8 4, List.take_append_drop]
  unfold ofHyphenated?
  simp only [hdigits, hlength, and_self, if_true]

theorem ofText?_text (id : Uuid) : ofText? id.text = some id := by
  have hdigits := length_hexDigits 32 id.bits.toNat
  have hlength : (hyphenated (hexDigits 32 id.bits.toNat)).length = 36 := by
    simp [hyphenated, hdigits]
  have hbits : id.bits.toNat % 16 ^ 32 = id.bits.toNat := Nat.mod_eq_of_lt id.bits.isLt
  unfold ofText? text
  rw [String.toList_ofList, if_neg (by omega), if_pos hlength, ofHyphenated?_hyphenated hdigits,
    ofSimple?, if_pos hdigits, ofHexDigits_hexDigits, hbits]
  simp

theorem text_injective : Function.Injective text := by
  intro a b h
  have hread : ofText? a.text = ofText? b.text := congrArg ofText? h
  rw [ofText?_text, ofText?_text] at hread
  exact Option.some.inj hread

end Uuid

theorem EntityId.text_injective {kind : EntityKind} :
    Function.Injective (EntityId.text : EntityId kind → String) := by
  rintro ⟨a⟩ ⟨b⟩ h
  exact congrArg EntityId.mk (Uuid.text_injective h)

end Depository
