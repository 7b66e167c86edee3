import Depository.Notification.Kind
import Mathlib.Data.List.DropRight
import Mathlib.Data.List.Forall2
import Mathlib.Data.Set.List

/-!
# Names of kinds of notification

A text stands for a kind if it is the name of the kind with each letter as a capital or a small one,
and blanks around it. It stands for no other kind then. A list of names is read exactly if each piece
between its commas is blank or stands for a kind, and the kinds that are read are those.
-/

namespace Depository

namespace Text

/-! ### Letters -/

private theorem isUpper_iff {c : Char} : isUpper c = true ↔ 65 ≤ c.toNat ∧ c.toNat ≤ 90 := by
  simp [isUpper, Char.le_def, UInt32.le_iff_toNat_le]

private theorem isLower_iff {c : Char} : isLower c = true ↔ 97 ≤ c.toNat ∧ c.toNat ≤ 122 := by
  simp [isLower, Char.le_def, UInt32.le_iff_toNat_le]

/-- What holds of the 26 capitals one by one holds of every capital. -/
private theorem of_isUpper {p : Char → Prop} (h : ∀ n ∈ List.range 26, p (Char.ofNat (n + 65)))
    {c : Char} (hc : isUpper c = true) : p c := by
  obtain ⟨hlow, hhigh⟩ := isUpper_iff.mp hc
  have hp := h (c.toNat - 65) (by rw [List.mem_range]; omega)
  rwa [Nat.sub_add_cancel hlow, Char.ofNat_toNat] at hp

private theorem lowerAscii_of_not_isUpper {c : Char} (hc : ¬ isUpper c = true) :
    lowerAscii c = c := by
  rw [lowerAscii, if_neg (by simpa [isUpper] using hc)]

private theorem toNat_lowerAscii (c : Char) :
    (lowerAscii c).toNat = if isUpper c = true then c.toNat + 32 else c.toNat := by
  by_cases hc : isUpper c = true
  · rw [if_pos hc]
    exact of_isUpper (p := fun c => (lowerAscii c).toNat = c.toNat + 32) (by decide) hc
  · rw [if_neg hc, lowerAscii_of_not_isUpper hc]

/-- A character that is no small letter is the same up to case as itself and its small letter. -/
private theorem lowerAscii_eq_lowerAscii_iff {c d : Char} (hc : isLower c = false) :
    lowerAscii c = lowerAscii d ↔ d = c ∨ d = lowerAscii c := by
  rw [← Bool.not_eq_true, isLower_iff] at hc
  simp only [← Char.toNat_inj, toNat_lowerAscii, isUpper_iff]
  split <;> split <;> omega

/-- The texts that differ from one without small letters in the case of letters only. -/
private theorem sameIgnoringCase_iff {a b : String} (ha : ∀ c ∈ a.toList, isLower c = false) :
    sameIgnoringCase a b = true ↔
      List.Forall₂ (fun c d => d = c ∨ d = lowerAscii c) a.toList b.toList := by
  rw [sameIgnoringCase, beq_iff_eq]
  generalize a.toList = cs at ha
  generalize b.toList = ds
  induction cs generalizing ds with
  | nil => cases ds <;> simp
  | cons c cs ih =>
    obtain ⟨hc, hcs⟩ := List.forall_mem_cons.mp ha
    cases ds with
    | nil => simp
    | cons d ds =>
      rw [List.map_cons, List.map_cons, List.cons.injEq, List.forall₂_cons,
        lowerAscii_eq_lowerAscii_iff hc, ih hcs]

/-! ### Blanks -/

private theorem isBlank_lowerAscii (c : Char) : isBlank (lowerAscii c) = isBlank c := by
  by_cases hc : isUpper c = true
  · exact of_isUpper (p := fun c => isBlank (lowerAscii c) = isBlank c) (by decide) hc
  · rw [lowerAscii_of_not_isUpper hc]

private theorem trim_of_forall_not_blank {s : String} (h : ∀ c ∈ s.toList, isBlank c = false) :
    trim s = s := by
  have hkept (cs : List Char) (hcs : ∀ c ∈ cs, isBlank c = false) : cs.dropWhile isBlank = cs :=
    List.dropWhile_eq_self_iff.mpr fun hlength => by simp [hcs]
  rw [trim, trimChars, trimStart, hkept _ h, trimEnd, hkept _ (by simpa using h),
    List.reverse_reverse, String.ofList_toList]

private theorem isEmpty_trim (s : String) : (trim s).isEmpty = isBlankText s := by
  rw [Bool.eq_iff_iff, String.isEmpty_iff, trim, isBlankText, ← trimChars_eq_nil_iff]
  exact String.ofList_eq_empty_iff

private theorem trimStart_trimChars (cs : List Char) : trimStart (trimChars cs) = trimChars cs := by
  have hstart : trimChars cs <+: trimStart cs := List.rdropWhile_prefix isBlank _
  rw [trimStart, List.dropWhile_eq_self_iff]
  intro hlength
  rw [hstart.getElem hlength]
  exact List.dropWhile_get_zero_not isBlank cs _

private theorem trim_trim (s : String) : trim (trim s) = trim s := by
  have htrimEnd : trimEnd (trimChars s.toList) = trimChars s.toList :=
    List.rdropWhile_idempotent isBlank (trimStart s.toList)
  rw [trim, trim, String.toList_ofList, trimChars, trimStart_trimChars, htrimEnd]

end Text

/-! ### Lists that are read entry by entry -/

/-- A list is read if all its entries are, each as its own value. -/
private theorem mapM_eq_ok_iff {α β ε : Type} {read : α → Except ε β} {as : List α} {bs : List β} :
    as.mapM read = .ok bs ↔ as.map read = bs.map .ok := by
  induction as generalizing bs with
  | nil => cases bs <;> simp [pure, Except.pure]
  | cons a as ih =>
    rw [List.mapM_cons, List.map_cons]
    cases ha : read a with
    | error e => cases bs <;> simp [bind, Except.bind]
    | ok b =>
      cases bs with
      | nil => cases hrest : as.mapM read <;> simp [bind, Except.bind, pure, Except.pure]
      | cons b' bs =>
        rw [List.map_cons, List.cons.injEq, Except.ok.injEq, ← ih]
        cases hrest : as.mapM read <;> simp [bind, Except.bind, pure, Except.pure]

private theorem exists_mapM_iff {α β ε : Type} {read : α → Except ε β} {as : List α} :
    (∃ bs, as.mapM read = .ok bs) ↔ ∀ a ∈ as, ∃ b, read a = .ok b := by
  calc (∃ bs, as.mapM read = .ok bs)
      ↔ as.map read ∈ Set.range (List.map Except.ok) := by
        simp only [mapM_eq_ok_iff, Set.mem_range, @eq_comm _ _ (as.map read)]
    _ ↔ ∀ outcome ∈ as.map read, outcome ∈ Set.range Except.ok := by
        rw [Set.range_list_map]
        rfl
    _ ↔ ∀ a ∈ as, ∃ b, read a = .ok b := by
        simp only [List.forall_mem_map, Set.mem_range, eq_comm]

private theorem mem_of_mapM {α β ε : Type} {read : α → Except ε β} {as : List α} {bs : List β}
    (h : as.mapM read = .ok bs) {b : β} : b ∈ bs ↔ ∃ a ∈ as, read a = .ok b := by
  have hinjective : Function.Injective (Except.ok : β → Except ε β) := fun _ _ => Except.ok.inj
  rw [← List.mem_map_of_injective hinjective, ← mapM_eq_ok_iff.mp h, List.mem_map]

/-! ### Names -/

namespace NotificationType

/-- A text is the name of a kind in some case of its letters: it has each character of the name, or
its small letter. -/
def IsNameOf (t : NotificationType) (s : String) : Prop :=
  List.Forall₂ (fun c d => d = c ∨ d = Text.lowerAscii c) t.name.toList s.toList

private theorem isUpper_or_eq_of_mem_name {t : NotificationType} {c : Char}
    (hc : c ∈ t.name.toList) :
    Text.isUpper c = true ∨ c = '_' := by
  have hall : t.name.toList.all (fun c => Text.isUpper c || c == '_') = true := by
    cases t <;> decide
  simpa using List.all_eq_true.mp hall c hc

private theorem sameIgnoringCase_name_iff {t : NotificationType} {s : String} :
    Text.sameIgnoringCase t.name s = true ↔ t.IsNameOf s := by
  apply Text.sameIgnoringCase_iff
  intro c hc
  rcases isUpper_or_eq_of_mem_name hc with hcapital | rfl
  · exact Text.of_isUpper (p := fun c => Text.isLower c = false) (by decide) hcapital
  · decide

instance (t : NotificationType) (s : String) : Decidable (t.IsNameOf s) :=
  decidable_of_iff _ sameIgnoringCase_name_iff

/-- A name in other letters is that of the same kind. -/
theorem ofText?_of_sameIgnoringCase {t : NotificationType} {s : String}
    (h : Text.sameIgnoringCase t.name s = true) : ofText? s = some t := by
  have hletters : t.name.toList.map Text.lowerAscii = s.toList.map Text.lowerAscii :=
    beq_iff_eq.mp h
  have hblank : ∀ c ∈ s.toList, Text.isBlank c = false := by
    intro c hc
    have hmem : Text.lowerAscii c ∈ t.name.toList.map Text.lowerAscii :=
      hletters ▸ List.mem_map_of_mem hc
    obtain ⟨d, hd, hsame⟩ := List.mem_map.mp hmem
    rw [← Text.isBlank_lowerAscii, ← hsame, Text.isBlank_lowerAscii]
    rcases isUpper_or_eq_of_mem_name hd with hcapital | rfl
    · exact Text.of_isUpper (p := fun c => Text.isBlank c = false) (by decide) hcapital
    · decide
  rw [ofText?, Text.trim_of_forall_not_blank hblank]
  simp only [Text.sameIgnoringCase, ← hletters]
  cases t <;> decide

private theorem ofText?_trim (s : String) : ofText? (Text.trim s) = ofText? s := by
  rw [ofText?, ofText?, Text.trim_trim]

private theorem ofText?_eq_some_iff {t : NotificationType} {s : String} :
    ofText? s = some t ↔ t.IsNameOf (Text.trim s) := by
  rw [← sameIgnoringCase_name_iff]
  constructor
  · intro h
    -- Against the expected fact, unification would run the search.
    have hfound := List.find?_some h
    exact hfound
  · intro h
    rw [← ofText?_trim]
    exact ofText?_of_sameIgnoringCase h

/-! ### Lists of names -/

theorem IsNameOf.isBlankText {t : NotificationType} {s : String} (h : t.IsNameOf (Text.trim s)) :
    Text.isBlankText s = false := by
  rw [← Text.isEmpty_trim, ← Bool.not_eq_true, String.isEmpty_iff]
  intro hempty
  rw [IsNameOf, hempty, String.toList_empty, List.forall₂_nil_right_iff] at h
  cases t <;> cases h

/-- The kind that a piece of a list stands for; the error is the piece. -/
def ofPiece (piece : String) : Except String NotificationType :=
  match ofText? piece with
  | some t => .ok t
  | none => .error piece

private theorem ofPiece_trim_eq_ok_iff {piece : String} {t : NotificationType} :
    ofPiece (Text.trim piece) = .ok t ↔ t.IsNameOf (Text.trim piece) := by
  rw [← ofText?_eq_some_iff, ofPiece, ofText?_trim]
  cases ofText? piece <;> simp

/-- The pieces of a list that are not blank, without the blanks around them. -/
def filledPieces (s : String) : List String :=
  ((Text.split ',' s).map Text.trim).filter fun p => !p.isEmpty

private theorem mem_filledPieces_iff {s p : String} :
    p ∈ filledPieces s ↔
      ∃ piece ∈ Text.split ',' s, Text.isBlankText piece = false ∧ Text.trim piece = p := by
  simp only [filledPieces, List.mem_filter, List.mem_map, Bool.not_eq_true']
  constructor
  · rintro ⟨⟨piece, hpiece, rfl⟩, hfilled⟩
    exact ⟨piece, hpiece, by rwa [← Text.isEmpty_trim], rfl⟩
  · rintro ⟨piece, hpiece, hfilled, rfl⟩
    exact ⟨⟨piece, hpiece, rfl⟩, by rwa [Text.isEmpty_trim]⟩

private theorem listOfText_eq (s : String) : listOfText s = (filledPieces s).mapM ofPiece := by
  unfold listOfText
  refine congrArg (fun read => (filledPieces s).mapM read) (funext fun piece => ?_)
  unfold ofPiece
  cases ofText? piece <;> rfl

/-- A list of names is read exactly if each of its pieces is blank or stands for a kind. -/
theorem exists_listOfText_iff {s : String} :
    (∃ types, listOfText s = .ok types) ↔ ∀ piece ∈ Text.split ',' s,
      Text.isBlankText piece = false → ∃ t : NotificationType, t.IsNameOf (Text.trim piece) := by
  rw [listOfText_eq, exists_mapM_iff]
  constructor
  · intro h piece hpiece hfilled
    obtain ⟨t, ht⟩ := h _ (mem_filledPieces_iff.mpr ⟨piece, hpiece, hfilled, rfl⟩)
    exact ⟨t, ofPiece_trim_eq_ok_iff.mp ht⟩
  · intro h p hp
    obtain ⟨piece, hpiece, hfilled, rfl⟩ := mem_filledPieces_iff.mp hp
    obtain ⟨t, ht⟩ := h piece hpiece hfilled
    exact ⟨t, ofPiece_trim_eq_ok_iff.mpr ht⟩

/-- The kinds that are read are those for which a piece stands. -/
theorem mem_of_listOfText {s : String} {types : List NotificationType}
    (h : listOfText s = .ok types) {t : NotificationType} :
    t ∈ types ↔ ∃ piece ∈ Text.split ',' s, t.IsNameOf (Text.trim piece) := by
  rw [listOfText_eq] at h
  rw [mem_of_mapM h]
  constructor
  · rintro ⟨p, hp, ht⟩
    obtain ⟨piece, hpiece, -, rfl⟩ := mem_filledPieces_iff.mp hp
    exact ⟨piece, hpiece, ofPiece_trim_eq_ok_iff.mp ht⟩
  · rintro ⟨piece, hpiece, ht⟩
    exact ⟨_, mem_filledPieces_iff.mpr ⟨piece, hpiece, ht.isBlankText, rfl⟩,
      ofPiece_trim_eq_ok_iff.mpr ht⟩

end NotificationType

end Depository
