import Depository.Configuration.Flaw
import Depository.Proofs.Notification.Names
import Depository.Proofs.Text.Parts

/-!
# Muting as it is configured

The two lists of a configuration name kinds of notification, one or several in each text. The lists
have no flaw exactly if each piece between the commas is blank or the name of a kind. The policy then
mutes what is named as always muted, and of the rest what the user mutes and is not named as never
muted.
-/

namespace Depository

namespace NotificationSettings

/-- The pieces of a list of texts, each text cut at its commas. -/
def pieces (texts : List String) : List String := texts.flatMap (Text.split ',')

/-- A list of texts names a kind if one of its pieces, without the blanks around it, is the name of
the kind in some case of its letters. -/
def Names (texts : List String) (t : NotificationType) : Prop :=
  ∃ piece ∈ pieces texts, t.IsNameOf (Text.trim piece)

instance (texts : List String) (t : NotificationType) : Decidable (Names texts t) :=
  inferInstanceAs (Decidable (∃ piece ∈ pieces texts, t.IsNameOf (Text.trim piece)))

/-- Joining the texts adds at most a blank piece. -/
private theorem mem_split_join_iff {texts : List String} {piece : String}
    (hfilled : Text.isBlankText piece = false) :
    piece ∈ Text.split ',' (Text.join "," texts) ↔ piece ∈ pieces texts := by
  cases texts with
  | nil =>
    have hblank : piece ≠ "" := by
      rintro rfl
      cases hfilled
    simpa [pieces, Text.join, Text.split, Text.splitAt] using hblank
  | cons text rest =>
    rw [show "," = String.singleton ',' from rfl, Text.split_join (List.cons_ne_nil _ _), pieces]

private theorem unknown?_eq_none_iff_exists {texts : List String} :
    unknown? texts = none ↔
      ∃ types, NotificationType.listOfText (Text.join "," texts) = .ok types := by
  unfold unknown?
  cases NotificationType.listOfText (Text.join "," texts) <;> simp

/-- No piece of a list is unknown exactly if each is blank or the name of a kind. -/
private theorem unknown?_eq_none_iff {texts : List String} :
    unknown? texts = none ↔ ∀ piece ∈ pieces texts, Text.isBlankText piece = false →
      ∃ t : NotificationType, t.IsNameOf (Text.trim piece) := by
  rw [unknown?_eq_none_iff_exists, NotificationType.exists_listOfText_iff]
  constructor
  · intro h piece hpiece hfilled
    exact h piece ((mem_split_join_iff hfilled).mpr hpiece) hfilled
  · intro h piece hpiece hfilled
    exact h piece ((mem_split_join_iff hfilled).mp hpiece) hfilled

/-- A list without unknown pieces is read as the kinds that it names. -/
private theorem has_typesNamed_iff {texts : List String} (h : unknown? texts = none)
    {t : NotificationType} : (TypeSet.ofList (typesNamed texts)).has t = true ↔ Names texts t := by
  obtain ⟨types, htypes⟩ := unknown?_eq_none_iff_exists.mp h
  have hread : typesNamed texts = types := by rw [typesNamed, htypes]
  rw [hread, TypeSet.ofList, List.contains_iff_mem, NotificationType.mem_of_listOfText htypes]
  constructor
  · rintro ⟨piece, hpiece, hname⟩
    exact ⟨piece, (mem_split_join_iff hname.isBlankText).mp hpiece, hname⟩
  · rintro ⟨piece, hpiece, hname⟩
    exact ⟨piece, (mem_split_join_iff hname.isBlankText).mpr hpiece, hname⟩

theorem flaw?_eq_none_iff {s : NotificationSettings} :
    s.flaw? = none ↔ unknown? s.alwaysMuted = none ∧ unknown? s.neverMuted = none := by
  simp [flaw?]

/-- The policy mutes a kind if it is always muted, or if the user mutes it and it is not never
muted. -/
private theorem mutes_policy_iff {s : NotificationSettings} (h : s.flaw? = none)
    {t : NotificationType} {byUser : Bool} : s.policy.mutes t byUser = true ↔
      Names s.alwaysMuted t ∨ (¬ Names s.neverMuted t ∧ byUser = true) := by
  obtain ⟨halways, hnever⟩ := flaw?_eq_none_iff.mp h
  rw [← has_typesNamed_iff halways, ← has_typesNamed_iff hnever]
  simp [MutePolicy.mutes, policy]

/-- The lists of a configuration mean what they say: they have no flaw exactly if each of their pieces
is blank or the name of a kind, and then the e-mail and the notification about a kind are muted
exactly if the kind is named as always muted, or muted by the user and not named as never muted. -/
theorem muted_as_listed (s : NotificationSettings) :
    (s.flaw? = none ↔
      ∀ piece ∈ pieces s.alwaysMuted ++ pieces s.neverMuted, Text.isBlankText piece = false →
        ∃ t : NotificationType, t.IsNameOf (Text.trim piece)) ∧
    (s.flaw? = none → ∀ (u : User) (t : NotificationType),
      (s.policy.mutesEmail u t = true ↔
        Names s.alwaysMuted t ∨ (¬ Names s.neverMuted t ∧ u.mutedEmails.has t = true)) ∧
      (s.policy.mutesNotification u t = true ↔
        Names s.alwaysMuted t ∨ (¬ Names s.neverMuted t ∧ u.mutedNotifications.has t = true))) := by
  refine ⟨?_, fun h u t => ⟨mutes_policy_iff h, mutes_policy_iff h⟩⟩
  rw [flaw?_eq_none_iff, unknown?_eq_none_iff, unknown?_eq_none_iff]
  simp only [List.forall_mem_append]

/-- A user who mutes everything, a kind on both lists, and names in small letters. -/
theorem muted_as_listed_in_small_letters :
    let s : NotificationSettings :=
      ⟨["assignrole, ,\tChecksumFail", ""], ["CHECKSUMFAIL,workflow_success"]⟩
    let u : User := ⟨⟨⟨0⟩⟩, "ada", "ada@example.org", false, ⟨fun _ => true⟩, .empty⟩
    s.flaw? = none ∧ s.policy.mutesEmail u .checksumFail = true ∧
      s.policy.mutesEmail u .workflowSuccess = false ∧ s.policy.mutesEmail u .statusUpdated = true ∧
      s.policy.mutesNotification u .statusUpdated = false := by
  intro s u
  have hnone : s.flaw? = none := by decide +kernel
  obtain ⟨-, hmuted⟩ := muted_as_listed s
  have hmail (t : NotificationType) := (hmuted hnone u t).1
  have hnotice (t : NotificationType) := (hmuted hnone u t).2
  refine ⟨hnone, (hmail _).mpr ?_, ?_, (hmail _).mpr ?_, ?_⟩
  · decide +kernel
  · rw [← Bool.not_eq_true, hmail]
    decide +kernel
  · decide +kernel
  · rw [← Bool.not_eq_true, hnotice]
    decide +kernel

end NotificationSettings

end Depository
