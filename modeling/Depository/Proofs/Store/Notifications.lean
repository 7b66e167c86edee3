import Depository.Proofs.Store.Tables
import Depository.Store.Basic
import Mathlib.Data.List.Sort

/-!
# Asking for notifications

The notifications that fit a query are answered newest first. One more notification takes its place
in every answer it fits, where the others keep their order, and leaves the other answers alone.
-/

namespace Depository

namespace Notification

/-- A notification comes first if it was sent at the time of another or after it. -/
def NotOlder (a b : Notification) : Prop := b.sendDate ≤ a.sendDate

instance (a b : Notification) : Decidable (NotOlder a b) :=
  inferInstanceAs (Decidable (b.sendDate ≤ a.sendDate))

theorem NotOlder.trans {a b c : Notification} (hab : NotOlder a b) (hbc : NotOlder b c) :
    NotOlder a c :=
  Int.le_trans hbc hab

private theorem notOlder_total (a b : Notification) :
    NotOlder a b ∨ NotOlder b a := Int.le_total _ _

/-- A list is another one, which is newest first, with a notification put in its place. -/
def InsertedIn (n : Notification) (listed relisted : List Notification) : Prop :=
  ∃ newer older, listed = newer ++ older ∧ relisted = newer ++ n :: older ∧
    (∀ m ∈ newer, NotOlder m n) ∧ ∀ m ∈ older, NotOlder n m

theorem InsertedIn.perm {n : Notification} {listed relisted : List Notification}
    (h : InsertedIn n listed relisted) : relisted.Perm (n :: listed) := by
  obtain ⟨newer, older, rfl, rfl, -, -⟩ := h
  exact List.perm_middle

private theorem orderedInsert_between {n : Notification} {newer older : List Notification}
    (hnewer : ∀ m ∈ newer, ¬ NotOlder n m) (holder : ∀ m ∈ older, NotOlder n m) :
    (newer ++ older).orderedInsert NotOlder n = newer ++ n :: older := by
  induction newer with
  | nil =>
    cases older with
    | nil => rfl
    | cons b older => exact List.orderedInsert_cons_of_le NotOlder older (holder b List.mem_cons_self)
  | cons b newer ih =>
    have hb : ¬ NotOlder n b := hnewer b List.mem_cons_self
    rw [List.cons_append, List.orderedInsert_of_not_le NotOlder _ hb,
      ih fun m hm => hnewer m (List.mem_cons_of_mem b hm), List.cons_append]

/-- Another notification put in both lists leaves the first one in its place. -/
private theorem InsertedIn.orderedInsert {n : Notification} {listed relisted : List Notification}
    (h : InsertedIn n listed relisted) (a : Notification) :
    InsertedIn n (listed.orderedInsert NotOlder a) (relisted.orderedInsert NotOlder a) := by
  obtain ⟨newer, older, rfl, rfl, hnewer, holder⟩ := h
  induction newer with
  | nil =>
    by_cases ha : NotOlder a n
    · -- What follows `n` is not newer than `a` either, so `a` goes first in both lists.
      have hfirst : ([] ++ older).orderedInsert NotOlder a = [] ++ a :: older :=
        orderedInsert_between (by simp) fun m hm => ha.trans (holder m hm)
      refine ⟨[a], older, hfirst, ?_, ?_, holder⟩
      · exact List.orderedInsert_cons_of_le NotOlder older ha
      · intro m hm
        rw [List.mem_singleton.mp hm]
        exact ha
    · refine ⟨[], older.orderedInsert NotOlder a, rfl, ?_, by simp, fun m hm => ?_⟩
      · exact List.orderedInsert_of_not_le NotOlder older ha
      · rcases (List.mem_orderedInsert NotOlder).mp hm with rfl | hm
        · exact (notOlder_total n m).resolve_right ha
        · exact holder m hm
  | cons b newer ih =>
    have hb : NotOlder b n := hnewer b List.mem_cons_self
    by_cases ha : NotOlder a b
    · refine ⟨a :: b :: newer, older, ?_, ?_, fun m hm => ?_, holder⟩
      · exact List.orderedInsert_cons_of_le NotOlder _ ha
      · exact List.orderedInsert_cons_of_le NotOlder _ ha
      · rcases List.mem_cons.mp hm with rfl | hm
        · exact ha.trans hb
        · exact hnewer m hm
    · obtain ⟨newer', older', hlisted, hrelisted, hnewer', holder'⟩ :=
        ih fun m hm => hnewer m (List.mem_cons_of_mem b hm)
      refine ⟨b :: newer', older', ?_, ?_, fun m hm => ?_, holder'⟩
      · rw [List.cons_append, List.orderedInsert_of_not_le NotOlder _ ha, hlisted, List.cons_append]
      · rw [List.cons_append, List.orderedInsert_of_not_le NotOlder _ ha, hrelisted,
          List.cons_append]
      · rcases List.mem_cons.mp hm with rfl | hm
        · exact hb
        · exact hnewer' m hm

private theorem newestFirst_perm (ns : List Notification) : (newestFirst ns).Perm ns :=
  List.mergeSort_perm ns _

/-- Sorted, the first of some notifications stands behind those that are newer only. -/
private theorem newestFirst_cons_split (n : Notification) (ns : List Notification) :
    ∃ newer older, newestFirst ns = newer ++ older ∧ newestFirst (n :: ns) = newer ++ n :: older ∧
      (∀ m ∈ newer, ¬ NotOlder n m) ∧ ∀ m ∈ older, NotOlder n m := by
  have htrans (a b c : Notification) (hab : decide (b.sendDate ≤ a.sendDate) = true)
      (hbc : decide (c.sendDate ≤ b.sendDate) = true) : decide (c.sendDate ≤ a.sendDate) = true :=
    decide_eq_true ((of_decide_eq_true hab : NotOlder a b).trans (of_decide_eq_true hbc))
  have htotal (a b : Notification) :
      (decide (b.sendDate ≤ a.sendDate) || decide (a.sendDate ≤ b.sendDate)) = true := by
    rw [Bool.or_eq_true, decide_eq_true_eq, decide_eq_true_eq]
    exact notOlder_total a b
  obtain ⟨newer, older, hcons, hns, hnewer⟩ := List.mergeSort_cons htrans htotal n ns
  have hsorted := List.pairwise_mergeSort htrans htotal (n :: ns)
  rw [hcons, List.pairwise_append] at hsorted
  refine ⟨newer, older, hns, hcons, fun m hm hn => ?_, fun m hm => ?_⟩
  · have hlater : (!decide (NotOlder n m)) = true := hnewer m hm
    rw [decide_eq_true hn] at hlater
    cases hlater
  · exact of_decide_eq_true (List.rel_of_pairwise_cons hsorted.2.1 hm)

private theorem newestFirst_cons (n : Notification) (ns : List Notification) :
    newestFirst (n :: ns) = (newestFirst ns).orderedInsert NotOlder n := by
  obtain ⟨newer, older, hns, hcons, hnewer, holder⟩ := newestFirst_cons_split n ns
  rw [hcons, hns, orderedInsert_between hnewer holder]

/-- One more among some notifications takes its place among them, sorted. -/
private theorem insertedIn_newestFirst (n : Notification) (before after : List Notification) :
    InsertedIn n (newestFirst (before ++ after)) (newestFirst (before ++ n :: after)) := by
  induction before with
  | nil =>
    obtain ⟨newer, older, hns, hcons, hnewer, holder⟩ := newestFirst_cons_split n after
    exact ⟨newer, older, hns, hcons,
      fun m hm => (notOlder_total m n).resolve_right (hnewer m hm), holder⟩
  | cons a before ih =>
    rw [List.cons_append, List.cons_append, newestFirst_cons, newestFirst_cons]
    exact ih.orderedInsert a

end Notification

namespace Store

open Notification (InsertedIn)

variable {s : Store} {n : Notification} {q : NotificationQuery}

private theorem mem_findNotifications :
    n ∈ s.findNotifications q ↔ (∃ id, s.findNotification? id = some n) ∧ q.matches n = true := by
  rw [findNotifications, (Notification.newestFirst_perm _).mem_iff, List.mem_filter,
    Table.mem_values]
  rfl

/-- The unread notifications of a user are as many as their query finds. -/
theorem unreadCount_eq_length (s : Store) (u : UserId) :
    s.unreadCount u = (s.findNotifications (.unreadByUser u)).length :=
  (Notification.newestFirst_perm _).length_eq.symm

private theorem findNotification?_saveNotification (s : Store) (n : Notification)
    (id : NotificationId) :
    (s.saveNotification n).findNotification? id =
      if id = n.id then some n else s.findNotification? id :=
  Table.get?_insert s.notifications n.id id n

/-- A notification that is kept under a fresh identity is put in its place in every answer it
fits. -/
private theorem insertedIn_findNotifications (hfresh : s.findNotification? n.id = none)
    (hq : q.matches n = true) :
    InsertedIn n (s.findNotifications q) ((s.saveNotification n).findNotifications q) := by
  obtain ⟨before, after, hvalues, hinsert⟩ := Table.values_insert_of_fresh hfresh n
  have hsaved : (s.saveNotification n).notifications.values = before ++ n :: after := hinsert
  rw [findNotifications, findNotifications, hsaved, hvalues, List.filter_append,
    List.filter_append, List.filter_cons_of_pos hq]
  exact Notification.insertedIn_newestFirst n _ _

/-- The other answers stay as they are. -/
private theorem findNotifications_saveNotification (hfresh : s.findNotification? n.id = none)
    (hq : q.matches n = false) :
    (s.saveNotification n).findNotifications q = s.findNotifications q := by
  obtain ⟨before, after, hvalues, hinsert⟩ := Table.values_insert_of_fresh hfresh n
  have hsaved : (s.saveNotification n).notifications.values = before ++ n :: after := hinsert
  rw [findNotifications, findNotifications, hsaved, hvalues, List.filter_append,
    List.filter_append, List.filter_cons_of_neg (by simp [hq])]

private theorem unreadCount_saveNotification (hfresh : s.findNotification? n.id = none)
    (hread : n.read = false) (u : UserId) :
    (s.saveNotification n).unreadCount u = s.unreadCount u + if u = n.user then 1 else 0 := by
  rw [unreadCount_eq_length, unreadCount_eq_length]
  by_cases hu : u = n.user
  · have hq : (NotificationQuery.unreadByUser u).matches n = true := by
      simp [NotificationQuery.matches, hu, hread]
    rw [(insertedIn_findNotifications hfresh hq).perm.length_eq, List.length_cons, if_pos hu]
  · have hq : (NotificationQuery.unreadByUser u).matches n = false := by
      simp [NotificationQuery.matches, beq_false_of_ne (Ne.symm hu)]
    rw [findNotifications_saveNotification hfresh hq, if_neg hu, Nat.add_zero]

/-- A store keeps one notification more than another: it is found under its identity, counted for
its user, listed in its place where it fits, and waits for its mail unless it has left; nothing
else differs. -/
structure Gains (n : Notification) (s t : Store) : Prop where
  found : ∀ id, t.findNotification? id = if id = n.id then some n else s.findNotification? id
  counted : ∀ u, t.unreadCount u = s.unreadCount u + if u = n.user then 1 else 0
  listed : ∀ q : NotificationQuery, q.matches n = true →
    InsertedIn n (s.findNotifications q) (t.findNotifications q)
  unlisted : ∀ q : NotificationQuery, q.matches n = false →
    t.findNotifications q = s.findNotifications q
  waiting : n ∈ t.findNotifications .unemailed ↔ n.emailed = false
  rest : { t with notifications := s.notifications } = s

theorem gains_saveNotification (hfresh : s.findNotification? n.id = none)
    (hread : n.read = false) : Gains n s (s.saveNotification n) where
  found := findNotification?_saveNotification s n
  counted := unreadCount_saveNotification hfresh hread
  listed _ := insertedIn_findNotifications hfresh
  unlisted _ := findNotifications_saveNotification hfresh
  waiting := by
    have hfound : (s.saveNotification n).findNotification? n.id = some n := by
      rw [findNotification?_saveNotification, if_pos rfl]
    rw [mem_findNotifications, NotificationQuery.matches, Bool.not_eq_true']
    exact and_iff_right ⟨n.id, hfound⟩
  rest := rfl

end Store

end Depository
