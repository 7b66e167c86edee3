import Depository.Proofs.Repository.Calls
import Depository.Proofs.Store.Notifications
import Depository.Repository.Notifying

/-!
# What comes of a notice

A notice is mailed unless its mail is muted and kept unless it is muted itself. The two decisions
are taken apart, and whatever the mailer answers, what is kept tells whether the mail has left.
-/

namespace Depository.Repository

open Depository.Action

/-! ### Mail -/

/-- What the mailer answers to the next message. Without a mailer the message is declined. -/
def mailAnswer (s : Surroundings) (w : World) (message : Email) : Except Failure Bool :=
  match s.mailer with
  | none => .ok false
  | some mailer => mailer (w.count Event.isMail) message

/-- The call that a message is, if there is a mailer. -/
def mailCall (s : Surroundings) (message : Email) : List Event :=
  if s.mailer.isSome then [.mail message] else []

theorem run_sendMail (message : Email) (s : Surroundings) (w : World) :
    (sendMail message).run s w =
      (mailAnswer s w message, { w with log := w.log ++ mailCall s message }) := by
  change sendMail message s w = _
  unfold sendMail mailAnswer mailCall
  cases s.mailer with
  | none => simp
  | some mailer => rfl

/-- The message about the notification of a notice. -/
def Notice.message (n : Notice) (id : NotificationId) : Email :=
  .about n.user (n.notification id) n.comment n.isHtml

/-- The calls of the mailer for a notice. -/
def Notice.mailCalls (n : Notice) (id : NotificationId) (s : Surroundings) : List Event :=
  if s.mutePolicy.mutesEmail n.user n.type then [] else mailCall s (n.message id)

private theorem of_mem_mailCalls {n : Notice} {id : NotificationId} {s : Surroundings} {e : Event}
    (h : e ∈ n.mailCalls id s) : ∃ message, e = .mail message := by
  unfold Notice.mailCalls mailCall at h
  split at h
  · cases h
  · split at h
    · exact ⟨_, List.mem_singleton.mp h⟩
    · cases h

/-- The mail of a notice leaves: it is not muted, and the mailer reports it as sent. -/
def Notice.Leaves (n : Notice) (id : NotificationId) (s : Surroundings) (w : World) : Prop :=
  s.mutePolicy.mutesEmail n.user n.type = false ∧ mailAnswer s w (n.message id) = .ok true

/-- Delivery never fails. -/
theorem run_deliver (n : Notice) (id : NotificationId) (s : Surroundings) (w : World) :
    ∃ emailed, (deliver n (n.notification id)).run s w =
        (.ok emailed, { w with log := w.log ++ n.mailCalls id s }) ∧
      (emailed = true ↔ n.Leaves id s w) := by
  unfold deliver Notice.mailCalls Notice.Leaves
  rw [run_bind_of_ok (show surroundings.run s w = (.ok s, w) from rfl)]
  by_cases hmuted : s.mutePolicy.mutesEmail n.user n.type = true
  · refine ⟨false, ?_, by simp [hmuted]⟩
    simp only [if_pos hmuted, List.append_nil]
    rfl
  · have hmail := run_outcome (run_sendMail (n.message id) s w)
    simp only [if_neg hmuted]
    cases hanswer : mailAnswer s w (n.message id) with
    | ok sent =>
      rw [hanswer] at hmail
      refine ⟨sent, ?_, by simp [hmuted]⟩
      exact run_bind_of_ok hmail
    | error e =>
      rw [hanswer] at hmail
      refine ⟨false, ?_, by simp⟩
      exact run_bind_of_ok hmail

/-! ### Notices -/

/-- What comes of a notice: the notification that is answered and the world after it. -/
structure Notified (n : Notice) (s : Surroundings) (w v : World) (made : Notification) : Prop where
  record : made = { n.notification ⟨w.ids.next⟩ with emailed := made.emailed }
  emailed : made.emailed = true ↔ n.Leaves ⟨w.ids.next⟩ s w
  calls : v.log = w.log ++ n.mailCalls ⟨w.ids.next⟩ s ++
    if s.mutePolicy.mutesNotification n.user n.type then [] else [.store .saveNotification false]
  muted : s.mutePolicy.mutesNotification n.user n.type = true → v.store = w.store
  kept : s.mutePolicy.mutesNotification n.user n.type = false → Store.Gains made w.store v.store

/-- If the store answers and the identity is fresh, a notice succeeds whatever the mailer does. -/
theorem run_notify (n : Notice) {s : Surroundings} {w : World}
    (houtage : s.outage .saveNotification (w.count (Event.isStore .saveNotification)) = none)
    (hfresh : w.store.findNotification? ⟨w.ids.next⟩ = none) :
    ∃ made v, (notify n).run s w = (.ok made, v) ∧ Notified n s w v made := by
  let id : NotificationId := ⟨w.ids.next⟩
  let drawn : World := { w with ids := w.ids.drop 1 }
  obtain ⟨emailed, hdeliver, hemailed⟩ := run_deliver n id s drawn
  let mailed : World := { drawn with log := drawn.log ++ n.mailCalls id s }
  let made : Notification := { n.notification id with emailed }
  have hrun : (notify n).run s w =
      (if s.mutePolicy.mutesNotification n.user n.type then pure made
        else saveNotification made : Action Notification).run s mailed := by
    unfold notify
    rw [run_bind_of_ok (show freshId.run s w = (.ok w.ids.next, drawn) from rfl),
      run_bind_of_ok hdeliver,
      run_bind_of_ok (show surroundings.run s mailed = (.ok s, mailed) from rfl)]
  by_cases hmuted : s.mutePolicy.mutesNotification n.user n.type = true
  · rw [if_pos hmuted] at hrun
    refine ⟨made, mailed, hrun, rfl, hemailed, ?_, fun _ => rfl, by simp [hmuted]⟩
    rw [if_pos hmuted, List.append_nil]
  · rw [if_neg hmuted] at hrun
    have hlog : mailed.log = w.log ++ n.mailCalls id s := rfl
    have hcount : mailed.count (Event.isStore .saveNotification) =
        w.count (Event.isStore .saveNotification) := by
      refine count_of_log hlog fun e he => ?_
      obtain ⟨message, rfl⟩ := of_mem_mailCalls he
      rfl
    have hsave : (saveNotification made).run s mailed =
        (.ok made, { mailed.record (.store .saveNotification false) with
          store := w.store.saveNotification made }) :=
      run_changeStore_of_ok (by rw [hcount, houtage]) rfl
    refine ⟨made, _, hrun.trans hsave, rfl, hemailed, ?_, by simp [hmuted], fun _ => ?_⟩
    · rw [if_neg hmuted]
      rfl
    · exact Store.gains_saveNotification hfresh rfl

/-- Mail, mutes and storage fit together for every notice, and the count of unread notifications
is that of the listed ones in every store. -/
theorem notice_accounted_for (n : Notice) {s : Surroundings} {w : World}
    (houtage : s.outage .saveNotification (w.count (Event.isStore .saveNotification)) = none)
    (hfresh : w.store.findNotification? ⟨w.ids.next⟩ = none) :
    (∃ made v, (notify n).run s w = (.ok made, v) ∧ Notified n s w v made) ∧
      ∀ (t : Store) (u : UserId),
        t.unreadCount u = (t.findNotifications (.unreadByUser u)).length :=
  ⟨run_notify n houtage hfresh, Store.unreadCount_eq_length⟩

/-- A user who mutes the mail about roles. -/
def quietUser : User :=
  { User.new ⟨⟨1⟩⟩ "root" "root@example.org" false with mutedEmails := .ofList [.assignRole] }

def roleNotice : Notice :=
  ⟨quietUser, .epoch, .assignRole, "dataset 7", some "You may edit it now.", none, false⟩

/-- A world whose store has a notification of that user. -/
def toldWorld : World :=
  { emptyWorld with
    store := (Store.empty true).saveNotification
      (.new ⟨⟨9⟩⟩ quietUser.id .epoch .createDataset "dataset 7") }

/-- A policy by which nobody mutes what concerns roles, and a mailer that sends nothing. -/
def decliningSurroundings : Surroundings :=
  { calmSurroundings with
    mutePolicy := ⟨.empty, .ofList [.assignRole]⟩
    mailer := some fun _ _ => .ok false }

theorem declined_notice_accounted_for :
    ∃ made v, (notify roleNotice).run decliningSurroundings toldWorld = (.ok made, v) ∧
      v.count Event.isMail = 1 ∧ made.emailed = false ∧
      made ∈ v.store.findNotifications .unemailed ∧
      (v.store.findNotifications (.unreadByUser quietUser.id)).length = 2 := by
  have hmuted : decliningSurroundings.mutePolicy.mutesNotification roleNotice.user
    roleNotice.type = false := rfl
  obtain ⟨⟨made, v, hrun, h⟩, hlength⟩ := notice_accounted_for roleNotice
    (s := decliningSurroundings) (w := toldWorld) rfl rfl
  have hgains := h.kept hmuted
  have hemailed : made.emailed = false := by
    rw [Bool.eq_false_iff, ne_eq, h.emailed]
    rintro ⟨-, hanswer⟩
    cases hanswer
  have huser : made.user = quietUser.id := by
    rw [h.record]
    rfl
  refine ⟨made, v, hrun, ?_, hemailed, hgains.waiting.mpr hemailed, ?_⟩
  · rw [World.count, h.calls]
    rfl
  · rw [← hlength, hgains.counted, huser]
    rfl

end Depository.Repository
