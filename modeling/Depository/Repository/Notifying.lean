import Depository.Repository.Call

/-!
# Notifying

A notification is sent by mail unless its mail is muted, and kept unless the notification itself
is. Trouble with the mail is no failure.
-/

namespace Depository.Repository

open Depository.Action

/-- A notification to be sent. -/
structure Notice where
  user : User
  time : Time.Instant
  type : NotificationType
  object : String
  comment : Option String
  requestor : Option UserId
  isHtml : Bool

/-- The notification that a notice makes. -/
def Notice.notification (n : Notice) (id : NotificationId) : Notification :=
  { Notification.new id n.user.id n.time n.type n.object with
    requestor := n.requestor
    additionalInfo := n.comment }

/-- Sends the mail about a notification and tells whether it left. -/
def deliver (n : Notice) (notification : Notification) : Action Bool := do
  let policy := (← surroundings).mutePolicy
  if policy.mutesEmail n.user n.type then return false
  else
    match ← outcome (sendMail (.about n.user notification n.comment n.isHtml)) with
    | .ok sent => return sent
    | .error _ => return false

/-- Sends and keeps a notification, and answers it as it was made. -/
def notify (n : Notice) : Action Notification := do
  let id ← freshId
  let draft := n.notification ⟨id⟩
  let emailed ← deliver n draft
  let notification := { draft with emailed }
  let policy := (← surroundings).mutePolicy
  if policy.mutesNotification n.user n.type then return notification
  else saveNotification notification

end Depository.Repository
