import Depository.Identifier.EntityId
import Depository.Notification.Kind
import Depository.Time.Instant

/-!
# Notifications

A notification tells one user about an event, and the questions that select notifications.
-/

namespace Depository

/-- A notification addressed to a user; `object` names what it is about. -/
structure Notification where
  id : NotificationId
  user : UserId
  sendDate : Time.Instant
  type : NotificationType
  object : String
  requestor : Option UserId
  read : Bool
  emailed : Bool
  additionalInfo : Option String
  deriving DecidableEq

/-- A notification that is neither read nor sent. -/
def Notification.new (id : NotificationId) (user : UserId) (sendDate : Time.Instant)
    (type : NotificationType) (object : String) : Notification where
  id := id
  user := user
  sendDate := sendDate
  type := type
  object := object
  requestor := none
  read := false
  emailed := false
  additionalInfo := none

/-- Which notifications are asked for. -/
inductive NotificationQuery where
  | byUser (user : UserId)
  | byRequestor (user : UserId)
  | byObject (object : String)
  | unreadByUser (user : UserId)
  | unemailed

def NotificationQuery.matches (q : NotificationQuery) (n : Notification) : Bool :=
  match q with
  | .byUser u => n.user == u
  | .byRequestor u => n.requestor == some u
  | .byObject o => n.object == o
  | .unreadByUser u => n.user == u && !n.read
  | .unemailed => !n.emailed

/-- Notifications with the newest first; those sent together keep their order. -/
def Notification.newestFirst (ns : List Notification) : List Notification :=
  ns.mergeSort fun a b => b.sendDate ≤ a.sendDate

end Depository
