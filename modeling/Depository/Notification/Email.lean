import Depository.Account.Basic
import Depository.Notification.Basic

/-!
# E-mail

The message by which a user is told of a notification.
-/

namespace Depository

/-- An outgoing message. -/
structure Email where
  recipient : String
  subject : String
  body : String
  isHtml : Bool
  deriving DecidableEq

/-- The message about a notification, with a comment after a blank line. -/
def Email.about (u : User) (n : Notification) (comment : Option String) (isHtml : Bool) :
    Email where
  recipient := u.email
  subject := "[Cairn] " ++ n.type.name
  body := n.type.name ++ " notification about " ++ n.object ++
    (comment.map ("\n\n" ++ ·)).getD ""
  isHtml := isHtml

end Depository
