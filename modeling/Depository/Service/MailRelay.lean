import Depository.Configuration.Basic
import Depository.Notification.Email
import Depository.Service.Exchange

/-!
# The mail relay

Messages are posted to a relay, which accepts or declines them. A relay that is disabled sends
nothing.
-/

namespace Depository.Service.MailRelay

/-- The document that a message is posted as. -/
def document (s : MailSettings) (m : Email) : Json :=
  .obj [("from", .str s.fromAddress), ("to", .str m.recipient), ("subject", .str m.subject),
    ("body", .str m.body), ("html", .bool m.isHtml)]

def post (s : MailSettings) (m : Email) : Request where
  method := .post
  url := s.relayUrl
  headers := [("content-type", "application/json")] ++
    (s.apiKey.map fun key => ("authorization", "Bearer " ++ key.exposed)).toList
  body := .json (document s m)

/-- Control characters other than the tab cannot stand in a header. -/
def isHeaderText (s : String) : Bool :=
  s.toList.all fun c => c == '\t' || (0x20 ≤ c.toNat && c.toNat != 0x7f)

def unreachable (cause : String) : Failure :=
  .notification ("Mail relay unreachable: " ++ cause)

/-- Sends a message; whether the relay took it. -/
def send (s : MailSettings) (m : Email) : Conversation Bool :=
  if !s.enabled then .succeed false
  else if !s.apiKey.all fun key => isHeaderText key.exposed then
    .fail (unreachable "builder error: failed to parse header value")
  else .ask (post s m) fun
    | none => .fail (unreachable unsent)
    | some answer => .succeed answer.isSuccess

end Depository.Service.MailRelay
