import Autoresponder.Schema.Check
import Autoresponder.Time.Stamp

/-!
# Inbound messages

What a customer sends, as the webhook reports it: the sender's phone, the provider's
message id, the kind of message, its text, the button or list row picked (for interactive
replies), the sender's profile name, the workspace's phone number id, the send time and a
media id. Status updates report delivery of messages the workspace sent.
-/

namespace Autoresponder

open Autoresponder.Time

/-- A button or list row that a customer picked. -/
structure Pick where
  kind : String := "button_reply"
  id : String := ""
  title : String := ""
  deriving Inhabited

namespace Pick

/-- Checks a pick record. -/
def check (fs : Fields) : Checked Pick :=
  let kind := fs.withDefault "type" "type" "button_reply" Check.text
  let id := fs.withDefault "id" "id" "" Check.text
  let title := fs.withDefault "title" "title" "" Check.text
  let es := kind.issues ++ id.issues ++ title.issues
  if es.isEmpty then .ok ⟨kind.getD "", id.getD "", title.getD ""⟩ else .error es

/-- The record. -/
def toValue (p : Pick) : Value :=
  .dict [("type", .str p.kind), ("id", .str p.id), ("title", .str p.title)]

end Pick

/-- An inbound message. -/
structure Inbound where
  phone : String
  messageId : String := ""
  kind : String := "text"
  text : String := ""
  pick : Option Pick := none
  contactName : String := ""
  phoneNumberId : String := ""
  timestamp : Option Stamp := none
  link : String := ""
  deriving Inhabited

namespace Inbound

/-- Checks an inbound message record. -/
def check (fs : Fields) : Checked Inbound :=
  let phone := fs.need "phone" "phone" Check.text
  let messageId := fs.withDefault "messageId" "message_id" "" Check.text
  let kind := fs.withDefault "type" "type" "text" Check.text
  let text := fs.withDefault "text" "text" "" Check.text
  let pick := fs.withDefault "interactive" "interactive" none
    (Check.optional (Check.record "InteractiveReply" Pick.check))
  let contactName := fs.withDefault "contactName" "contact_name" "" Check.text
  let phoneNumberId := fs.withDefault "phoneNumberId" "phone_number_id" "" Check.text
  let timestamp := fs.withDefault "timestamp" "timestamp" none (Check.optional Check.stamp)
  let link := fs.withDefault "link" "link" "" Check.text
  let es := phone.issues ++ messageId.issues ++ kind.issues ++ text.issues ++ pick.issues ++
    contactName.issues ++ phoneNumberId.issues ++ timestamp.issues ++ link.issues
  if !es.isEmpty then .error es
  else
    .ok {
      phone := phone.getD "", messageId := messageId.getD "", kind := kind.getD ""
      text := text.getD "", pick := pick.getD none, contactName := contactName.getD ""
      phoneNumberId := phoneNumberId.getD "", timestamp := timestamp.getD none
      link := link.getD "" }

/-- The record with camelCase keys. -/
def toValue (m : Inbound) : Value :=
  .dict [("phone", .str m.phone), ("messageId", .str m.messageId), ("type", .str m.kind),
    ("text", .str m.text), ("interactive", match m.pick with
      | some p => p.toValue
      | none => .null),
    ("contactName", .str m.contactName), ("phoneNumberId", .str m.phoneNumberId),
    ("timestamp", match m.timestamp with
      | some t => .str t.recordText
      | none => .null),
    ("link", .str m.link)]

/-- Whether the message is plain text. -/
def isText (m : Inbound) : Bool := m.kind == "text"

end Inbound

/-- A delivery status of a sent message. -/
structure StatusUpdate where
  messageId : String
  status : String
  recipient : String := ""
  deriving Inhabited

namespace StatusUpdate

/-- Checks a status record. -/
def check (fs : Fields) : Checked StatusUpdate :=
  let messageId := fs.need "messageId" "message_id" Check.text
  let status := fs.need "status" "status" Check.text
  let recipient := fs.withDefault "recipient" "recipient" "" Check.text
  let es := messageId.issues ++ status.issues ++ recipient.issues
  if es.isEmpty then .ok ⟨messageId.getD "", status.getD "", recipient.getD ""⟩ else .error es

/-- The record with camelCase keys. -/
def toValue (s : StatusUpdate) : Value :=
  .dict [("messageId", .str s.messageId), ("status", .str s.status),
    ("recipient", .str s.recipient)]

end StatusUpdate

end Autoresponder
