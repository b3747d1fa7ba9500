import Autoresponder.Schema.Check
import Autoresponder.Time.Stamp

/-!
# Conversations and messages

A conversation is the thread between a workspace and one phone number. It is open while
agents should see it and closed while a bot owns it or it is finished; while a chatbot
flow runs it records the flow, the node waiting for an answer and when the wait expires.
A message belongs to a conversation and records what was sent or received.
-/

namespace Autoresponder

open Autoresponder.Time

/-- Who sees a conversation. -/
inductive Status where
  | opened
  | closed
  deriving DecidableEq, Inhabited, Repr

/-- The code of a status. -/
def Status.code : Status → String
  | .opened => "open"
  | .closed => "closed"

/-- A stamp as a record value, or null. -/
def stampValue : Option Stamp → Value
  | some t => .str t.recordText
  | none => .null

/-- A conversation record. -/
structure Conversation where
  id : String
  workspaceId : String
  phone : String
  contactName : String := ""
  status : Status := .opened
  chatbotId : Option String := none
  currentNode : Option String := none
  chatbotTimeout : Option Stamp := none
  handoff : Bool := false
  createdAt : Stamp
  updatedAt : Stamp
  deriving Inhabited

namespace Conversation

/-- Checks a conversation record; `fresh` is the id and `now` the time given to a record
without them. -/
def check (fresh : String) (now : Stamp) (fs : Fields) : Checked Conversation :=
  let id := fs.withDefault "id" "id" fresh Check.text
  let ws := fs.need "workspaceId" "workspace_id" Check.text
  let phone := fs.need "phone" "phone" Check.text
  let name := fs.withDefault "contactName" "contact_name" "" Check.text
  let status := fs.withDefault "status" "status" "open" (Check.choice ["open", "closed"])
  let bot := fs.withDefault "chatbotId" "chatbot_id" none (Check.optional Check.text)
  let node := fs.withDefault "currentNode" "current_node" none (Check.optional Check.text)
  let timeout := fs.withDefault "chatbotTimeout" "chatbot_timeout" none (Check.optional Check.stamp)
  let handoff := fs.withDefault "handoff" "handoff" false Check.flag
  let created := fs.withDefault "createdAt" "created_at" now Check.stamp
  let updated := fs.withDefault "updatedAt" "updated_at" now Check.stamp
  let es := id.issues ++ ws.issues ++ phone.issues ++ name.issues ++ status.issues ++
    bot.issues ++ node.issues ++ timeout.issues ++ handoff.issues ++ created.issues ++
    updated.issues
  if !es.isEmpty then .error es
  else
    .ok {
      id := id.getD "", workspaceId := ws.getD "", phone := phone.getD ""
      contactName := name.getD ""
      status := if status.getD "open" == "closed" then .closed else .opened
      chatbotId := bot.getD none, currentNode := node.getD none
      chatbotTimeout := timeout.getD none, handoff := handoff.getD false
      createdAt := created.getD now, updatedAt := updated.getD now }

/-- The record with camelCase keys. -/
def toValue (c : Conversation) : Value :=
  .dict [("id", .str c.id), ("workspaceId", .str c.workspaceId), ("phone", .str c.phone),
    ("contactName", .str c.contactName), ("status", .str c.status.code),
    ("chatbotId", Value.ofOption c.chatbotId), ("currentNode", Value.ofOption c.currentNode),
    ("chatbotTimeout", stampValue c.chatbotTimeout), ("handoff", .bool c.handoff),
    ("createdAt", .str c.createdAt.recordText), ("updatedAt", .str c.updatedAt.recordText)]

/-- Whether a flow is running. -/
def hasActiveFlow (c : Conversation) : Bool := c.chatbotId.isSome

end Conversation

/-- A message record. -/
structure Message where
  id : String
  conversationId : String
  workspaceId : String
  phone : String := ""
  kind : String := "text"
  message : String := ""
  link : String := ""
  fileType : String := "none"
  fromCustomer : Bool := false
  isBot : Bool := false
  messageId : String := ""
  status : String := "sent"
  createdAt : Stamp
  deriving Inhabited

namespace Message

/-- Checks a message record; `fresh` and `now` fill a missing id and time. -/
def check (fresh : String) (now : Stamp) (fs : Fields) : Checked Message :=
  let id := fs.withDefault "id" "id" fresh Check.text
  let conv := fs.need "conversationId" "conversation_id" Check.text
  let ws := fs.need "workspaceId" "workspace_id" Check.text
  let phone := fs.withDefault "phone" "phone" "" Check.text
  let kind := fs.withDefault "type" "type" "text" Check.text
  let message := fs.withDefault "message" "message" "" Check.text
  let link := fs.withDefault "link" "link" "" Check.text
  let fileType := fs.withDefault "fileType" "file_type" "none" Check.text
  let fromCustomer := fs.withDefault "fromCustomer" "from_customer" false Check.flag
  let isBot := fs.withDefault "isBot" "is_bot" false Check.flag
  let messageId := fs.withDefault "messageId" "message_id" "" Check.text
  let status := fs.withDefault "status" "status" "sent" Check.text
  let created := fs.withDefault "createdAt" "created_at" now Check.stamp
  let es := id.issues ++ conv.issues ++ ws.issues ++ phone.issues ++ kind.issues ++
    message.issues ++ link.issues ++ fileType.issues ++ fromCustomer.issues ++ isBot.issues ++
    messageId.issues ++ status.issues ++ created.issues
  if !es.isEmpty then .error es
  else
    .ok {
      id := id.getD "", conversationId := conv.getD "", workspaceId := ws.getD ""
      phone := phone.getD "", kind := kind.getD "", message := message.getD ""
      link := link.getD "", fileType := fileType.getD "", fromCustomer := fromCustomer.getD false
      isBot := isBot.getD false, messageId := messageId.getD "", status := status.getD ""
      createdAt := created.getD now }

/-- The record with camelCase keys. -/
def toValue (m : Message) : Value :=
  .dict [("id", .str m.id), ("conversationId", .str m.conversationId),
    ("workspaceId", .str m.workspaceId), ("phone", .str m.phone), ("type", .str m.kind),
    ("message", .str m.message), ("link", .str m.link), ("fileType", .str m.fileType),
    ("fromCustomer", .bool m.fromCustomer), ("isBot", .bool m.isBot),
    ("messageId", .str m.messageId), ("status", .str m.status),
    ("createdAt", .str m.createdAt.recordText)]

end Message

end Autoresponder
