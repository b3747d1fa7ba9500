import Autoresponder.Flow.Run
import Autoresponder.Dispatch
import Autoresponder.Rule.Service
import Autoresponder.Rule.Resolve
import Autoresponder.Rule.Hours

/-!
# Routing inbound messages

Every message a customer sends goes to a chatbot flow or to the automation rules, never both.
The sender's number is normalised first; a number that normalises to nothing is refused. The
conversation of that number in the workspace is found or created, the message is recorded, and
the conversation is touched (taking the sender's profile name when one came).

The flow interpreter sees the message first. When it does not take the message, the workspace's
settings (made from defaults on first use) and working hours choose a rule, judged on the
conversation as it was before this message. A chatbot rule then starts its chatbot when the
chatbot belongs to the workspace. A workspace that cannot send ends the routing with its error.
-/

namespace Autoresponder

open Autoresponder.Time Autoresponder.Flow

/-- Where a message went and what happened there. -/
structure Routed where
  conversationId : String := ""
  /-- `chatbot`, `automation` or `none`. -/
  route : String := ""
  flow : Option FlowResult := none
  dispatch : Option Outcome := none
  ruleId : Option String := none
  error : String := ""
  deriving Inhabited

/-- The record with snake_case keys. -/
def Routed.toValue (r : Routed) : Value :=
  .dict [("conversation_id", .str r.conversationId), ("route", .str r.route),
    ("flow", (r.flow.map FlowResult.toValue).getD .null),
    ("dispatch", (r.dispatch.map Outcome.toValue).getD .null),
    ("rule_id", Value.ofOption r.ruleId), ("error", .str r.error)]

namespace Routing

/-- Records a customer's message on a conversation. -/
def recordInbound (m : Inbound) (conv : Conversation) (ws : Workspace) (phone : String) :
    Op Message :=
  let body := match m.pick with
    | some p => if p.title.isEmpty then p.id else p.title
    | none => m.text
  Op.keepMessage conv.id ws.id phone m.kind body (.str m.messageId) m.link "none" true false
    "received"

/-- The automation setting of the welcome window, in microseconds. -/
def welcomeMicros : Op Int := do
  Op.lift (Config.durationMicros "minutes" 60000000
    ((← Op.setup).automation.get "welcome_window_minutes"))

/-- Checks the settings the inbound processor is built from: the welcome window must make a
duration. -/
def prepare : Op Unit := discard welcomeMicros

/-- Runs a step, turning a workspace that cannot send into its message; other faults pass. -/
def unlessUnconfigured {α : Type} (x : Op α) : Op (Except String α) :=
  tryCatch (Except.ok <$> x) fun f => match f with
    | .notConfigured msg => pure (.error msg)
    | other => throw other

/-- Chooses and carries out a rule, starting a chatbot rule's flow. What was decided before a
workspace turned out unable to send is kept with the error. -/
def automate (r : Routed) (snapshot conv : Conversation) (ws : Workspace) (now : Stamp) :
    Op Routed := do
  let settings ← Rule.settingsOrDefaults ws.id
  let zone := ((← Op.setup).automation.get "timezone").asStr?
  let working ← Op.lift (Hours.isWorking settings zone (some now) now)
  let team := (← Op.store).teamOf snapshot.workspaceId
  let window ← welcomeMicros
  let some rule ← Op.lift (Resolve.choose ⟨settings, snapshot, working, now, team, window⟩)
    | return r
  let r := { r with route := "automation", ruleId := some rule.id }
  let outcome ← match ← unlessUnconfigured (dispatch rule conv.phone conv ws) with
    | .ok o => pure o
    | .error e => return { r with error := e }
  let r := { r with dispatch := some outcome }
  if outcome.status != .chatbot then return r
  let store ← Op.store
  let bot := outcome.chatbotId.bind fun id => if id.isEmpty then none else store.chatbot? id
  let some b := bot | return r
  if b.workspaceId != ws.id then return r
  let r := { r with route := "chatbot" }
  match ← unlessUnconfigured (Flow.start conv ws b now) with
  | .ok flow => return { r with flow := some flow }
  | .error e => return { r with error := e }

/-- Creates the conversation of a number in a workspace, made now with a fresh id. -/
def openConversation (phone contactName : String) (ws : Workspace) : Op Conversation := do
  let now ← Op.now
  let c : Conversation := { id := ← Op.freshId, workspaceId := ws.id, phone, contactName,
                            createdAt := now, updatedAt := now }
  Op.changeStore (·.createConversation c)
  return c

/-- The conversation of a number in a workspace, created when there is none. -/
def conversationFor (phone contactName : String) (ws : Workspace) : Op Conversation := do
  match (← Op.store).findConversation? phone ws.id with
  | some c => return c
  | none => openConversation phone contactName ws

end Routing

/-- Routes a customer's message to a chatbot flow or to the automation rules. -/
def routeInbound (m : Inbound) (ws : Workspace) (now : Stamp) : Op Routed := do
  let cc := ((← Op.setup).automation.get "default_country_code").display
  let phone := Phone.normalize m.phone cc
  if phone.isEmpty then return { route := "none", error := "invalid phone number" }
  let snapshot ← Routing.conversationFor phone m.contactName ws
  discard (Routing.recordInbound m snapshot ws phone)
  let patch : Conversation.Patch :=
    if m.contactName.isEmpty then {} else { contactName := some m.contactName }
  let (updated, s) ← Op.lift ((← Op.store).updateConversation snapshot.id patch (← Op.now))
  Op.setStore s
  let conv := updated.getD snapshot
  let r : Routed := { conversationId := conv.id, route := "none" }
  let flow ← match ← Routing.unlessUnconfigured (Flow.handle conv ws m now) with
    | .ok f => pure f
    | .error e => return { r with error := e }
  if flow.handled then return { r with route := "chatbot", flow := some flow }
  let store ← Op.store
  let conv := if flow.chatbotId.any (!·.isEmpty) then (store.conversation? conv.id).getD conv else conv
  Routing.automate r snapshot conv ws now

/-- Applies a delivery status to the sent messages it names; whether any were found. -/
def applyStatus (u : StatusUpdate) : Op Bool := do
  let (found, s) := (← Op.store).updateMessageStatus u.messageId u.status
  Op.setStore s
  return found

end Autoresponder
