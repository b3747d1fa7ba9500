import Autoresponder.Channel.Gateway
import Autoresponder.Generate
import Autoresponder.Rule.Basic

/-!
# Carrying out a rule

A resolved rule sends at most one message, recorded as a bot message on the conversation when
the provider accepts it. A text rule sends its prompt, or else its canned response; an AI rule
sends generated text, and its prompt instead when generation or sending fails; a template rule
sends its template, and its prompt as text when the template fails or is not named. A chatbot
rule sends nothing: the caller starts its flow. Provider failures become the outcome's error;
a workspace that cannot send at all is a fault before anything is tried.
-/

namespace Autoresponder

/-- What became of a dispatch. -/
inductive DispatchStatus where
  | sent
  | fallbackSent
  | chatbot
  | nothingSent
  deriving DecidableEq, Inhabited

/-- The code of a dispatch status. -/
def DispatchStatus.code : DispatchStatus → String
  | .sent => "sent"
  | .fallbackSent => "fallback_sent"
  | .chatbot => "chatbot"
  | .nothingSent => "nothing_sent"

/-- The outcome of dispatching a rule. -/
structure Outcome where
  status : DispatchStatus
  ruleId : String := ""
  reply : Option Reply := none
  /-- What was actually sent. -/
  content : String := ""
  messageIds : List String := []
  chatbotId : Option String := none
  error : String := ""
  deriving Inhabited

namespace Outcome

/-- Whether a message went out. -/
def sent (o : Outcome) : Bool := o.status == .sent || o.status == .fallbackSent

/-- The record with snake_case keys. -/
def toValue (o : Outcome) : Value :=
  .dict [("status", .str o.status.code), ("rule_id", .str o.ruleId),
    ("response_type", Value.ofOption (o.reply.map Reply.code)), ("content", .str o.content),
    ("message_ids", .list (o.messageIds.map .str)), ("chatbot_id", Value.ofOption o.chatbotId),
    ("error", .str o.error)]

end Outcome

namespace Dispatch

open Autoresponder.Text Autoresponder.Channel

/-- The outcome of sending nothing, with the reason. -/
def nothing (rule : Rule) (error : String) : Outcome :=
  { status := .nothingSent, ruleId := rule.id, reply := some rule.reply, error }

/-- Records a sent text or template as a bot message. -/
def record (conv : Conversation) (ws : Workspace) (phone body : String) (receipt : Value)
    (kind : String := "text") : Op Message :=
  Op.keepMessage conv.id ws.id phone kind body receipt

/-- Sends a text and records it; a provider failure sends nothing. -/
def sendText (rule : Rule) (phone : String) (conv : Conversation) (ws : Workspace)
    (body : String) (status : DispatchStatus) (error : String := "") : Op Outcome := do
  match ← attempt (Channel.sendText ws phone body) with
  | .error e => return nothing rule e
  | .ok receipt =>
    let m ← record conv ws phone body receipt
    return { status, ruleId := rule.id, reply := some rule.reply, content := body,
             messageIds := [m.messageId], error }

/-- The content of a canned response, trimmed; empty when it is missing or cannot be read. -/
def materialContent (workspaceId materialId : String) : Op String := do
  match (← Op.store).material? workspaceId materialId with
  | .ok (some m) => return trim m.content
  | _ => return ""

/-- A text rule: the prompt, or else the canned response. -/
def viaText (rule : Rule) (phone : String) (conv : Conversation) (ws : Workspace) : Op Outcome := do
  let mut body := trim rule.aiPrompt
  if body.isEmpty then
    if let some mid := rule.materialId then
      if !mid.isEmpty then body ← materialContent ws.id mid
  if body.isEmpty then return nothing rule "no text content"
  sendText rule phone conv ws body .sent

/-- An AI rule: generated text, or the prompt when generation or sending fails. -/
def viaAi (rule : Rule) (phone : String) (conv : Conversation) (ws : Workspace) : Op Outcome := do
  let prompt := trim rule.aiPrompt
  if prompt.isEmpty then return nothing rule "no AI prompt"
  match ← generate prompt with
  | .error e => sendText rule phone conv ws prompt .fallbackSent e
  | .ok text =>
    match ← attempt (Channel.sendText ws phone text) with
    | .error e => sendText rule phone conv ws prompt .fallbackSent e
    | .ok receipt =>
      let m ← record conv ws phone text receipt
      return { status := .sent, ruleId := rule.id, reply := some rule.reply, content := text,
               messageIds := [m.messageId] }

/-- A template rule: the template, or the prompt as text when it fails or is not named. -/
def viaTemplate (rule : Rule) (phone : String) (conv : Conversation) (ws : Workspace) :
    Op Outcome := do
  let fallback := trim rule.aiPrompt
  let name := trim rule.templateName
  if name.isEmpty then
    if fallback.isEmpty then return nothing rule "no template name"
    return ← sendText rule phone conv ws fallback .fallbackSent "no template name"
  let lang := (← Op.setup).templateLanguage
  match ← attempt (Channel.sendTemplate ws phone name lang) with
  | .error e =>
    if fallback.isEmpty then return nothing rule e
    sendText rule phone conv ws fallback .fallbackSent e
  | .ok receipt =>
    let m ← record conv ws phone ("Template: " ++ name) receipt "template"
    return { status := .sent, ruleId := rule.id, reply := some rule.reply, content := name,
             messageIds := [m.messageId] }

end Dispatch

/-- Carries out a rule for a conversation. -/
def dispatch (rule : Rule) (phone : String) (conv : Conversation) (ws : Workspace) : Op Outcome := do
  if rule.reply == .chatbot then
    return { status := .chatbot, ruleId := rule.id, reply := some rule.reply,
             chatbotId := rule.chatbotFlow }
  Op.lift (Channel.ensureCredentials ws)
  match rule.reply with
  | .ai => Dispatch.viaAi rule phone conv ws
  | .template => Dispatch.viaTemplate rule phone conv ws
  | _ => Dispatch.viaText rule phone conv ws

end Autoresponder
