import Autoresponder.Flow.Walk
import Autoresponder.Flow.Call
import Autoresponder.Channel.Gateway

/-!
# Running chatbot flows

A conversation's flow state is the chatbot that owns it, the node waiting for the customer's
reply, and when that wait expires. A trigger phrase starts a chatbot: the graph is walked from
its start node, every node met is sent, and the flow then waits, completes (the state is
cleared and the conversation closed) or hands off to an agent (the state is cleared and the
conversation opened for agents). A reply continues the flow from where the reply leads.

After the wait expires, a picked button or row still continues the flow (and extends the wait),
the trigger phrase restarts it, and any other text clears the flow so that automation rules
answer instead. A missing chatbot clears the flow; a broken graph or a missing waiting node
hands off.

Sending a node sends, in order: its template, or its options (as buttons or a list when there
are one to ten, as a numbered text otherwise), or its media; then its call-to-action button;
its text when nothing else carried it; its location; and last its API call, whose data becomes
the variables `api` and `<node id>` for the nodes sent after it. Each send is recorded as a bot
message, failed or not.
-/

namespace Autoresponder.Flow

open Autoresponder.Text Autoresponder.Time Autoresponder.Channel

/-- How handling a message in a flow ended. -/
inductive FlowStatus where
  | notTriggered
  | noMatch
  | expired
  | waiting
  | completed
  | handoff
  deriving DecidableEq, Inhabited

/-- The code of a flow status. -/
def FlowStatus.code : FlowStatus → String
  | .notTriggered => "not_triggered"
  | .noMatch => "no_match"
  | .expired => "expired"
  | .waiting => "waiting"
  | .completed => "completed"
  | .handoff => "handoff"

/-- The flow status a walk ends in. -/
def Outcome.status : Outcome → FlowStatus
  | .waiting => .waiting
  | .completed => .completed
  | .handoff => .handoff

/-- One send of a node: what kind, whether it went out, the provider's id or the error. -/
structure Emitted where
  nodeId : String
  kind : String
  ok : Bool := true
  messageId : String := ""
  error : String := ""
  deriving Inhabited

/-- The record with snake_case keys. -/
def Emitted.toValue (e : Emitted) : Value :=
  .dict [("node_id", .str e.nodeId), ("kind", .str e.kind), ("ok", .bool e.ok),
    ("message_id", .str e.messageId), ("error", .str e.error)]

/-- What handling a message in a flow did. -/
structure FlowResult where
  status : FlowStatus
  chatbotId : Option String := none
  currentNode : Option String := none
  emitted : List Emitted := []
  error : String := ""
  deriving Inhabited

namespace FlowResult

/-- Whether the flow took the message: it waits, completed or handed off. -/
def handled (r : FlowResult) : Bool :=
  r.status == .waiting || r.status == .completed || r.status == .handoff

/-- The record with snake_case keys. -/
def toValue (r : FlowResult) : Value :=
  .dict [("status", .str r.status.code), ("chatbot_id", Value.ofOption r.chatbotId),
    ("current_node", Value.ofOption r.currentNode),
    ("emitted", .list (r.emitted.map Emitted.toValue)), ("error", .str r.error)]

end FlowResult

/-- The variables a flow starts with. -/
def startContext (conv : Conversation) (inbound : Option Inbound) : Value :=
  .dict [("message", .str ((inbound.map (·.text)).getD "")), ("phone", .str conv.phone),
    ("contact_name", .str conv.contactName), ("variables", .dict [])]

/-- Options shown as a numbered text under the body. -/
def numbered (body : String) (children : List Node) : String :=
  let lines := (children.zipIdx 1).map fun (c, i) => toString i ++ ". " ++ c.message
  "\n\n".intercalate ([body, "\n".intercalate lines].filter (!·.isEmpty))

/-- The label of a location message: its name, else its address, else its coordinates. -/
def Location.label (p : Location) : String :=
  if !p.name.isEmpty then p.name
  else if !p.address.isEmpty then p.address
  else (Value.float p.latitude).display ++ "," ++ (Value.float p.longitude).display

/-- The media kinds a node may carry. -/
def mediaKinds : List String := ["image", "video", "audio", "document"]

/-- The flow's timeout setting as microseconds. -/
def timeoutMicros : Op Int := do
  Op.lift (Config.durationMicros "seconds" 1000000
    ((← Op.setup).automation.get "chatbot_timeout_seconds"))

/-- The most nodes a walk may visit; a setting that is no number cannot be compared with a
count. -/
def maxSteps : Op StepLimit := do
  match (← Op.setup).automation.get "max_flow_steps" with
  | .int n => return .whole n
  | .bool b => return .whole (if b then 1 else 0)
  | .float x => return .real x
  | v => Op.fail (.badKind ("'>=' not supported between instances of 'int' and '" ++ v.kindName ++ "'"))

/-- The option a menu offers for a child: the child's id, titled by its message, else by its
id. -/
def Node.menuOption (c : Node) : Choice :=
  { id := c.nodeId, title := if c.message.isEmpty then c.nodeId else c.message }

/-- Sends one message of a node and records it; a provider failure is recorded as failed. -/
def deliver (node : Node) (conv : Conversation) (ws : Workspace) (kind text : String)
    (send : Op Value) (link : String := "") (fileType : String := "none") : Op Emitted := do
  let (receipt, error) ← match ← attempt send with
    | .ok r => pure (r, "")
    | .error e => pure (Value.str "", e)
  let m ← Op.keepMessage conv.id ws.id conv.phone kind text receipt link fileType false true
    (if error.isEmpty then "sent" else "failed")
  return { nodeId := node.nodeId, kind, ok := error.isEmpty, messageId := m.messageId, error }

/-- Sends a node; the sends made and the variables after its API call. -/
def emit (node : Node) (conv : Conversation) (ws : Workspace) (context : Value) :
    Op (List Emitted × Value) := do
  let phone := conv.phone
  let body := trim node.message
  let mut out : List Emitted := []
  let mut consumed := true
  let interactive := node.kind == .buttonMessage || node.kind == .interactive
  if node.kind == .template then
    let name := if (trim node.templateName).isEmpty then body else trim node.templateName
    out := out ++ [← deliver node conv ws "template" ("Template: " ++ name) (sendTemplate ws phone name)]
  else if interactive && 0 < node.children.length && node.children.length ≤ maxRows then
    let options := node.children.map Node.menuOption
    out := out ++ [← deliver node conv ws "interactive" body (sendChoices ws phone body options)]
  else if (node.kind == .optionMessage || interactive) && !node.children.isEmpty then
    let text := numbered body node.children
    out := out ++ [← deliver node conv ws "text" text (Channel.sendText ws phone text)]
  else if mediaKinds.contains node.fileType && !node.link.isEmpty then
    out := out ++ [← deliver node conv ws node.fileType body
      (sendMedia ws phone node.fileType node.link body) node.link node.fileType]
  else consumed := false
  if let some cta := node.cta then
    let ctaBody := if consumed then cta.buttonText else body
    out := out ++ [← deliver node conv ws "cta" ctaBody (sendCta ws phone ctaBody cta) cta.url]
    consumed := true
  if !consumed && !body.isEmpty then
    out := out ++ [← deliver node conv ws "text" body (Channel.sendText ws phone body)]
  if let some place := node.location then
    out := out ++ [← deliver node conv ws "location" place.label (sendLocation ws phone place)]
  let mut context := context
  if let some api := node.api then
    let result ← api.run context
    let data := result.getD "data"
    let vars := ((context.getD "variables").set "api" data).set node.nodeId data
    context := context.set "variables" vars
    let err := match result.get? "error" with
      | some e => e.display
      | none => ""
    out := out ++ [{ nodeId := node.nodeId, kind := "api", ok := (result.getD "ok").truthy, error := err }]
  return (out, context)

/-- Clears the flow state with a conversation status, marking a handoff when asked. -/
def clear (conv : Conversation) (status : Status) (handoff : Bool := false) : Op Conversation := do
  let mark : Option Bool := if handoff then some true else none
  let p : Conversation.Patch := { chatbotId := some none, currentNode := some none,
                                  chatbotTimeout := some none, status := some status,
                                  handoff := mark }
  let (updated, s) ← Op.lift ((← Op.store).updateConversation conv.id p (← Op.now))
  Op.setStore s
  return updated.getD (conv.apply p)

/-- Sends what a walk emitted and records where the flow stands. -/
def execute (conv : Conversation) (ws : Workspace) (bot : Chatbot) (t : Traversal) (now : Stamp)
    (context : Value) : Op FlowResult := do
  Op.lift (ensureCredentials ws)
  let mut emitted : List Emitted := []
  let mut context := context
  for node in t.emitted do
    let (out, ctx) ← emit node conv ws context
    emitted := emitted ++ out
    context := ctx
  match t.outcome with
  | .waiting =>
    let expiry ← Op.lift ((now.shift (← timeoutMicros)).mapError Fault.ofTime)
    let p : Conversation.Patch := { chatbotId := some (some bot.id), currentNode := some t.last,
                                    chatbotTimeout := some (some expiry), status := some .closed,
                                    handoff := some false }
    let (_, s) ← Op.lift ((← Op.store).updateConversation conv.id p (← Op.now))
    Op.setStore s
  | .handoff => discard (clear conv .opened true)
  | .completed => discard (clear conv .closed)
  return { status := t.outcome.status, chatbotId := some bot.id, currentNode := t.waitingNode,
           emitted, error := t.error }

/-- Runs a chatbot from its start node. -/
def start (conv : Conversation) (ws : Workspace) (bot : Chatbot) (now : Stamp)
    (inbound : Option Inbound := none) : Op FlowResult := do
  let context := startContext conv inbound
  let t ← match Graph.parse bot.bot with
    | .error (.badGraph e) => pure ({ outcome := .handoff, error := e } : Traversal)
    | .error f => Op.fail f
    | .ok g => Op.lift (walk g "start" context (← maxSteps))
  execute conv ws bot t now context

/-- The published chatbot of a workspace that a text triggers. -/
def findChatbot (workspaceId text : String) : Op (Option Chatbot) := do
  return Trigger.find? text ((← Op.store).chatbotsOf workspaceId true)

/-- Starts the chatbot a text triggers, if any. -/
def tryTrigger (conv : Conversation) (ws : Workspace) (inbound : Inbound) (now : Stamp) :
    Op FlowResult := do
  if !inbound.isText || (trim inbound.text).isEmpty then return { status := .notTriggered }
  match ← findChatbot conv.workspaceId inbound.text with
  | none => return { status := .notTriggered }
  | some bot => start conv ws bot now inbound

/-- Whether the conversation's wait expired before a time. -/
def expiredAt (conv : Conversation) (now : Stamp) : Except Fault Bool :=
  match conv.chatbotTimeout with
  | none => .ok false
  | some t => match t.cmp now with
    | .ok o => .ok (o == .lt)
    | .error e => .error (Fault.ofTime e)

/-- Continues the active flow with a message, or starts one when a trigger matches. -/
def handle (conv : Conversation) (ws : Workspace) (inbound : Inbound) (now : Stamp) :
    Op FlowResult := do
  let interactive := inbound.pick.isSome
  if !(inbound.isText || interactive) then return { status := .notTriggered }
  let some botId := conv.chatbotId | tryTrigger conv ws inbound now
  let some bot := (← Op.store).chatbot? botId | do
    let conv ← clear conv .opened
    tryTrigger conv ws inbound now
  if ← Op.lift (expiredAt conv now) then
    if !interactive then
      if Trigger.fires inbound.text bot.trigger then return ← start conv ws bot now inbound
      discard (clear conv .opened)
      return { status := .expired, chatbotId := some bot.id }
  if inbound.isText && Trigger.isExact inbound.text bot.trigger then
    return ← start conv ws bot now inbound
  match Graph.parse bot.bot with
  | .error (.badGraph e) => execute conv ws bot { outcome := .handoff, error := e } now (.dict [])
  | .error f => Op.fail f
  | .ok g =>
    let current := conv.currentNode.bind g.get?
    let missing : Traversal :=
      { outcome := .handoff, error := "node '" ++ conv.currentNode.getD "None" ++ "' not found" }
    let some cur := current | execute conv ws bot missing now (.dict [])
    let sel ← Op.lift (selectReply g current inbound)
    if !sel.matched then
      return { status := .noMatch, chatbotId := some bot.id, currentNode := conv.currentNode }
    let context := startContext conv inbound
    let t ← match sel.target? with
      | none => pure ({ outcome := .completed, last := some cur.nodeId } : Traversal)
      | some key => do
        let steps ← maxSteps
        Op.lift (walk g key context steps)
    execute conv ws bot t now context

end Autoresponder.Flow
