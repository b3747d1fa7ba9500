import Autoresponder.Schema.Check
import Autoresponder.Text.Basic

/-!
# Chatbots

A chatbot belongs to a workspace, has a trigger phrase, a graph (kept as it arrived: a
JSON text or an object) and two switches: published, and default. A message starts a
published chatbot when it equals the trigger or contains it, ignoring case, blank space at
the ends and a leading slash on either side; an exact match beats containment.
-/

namespace Autoresponder

open Autoresponder.Text

/-- A chatbot record. -/
structure Chatbot where
  id : String
  workspaceId : String
  name : String := ""
  trigger : String := ""
  bot : Value := .null
  publish : Bool := false
  isDefault : Bool := false
  deriving Inhabited

namespace Chatbot

/-- Checks a chatbot record; `fresh` is the id given to a record without one. -/
def check (fresh : String) (fs : Fields) : Checked Chatbot :=
  let id := fs.withDefault "id" "id" fresh Check.text
  let ws := fs.need "workspaceId" "workspace_id" Check.text
  let name := fs.withDefault "name" "name" "" Check.text
  let trigger := fs.withDefault "trigger" "trigger" "" Check.text
  let bot := fs.withDefault "bot" "bot" Value.null .ok
  let publish := fs.withDefault "publish" "publish" false Check.flag
  let dflt := fs.withDefault "default" "default" false Check.flag
  let es := id.issues ++ ws.issues ++ name.issues ++ trigger.issues ++ bot.issues ++
    publish.issues ++ dflt.issues
  if es.isEmpty then
    .ok ⟨id.getD "", ws.getD "", name.getD "", trigger.getD "", bot.getD .null,
      publish.getD false, dflt.getD false⟩
  else .error es

/-- The record with camelCase keys. -/
def toValue (b : Chatbot) : Value :=
  .dict [("id", .str b.id), ("workspaceId", .str b.workspaceId), ("name", .str b.name),
    ("trigger", .str b.trigger), ("bot", b.bot), ("publish", .bool b.publish),
    ("default", .bool b.isDefault)]

end Chatbot

namespace Trigger

/-- Trimmed lower case. -/
def normalize (text : String) : String := lower (trim text)

/-- Whether a message starts a flow with this trigger: equal, or containing it, ignoring
case, outer blank space and a leading slash. -/
def fires (message trigger : String) : Bool :=
  let msg := normalize message
  let trig := normalize trigger
  if msg.isEmpty || trig.isEmpty then false
  else
    let bareTrig := dropStartOf trig ['/']
    let bareMsg := dropStartOf msg ['/']
    if msg == trig || bareMsg == bareTrig then true
    else if bareTrig.isEmpty then false
    else containsText msg trig || containsText msg bareTrig

/-- Whether a message is exactly the trigger, ignoring case, outer blank space and a leading
slash. -/
def isExact (message trigger : String) : Bool :=
  let msg := dropStartOf (normalize message) ['/']
  let trig := dropStartOf (normalize trigger) ['/']
  !trig.isEmpty && msg == trig

/-- The chatbot a message starts, among the published ones with a trigger: the first exact
match, else the first that matches. -/
def find? (message : String) (bots : List Chatbot) : Option Chatbot :=
  let candidates := bots.filter fun b => b.publish && !(trim b.trigger).isEmpty
  match candidates.find? (fun b => isExact message b.trigger) with
  | some b => some b
  | none => candidates.find? (fun b => fires message b.trigger)

end Trigger

end Autoresponder
