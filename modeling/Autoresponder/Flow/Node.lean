import Autoresponder.Flow.Condition
import Autoresponder.Fault

/-!
# Chatbot nodes

A node of a chatbot graph has a kind, a message, optional media, children (options,
buttons or condition branches), a pointer to the next node and the extras some kinds need:
a call-to-action button, a map location, an API call or a template name.

Checking a node record normalises three fields first: a missing node id becomes empty and
any other id is written as text; a blank `next` counts as none; the file type is lower
case, with `none` for an empty one.
-/

namespace Autoresponder.Flow

open Autoresponder.Text

/-- The kinds of node. -/
inductive NodeKind where
  | start | botMessage | messageReply | text | image | video | audio | file
  | optionMessage | option | buttonMessage | button | interactive | maps | ctaButton
  | api | condition | template | agent
  deriving DecidableEq, Inhabited, Repr

namespace NodeKind

/-- All kinds, in the order they are listed to people. -/
def all : List NodeKind :=
  [.start, .botMessage, .messageReply, .text, .image, .video, .audio, .file, .optionMessage,
    .option, .buttonMessage, .button, .interactive, .maps, .ctaButton, .api, .condition,
    .template, .agent]

/-- The name of a kind in graph documents. -/
def name : NodeKind → String
  | .start => "START_NODE" | .botMessage => "CHAT_BOT_MSG_NODE"
  | .messageReply => "MESSAGE_REPLY_NODE" | .text => "TEXT_NODE" | .image => "IMAGE_NODE"
  | .video => "VIDEO_NODE" | .audio => "AUDIO_NODE" | .file => "FILE_NODE"
  | .optionMessage => "OPTION_MESSAGE_NODE" | .option => "OPTION_NODE"
  | .buttonMessage => "BUTTON_MESSAGE_NODE" | .button => "BUTTON_NODE"
  | .interactive => "INTERACTIVE_NODE" | .maps => "MAPS_NODE" | .ctaButton => "CTA_BUTTON_NODE"
  | .api => "API_NODE" | .condition => "CONDITION_NODE" | .template => "TEMPLATE_NODE"
  | .agent => "CHAT_WITH_AGENT"

/-- The kind with a name, if any. -/
def ofName? (s : String) : Option NodeKind := all.find? (·.name == s)

/-- Connectors only link nodes and are never sent: start, option and button. -/
def isConnector : NodeKind → Bool
  | .start | .option | .button => true
  | _ => false

/-- Kinds that wait for the customer's answer once sent. -/
def waits : NodeKind → Bool
  | .optionMessage | .buttonMessage | .interactive | .messageReply => true
  | _ => false

end NodeKind

/-- A map location. -/
structure Location where
  latitude : Float
  longitude : Float
  address : String := ""
  name : String := ""
  deriving Inhabited

namespace Location

/-- Checks a location record. -/
def check (fs : Fields) : Checked Location :=
  let lat := fs.need "latitude" "latitude" Check.real
  let lon := fs.need "longitude" "longitude" Check.real
  let address := fs.withDefault "address" "address" "" Check.text
  let name := fs.withDefault "name" "name" "" Check.text
  let es := lat.issues ++ lon.issues ++ address.issues ++ name.issues
  if es.isEmpty then .ok ⟨lat.getD 0.0, lon.getD 0.0, address.getD "", name.getD ""⟩
  else .error es

end Location

/-- A call-to-action button that opens a link. -/
structure CallToAction where
  buttonText : String
  url : String
  style : String := ""
  deriving Inhabited

namespace CallToAction

/-- Checks a call-to-action record. -/
def check (fs : Fields) : Checked CallToAction :=
  let text := fs.need "buttonText" "button_text" Check.text
  let url := fs.need "url" "url" Check.text
  let style := fs.withDefault "style" "style" "" Check.text
  let es := text.issues ++ url.issues ++ style.issues
  if es.isEmpty then .ok ⟨text.getD "", url.getD "", style.getD ""⟩ else .error es

end CallToAction

/-- An HTTP call made by an API node. -/
structure ApiCall where
  endpoint : String
  method : String := "GET"
  headers : List (String × String) := []
  body : Value := .null
  description : String := ""
  deriving Inhabited

namespace ApiCall

/-- Checks an API call record. -/
def check (fs : Fields) : Checked ApiCall :=
  let endpoint := fs.need "endpoint" "endpoint" Check.text
  let method := fs.withDefault "method" "method" "GET" Check.text
  let headers := fs.withDefault "headers" "headers" [] Check.textMap
  let body := fs.withDefault "body" "body" Value.null .ok
  let description := fs.withDefault "description" "description" "" Check.text
  let es := endpoint.issues ++ method.issues ++ headers.issues ++ body.issues ++ description.issues
  if es.isEmpty then
    .ok ⟨endpoint.getD "", method.getD "", headers.getD [], body.getD .null, description.getD ""⟩
  else .error es

end ApiCall

/-- A node of a chatbot graph. -/
structure Node where
  nodeId : String := ""
  kind : NodeKind
  message : String := ""
  link : String := ""
  fileType : String := "none"
  children : List Node := []
  next : Option String := none
  needResponse : Bool := false
  cta : Option CallToAction := none
  location : Option Location := none
  api : Option ApiCall := none
  condition : List Condition := []
  templateName : String := ""
  deriving Inhabited

namespace Node

/-- Whether the node waits for the customer's answer once sent. -/
def waitsForReply (n : Node) : Bool := n.needResponse || n.kind.waits

/-- The node id as written: empty for null, text for anything else. -/
def idText : Value → String
  | .null => ""
  | v => v.display

/-- The next pointer as written: none for null and blank texts, text for anything else. -/
def nextText : Value → Option String
  | .null => none
  | .str s => if (trim s).isEmpty then none else some s
  | v => some v.display

/-- The file type as written: `none` for an empty value, lower case for a text; any other
value has no lower case. -/
def fileTypeText (v : Value) : Except Fault String :=
  if !v.truthy then .ok "none"
  else match v with
    | .str s => .ok (lower s)
    | v => .error (.noAttribute ("'" ++ v.kindName ++ "' object has no attribute 'lower'"))

/-- The file type of a node record, checked. -/
def fileTypeField (fs : Fields) : Except Fault (Checked String) :=
  match fs.pick "fileType" "file_type" with
  | some (k, v) => (fileTypeText v).map fun s => Checked.under k (.ok s)
  | none => pure (.ok "none")

/-- The children of a node record, each object checked by `check`. -/
def childrenField (check : Fields → Except Fault (Checked Node)) (fs : Fields) :
    Except Fault (Checked (List Node)) :=
  match fs.pick "children" "children" with
  | some (k, .list xs) => do
    let results ← xs.mapM fun x => match x with
      | .dict kfs => check kfs
      | _ => pure (Checked.fail "model_type" "Input should be a valid dictionary or instance of ChatbotNode")
    let indexed := results.zipIdx.map fun (r, i) => r.atIndex i
    let es := indexed.flatMap Checked.issues
    pure (Checked.under k (if es.isEmpty then .ok (indexed.map (·.getD default)) else .error es))
  | some (k, _) => pure ((Checked.fail "list_type" "Input should be a valid list").under k)
  | none => pure (.ok [])

/-- The node a record's fields make, given its checked file type and children, or every issue
of its fields in field order. -/
def ofFields (fs : Fields) (fileType : Checked String) (children : Checked (List Node)) :
    Checked Node :=
  let nodeId := fs.withDefault "nodeId" "node_id" "" fun v => .ok (idText v)
  let kind := fs.need "type" "type" (Check.choice (NodeKind.all.map NodeKind.name))
  let message := fs.withDefault "message" "message" "" Check.text
  let link := fs.withDefault "link" "link" "" Check.text
  let next := fs.withDefault "next" "next" none fun v => .ok (nextText v)
  let needResponse := fs.withDefault "needResponse" "need_response" false Check.flag
  let cta := fs.withDefault "cta" "cta" none
    (Check.optional (Check.record "CtaButton" CallToAction.check))
  let location := fs.withDefault "location" "location" none
    (Check.optional (Check.record "LocationCard" Location.check))
  let api := fs.withDefault "api" "api" none
    (Check.optional (Check.record "ApiCall" ApiCall.check))
  let condition := fs.withDefault "condition" "condition" []
    (Check.list (Check.record "RuleCondition" Condition.check))
  let templateName := fs.withDefault "templateName" "template_name" "" Check.text
  let es := nodeId.issues ++ kind.issues ++ message.issues ++ link.issues ++ fileType.issues ++
    children.issues ++ next.issues ++ needResponse.issues ++ cta.issues ++ location.issues ++
    api.issues ++ condition.issues ++ templateName.issues
  if !es.isEmpty then .error es
  else .ok {
    nodeId := nodeId.getD "", kind := (NodeKind.ofName? (kind.getD "")).getD .start
    message := message.getD "", link := link.getD "", fileType := fileType.getD "none"
    children := children.getD [], next := next.getD none
    needResponse := needResponse.getD false, cta := cta.getD none
    location := location.getD none, api := api.getD none
    condition := condition.getD [], templateName := templateName.getD "" }

/-- Checks a node record; `fuel` bounds the depth of nested children. The file type is read
first, then the children, each in turn; the other fields only gather issues. -/
def check (fuel : Nat) (fs : Fields) : Except Fault (Checked Node) :=
  match fuel with
  | 0 => .ok (.error [⟨[], "recursion_loop", "Recursion error - cyclic reference detected"⟩])
  | fuel + 1 => do
    let fileType ← fileTypeField fs
    let children ← childrenField (check fuel) fs
    return ofFields fs fileType children

end Node

end Autoresponder.Flow
