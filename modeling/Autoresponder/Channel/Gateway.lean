import Autoresponder.World
import Autoresponder.Channel.Outbound
import Autoresponder.Net.Address

/-!
# Sending through the provider

A workspace sends with its phone number id and access token; without either nothing is sent.
Each message is one request to `<api base>/<phone number id>/messages`, authorized by the
token. The provider's answer is read as JSON, or kept as raw text under `raw`. An answer with
status 400 or more is a refusal carrying the provider's error message, or `HTTP <status>`
without one; a failed connection is a failure too. Rate limits (429), server errors (500 and
more) and failed connections may be tried again, up to the configured number of attempts. A
successful answer names the sent message's id in its first `messages` entry.
-/

namespace Autoresponder.Channel

open Autoresponder.Text

/-- A workspace can send only with a phone number id and an access token. -/
def ensureCredentials (w : Workspace) : Except Fault Unit :=
  if w.phoneId.isEmpty then
    .error (.notConfigured ("Workspace " ++ w.id ++ " has no WhatsApp phone number id"))
  else if w.accessToken.isEmpty then
    .error (.notConfigured ("Workspace " ++ w.id ++ " has no WhatsApp access token"))
  else .ok ()

/-- The provider's answer to the next request for a message type: the answer fixed for the
type, else the next scripted one; none means the plain success. -/
def nextAnswer (kind : String) : Op (Option Answer) := do
  let w ← get
  match w.providerByType.lookup kind with
  | some a => return a
  | none =>
    match w.provider with
    | [] => return none
    | a :: rest =>
      set { w with provider := rest }
      return a

/-- The first item of a value, as indexing by zero reads it. The keys of an object are texts,
so the number zero is never one of them. -/
def firstItem (v : Value) : Except Fault Value :=
  match v with
  | .list (x :: _) => .ok x
  | .list [] => .error (.outOfRange "list index out of range")
  | .str s => match s.toList with
    | c :: _ => .ok (.str (String.singleton c))
    | [] => .error (.outOfRange "string index out of range")
  | .dict _ => .error (.missingKey "0")
  | other => .error (.badKind ("'" ++ other.kindName ++ "' object is not subscriptable"))

/-- Reads a provider answer: the sent message's id, or the refusal. -/
def readAnswer (status : Int) (body : Body) : Except Fault (Except Refusal Value) := do
  let data := body.data
  if status ≥ 400 then
    let error ← match data with
      | .dict _ => data.field "error" (.dict [])
      | _ => pure (.dict [])
    let message ← error.field "message"
    let shown := if message.truthy then message.display else "HTTP " ++ toString status
    return .error ⟨"WhatsApp API error: " ++ shown, status == 429 || status ≥ 500, some status⟩
  let given : Value ← data.field "messages"
  let messages := given.orElse (.list [.dict []])
  let first ← firstItem messages
  return .ok (← first.field "id" (.str ""))

/-- Makes one request, logging it, and reads the answer. -/
def post (url auth : String) (payload : Value) (kind : String) : Op (Except Refusal Value) := do
  let answer ← nextAnswer kind
  let w ← get
  let n := w.providerCalls + 1
  set { w with providerCalls := n,
               sent := w.sent ++ [Value.dict [("url", .str url), ("auth", .str auth), ("json", payload)]] }
  match answer with
  | some (.unreachable msg) => return .error ⟨"WhatsApp request failed: " ++ msg, true, none⟩
  | some (.respond status body) => Op.lift (readAnswer status body)
  | none => return .ok (.str ("wamid." ++ toString n))

/-- Tries a request up to `attempts` times while its failures may be retried. -/
def postTrying (url auth : String) (payload : Value) (kind : String) :
    Nat → Op Value
  | 0 => Op.fail (.provider ⟨"no attempt made", false, none⟩)
  | k + 1 => do
    match ← post url auth payload kind with
    | .ok id => return id
    | .error r =>
      if r.retryable && k > 0 then postTrying url auth payload kind k
      else Op.fail (.provider r)

/-- Sends a message to a phone number for a workspace; the provider's id for it. -/
def deliver (w : Workspace) (recipient : String) (m : Outbound) : Op Value := do
  Op.lift (ensureCredentials w)
  let cfg := (← Op.setup).whatsapp
  let base ← match cfg.get "api_base" with
    | .str s => pure s
    | other => Op.fail (.noAttribute ("'" ++ other.kindName ++ "' object has no attribute 'rstrip'"))
  let attempts ← Op.lift (cfg.get "send_attempts").toWhole
  let url ← match Net.normalize (dropEndOf base ['/'] ++ "/" ++ w.phoneId ++ "/messages") with
    | .ok u => pure u
    | .error m => Op.fail (.badAddress m)
  let auth := "Bearer " ++ w.accessToken
  if let some msg := Text.asciiRefusal auth then Op.fail (.encoding msg)
  let payload := m.payload recipient
  if let some msg := Text.utf8Refusal (Json.writeIn .compact payload) then Op.fail (.encoding msg)
  postTrying url auth payload m.typeName (max 1 attempts).toNat

/-- Sends a text. -/
def sendText (w : Workspace) (recipient body : String) : Op Value := deliver w recipient (.text body)

/-- Sends a template, in the configured language unless one is given. -/
def sendTemplate (w : Workspace) (recipient name : String) (language : String := "") : Op Value := do
  let cfg := (← Op.setup).whatsapp
  let lang := if language.isEmpty then cfg.text "template_language" else language
  deliver w recipient (.template name lang)

/-- Sends options as buttons or a list. -/
def sendChoices (w : Workspace) (recipient body : String) (options : List Choice) : Op Value :=
  deliver w recipient (.interactive body options)

/-- Sends media, with a relative link made absolute against the configured media base. -/
def sendMedia (w : Workspace) (recipient fileType link caption : String) : Op Value := do
  let base := (← Op.setup).whatsapp.text "media_base_url"
  let m ← Op.lift (Outbound.ofMedia fileType (absoluteLink base link) caption)
  deliver w recipient m

/-- Sends a location. -/
def sendLocation (w : Workspace) (recipient : String) (place : Flow.Location) : Op Value :=
  deliver w recipient (.location place)

/-- Sends a call-to-action button. -/
def sendCta (w : Workspace) (recipient body : String) (button : Flow.CallToAction) : Op Value :=
  deliver w recipient (.cta body button)

/-- Runs a send, turning a provider refusal or failure into its message; other faults pass. -/
def attempt {α : Type} (x : Op α) : Op (Except String α) :=
  tryCatch (Except.ok <$> x) fun f => match f with
    | .provider r => pure (.error r.msg)
    | other => throw other

end Autoresponder.Channel
