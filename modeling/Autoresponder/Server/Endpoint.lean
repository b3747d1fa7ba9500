import Autoresponder.Server.Exchange
import Autoresponder.Routing
import Autoresponder.Channel.Webhook
import Autoresponder.Channel.Dedup

/-!
# The web interface

The service answers five endpoints: a health check, the provider's subscription check and
delivery webhook, and reading and replacing a workspace's automation settings. A path that
names an endpoint but not for the request's method is refused with 405, and any other path
with 404, except that a path that differs from an endpoint's only by a trailing slash is sent
there. A fault inside an endpoint answers 500.

A delivery is checked against its signature, read as a JSON object, and then handled: status
updates first, then each message, skipping a message whose id was seen recently, one for a
phone number id no workspace has, and one whose handling fails. The filter of recent ids lives
with the server between requests; its clock is the server's own tick.
-/

namespace Autoresponder.Server

open Autoresponder.Channel Autoresponder.Time

/-- An endpoint of the service. -/
inductive Endpoint where
  | health
  | subscription
  | delivery
  | readSettings (workspaceId : String)
  | writeSettings (workspaceId : String)
  deriving Inhabited

/-- The endpoints at a path, each with the method it answers. -/
def endpointsAt (path : String) : List (String × Endpoint) :=
  match path.splitOn "/" with
  | ["", "health"] => [("GET", .health)]
  | ["", "webhooks", "whatsapp"] => [("GET", .subscription), ("POST", .delivery)]
  | ["", "workspaces", ws, "automation-settings"] =>
    if ws.isEmpty then [] else [("GET", .readSettings ws), ("PUT", .writeSettings ws)]
  | _ => []

/-- Whether an endpoint for `declared` answers a request's method; one for GET also
answers HEAD. -/
def answers (declared method : String) : Bool :=
  declared == method || (declared == "GET" && method == "HEAD")

/-- Where a request goes. -/
inductive Target where
  | found (e : Endpoint)
  | wrongMethod
  | moved (path : String)
  | missing
  deriving Inhabited

/-- Where a request with a method and a decoded path goes. -/
def target (method path : String) : Target :=
  let here := endpointsAt path
  match here.find? (fun (m, _) => answers m method) with
  | some (_, e) => .found e
  | none =>
    if !here.isEmpty then .wrongMethod
    else if path == "/" then .missing
    else
      let other := if path.endsWith "/" then Text.dropEndOf path ['/'] else path ++ "/"
      if (endpointsAt other).isEmpty then .missing else .moved other

/-- The server between requests: the world it acts on, the recently seen message ids and the
reading of its own clock, in seconds. -/
structure State where
  world : World
  recent : Dedup := {}
  tick : Float := 0

/-- A JSON response with status 200. -/
def ok (v : Value) : Response := ⟨200, .json v⟩

/-- The health check: the clock, and the kind of store in use. -/
def health : Op Response := do
  return ok (.dict [("status", .str "healthy"), ("timestamp", .str (← Op.now).isoText),
    ("store", .str (← Op.store).backend.className)])

/-- The subscription check: the challenge as text when the request carries the verify token;
a parameter given twice counts with its last value. -/
def subscription (r : Request) : Op Response := do
  let token := (((← Op.setup).whatsapp.get "verify_token").asStr?).getD ""
  let params := Value.dict (r.query.foldl (fun kvs (k, v) => Value.setIn kvs k (.str v)) [])
  match ← Op.lift (subscriptionChallenge token params) with
  | some c => return ⟨200, .text c.display⟩
  | none => return .detail 403 (.str "Verification failed")

/-- Handles the messages of a delivery in order, with the recent ids so far: the results of
those handled and the recent ids after them. -/
def handleMessages (tick : Float) (recent : Dedup) (ms : List Inbound) :
    Op (List Value × Dedup) := do
  let mut recent := recent
  let mut results : List Value := []
  for m in ms do
    if !m.messageId.isEmpty then
      let (seen, next) := recent.check m.messageId (.ofFloat tick)
      recent := next
      if seen then continue
    let some ws := (← Op.store).workspaceByPhone? m.phoneNumberId | continue
    try
      let r ← routeInbound m ws (← Op.now)
      results := results ++ [r.toValue]
    catch _ => pure ()
  return (results, recent)

/-- The delivery webhook. -/
def delivery (s : State) (r : Request) : Op (Response × Dedup) := do
  let secret := (((← Op.setup).whatsapp.get "app_secret").asStr?).getD ""
  let signature := (r.header? "X-Hub-Signature-256").getD ""
  if !(← Op.lift (signatureValid secret r.body.toUTF8 signature)) then
    return (.detail 403 (.str "Invalid signature"), s.recent)
  let .ok payload := readJson r.body | return (.detail 400 (.str "Invalid JSON"), s.recent)
  let .dict _ := payload | return (.detail 400 (.str "Invalid payload"), s.recent)
  let d ← Op.lift (Delivery.read payload)
  for u in d.statuses do
    let _ ← applyStatus u
  let (results, recent) ← handleMessages s.tick s.recent d.messages
  return (ok (.dict [("status", .str "ok"), ("processed", .int results.length),
    ("statuses", .int d.statuses.length), ("results", .list results)]), recent)

/-- Reading a workspace's settings, made from defaults on first use; stored settings that no
longer pass their checks answer 422. -/
def readSettings (ws : String) : Op Response := do
  if ((← Op.store).workspace? ws).isNone then return .detail 404 (.str "Workspace not found")
  try
    return ok (← Rule.settingsOrDefaults ws).toDocument
  catch
    | .badValue m => return .detail 422 (.str m)
    | f => throw f

/-- The JSON object a settings request carries, or the response that refuses its body: an
empty body is missing, a body of another media type or of another kind is no object, and
malformed JSON is refused with the offset where reading failed. -/
def settingsBody (r : Request) : Except Response (List (String × Value)) :=
  let refuse (loc : List Value) (kind : String) : Response :=
    .detail 422 (.list [.dict [("loc", .list (.str "body" :: loc)), ("type", .str kind)]])
  if r.body.isEmpty then .error (refuse [] "missing")
  else if !r.jsonBody then .error (refuse [] "dict_type")
  else match readJson r.body with
    | .error (.grammar e) => .error (refuse [.int e.pos] "json_invalid")
    | .error _ => .error (refuse [.int 0] "json_invalid")
    | .ok (.dict kvs) => .ok kvs
    | .ok _ => .error (refuse [] "dict_type")

/-- Replacing a workspace's settings; settings that fail their checks answer 422 with every
failure. -/
def writeSettings (ws : String) (r : Request) : Op Response := do
  let doc ← match settingsBody r with
    | .ok kvs => pure (Value.dict kvs)
    | .error refusal => return refusal
  if ((← Op.store).workspace? ws).isNone then return .detail 404 (.str "Workspace not found")
  try
    return ok (← Rule.saveSettings ws doc).toDocument
  catch
    | .invalid es => return .detail 422 (.list (es.map (·.toValue)))
    | f => throw f

/-- Answers a request at an endpoint. -/
def State.answer (s : State) (r : Request) : Endpoint → Op (Response × Dedup)
  | .health => return (← health, s.recent)
  | .subscription => return (← subscription r, s.recent)
  | .delivery => delivery s r
  | .readSettings ws => return (← readSettings ws, s.recent)
  | .writeSettings ws => return (← writeSettings ws r, s.recent)

/-- Serves a request at a decoded path; a request sent on to another path is served there
once more, as a client that follows the redirect would. -/
def State.serveAt (s : State) (r : Request) : Nat → String → Response × State
  | hops, path =>
    match target r.method path, hops with
    | .found e, _ =>
      match (s.answer r e).run.run s.world with
      | (.ok (resp, recent), world) => (resp, { s with world, recent })
      | (.error _, world) => (.internalError, { s with world })
    | .wrongMethod, _ => (.detail 405 (.str "Method Not Allowed"), s)
    | .moved other, hops + 1 => s.serveAt r hops other
    | _, _ => (.detail 404 (.str "Not Found"), s)

/-- Serves a request. -/
def State.serve (s : State) (r : Request) : Response × State :=
  s.serveAt r 1 (unescapePath r.path)

end Autoresponder.Server
