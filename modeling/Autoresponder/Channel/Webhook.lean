import Autoresponder.Data.Access
import Autoresponder.Inbound
import Autoresponder.Crypto.Sha256

/-!
# Webhook deliveries

The provider calls the workspace's webhook in three ways. A subscription request must echo
its challenge when it carries the verify token. Each delivery is signed with an HMAC-SHA256 of
its body under the app secret, sent as `sha256=<hex>`. A delivery holds entries, each with
changes; a change's value carries the workspace's phone number id, the senders' profile names,
the messages received and the status updates of messages sent.

Deliveries are read leniently: absent or empty parts count as empty, a message without a sender
is skipped, a status without an id or a status word is skipped, and the send time is kept only
when it is written in digits.
-/

namespace Autoresponder.Channel

open Autoresponder.Text Autoresponder.Time Autoresponder.Crypto

/-- The challenge to echo for a subscription request, if the request is genuine: its mode is
"subscribe", a verify token is configured, and the request carries that token. -/
def subscriptionChallenge (verifyToken : String) (params : Value) : Except Fault (Option Value) := do
  let mode ← params.field "hub.mode" (.str "")
  let token ← params.field "hub.verify_token" (.str "")
  let challenge ← params.field "hub.challenge" (.str "")
  if mode.asStr? == some "subscribe" && !verifyToken.isEmpty && token.asStr? == some verifyToken then
    return some challenge
  return none

/-- Whether a signature header vouches for a body. Without an app secret every body passes;
otherwise the header must read `sha256=` followed by the hex HMAC of the body. A header that
holds characters beyond ASCII cannot be compared. -/
def signatureValid (secret : String) (body : ByteArray) (header : String) : Except Fault Bool :=
  if secret.isEmpty then .ok true
  else if header.isEmpty || !header.startsWith "sha256=" then .ok false
  else
    let given := String.ofList (header.toList.drop 7)
    if given.any (fun (c : Char) => c.toNat ≥ 128) then
      .error (.badKind "comparing strings with non-ASCII characters is not supported")
    else .ok (hexText (hmacSha256 secret.toUTF8 body) == given)

/-- The number written by a text of decimal digits, refusing texts that are not all decimal
digits and texts too long to convert. -/
def readWhole (s : String) : Except Fault Nat :=
  if !s.all isDecimal || s.isEmpty then
    .error (.badValue ("invalid literal for int() with base 10: " ++
      String.ofList ((quoteText s).toList.take 200)))
  else if s.length > 4300 then
    .error (.badValue ("Exceeds the limit (4300 digits) for integer string conversion: value has " ++
      toString s.length ++ " digits; use sys.set_int_max_str_digits() to increase the limit"))
  else .ok (s.toList.foldl (fun n c => n * 10 + (decimalValue? c).getD 0) 0)

/-- The send time of a message: kept when its text is all digits, read as seconds since
1970-01-01 UTC. -/
def sendTime (ts : Value) : Except Fault (Option Stamp) := do
  if !allDigitLike ts.display then return none
  let seconds ← match ts with
    | .int n => pure n.toNat
    | .str s => readWhole s
    | _ => pure 0
  match Stamp.ofEpochSeconds seconds with
  | .ok st => return some st
  | .error e => throw (Fault.ofTime e)

/-- The profile names of senders, by their number, from a change's contacts. -/
def contactNames (contacts : Value) : Except Fault (List (String × Value)) := do
  let cs ← contacts.itemsOf
  cs.foldlM (fun names c => do
    let profile ← c.field "profile"
    let name ← (profile.orElse (.dict [])).field "name" (.str "")
    let key ← c.field "wa_id" (.str "")
    if !key.hashable then throw key.unhashable
    match key with
    | .str k => return Value.setIn names k name
    | _ => return names) []

/-- The kinds of message whose content is a media object. -/
def mediaKinds : List String := ["image", "video", "audio", "document", "sticker"]

/-- A picked button or row, checked as a reply record. -/
def pickOf (kind : String) (id title : Value) : Except Fault Pick :=
  match Pick.check [("type", .str kind), ("id", .str id.display), ("title", title)] with
  | .ok p => .ok p
  | .error es => .error (.invalid es)

/-- The text, picked option and media id a message carries, by its kind. -/
def messageContent (msg kind : Value) : Except Fault (Value × Option Pick × Value) := do
  let empty : Value := .dict []
  match kind with
  | .str "text" =>
    let t ← ((← msg.field "text").orElse empty).field "body" (.str "")
    return (t, none, .str "")
  | .str "interactive" =>
    let raw := (← msg.field "interactive").orElse empty
    let itype ← raw.field "type" (.str "")
    match itype with
    | .str k =>
      if k == "button_reply" || k == "list_reply" then
        let reply := (← raw.field k).orElse empty
        let p ← pickOf k (← reply.field "id" (.str "")) (← reply.field "title" (.str ""))
        return (.str p.title, some p, .str "")
      else return (.str "", none, .str "")
    | _ => return (.str "", none, .str "")
  | .str "button" =>
    let raw := (← msg.field "button").orElse empty
    let p ← pickOf "button_reply" (← raw.field "payload" (.str "")) (← raw.field "text" (.str ""))
    return (.str p.title, some p, .str "")
  | .str "location" =>
    let place := (← msg.field "location").orElse empty
    let lat ← place.field "latitude" (.int 0)
    let lon ← place.field "longitude" (.int 0)
    return (.str ("Location: " ++ lat.display ++ ", " ++ lon.display), none, .str "")
  | .str k =>
    if mediaKinds.contains k then
      let media := (← msg.field k).orElse empty
      return (← media.field "caption" (.str ""), none, ← media.field "id" (.str ""))
    else return (.str "", none, .str "")
  | _ => return (.str "", none, .str "")

/-- One received message, or none when it names no sender. -/
def readMessage (msg : Value) (phoneNumberId : String) (names : List (String × Value)) :
    Except Fault (Option Inbound) := do
  let sender ← msg.field "from" (.str "")
  if !sender.truthy then return none
  let kind ← msg.field "type" (.str "text")
  let timestamp ← sendTime (← msg.field "timestamp" (.str ""))
  let (text, pick, link) ← messageContent msg kind
  let phone ← match sender with
    | .str s => pure ("+" ++ dropStartOf s ['+'])
    | other => throw (.noAttribute ("'" ++ other.kindName ++ "' object has no attribute 'lstrip'"))
  let messageId ← msg.field "id" (.str "")
  let contact := match sender with
    | .str s => (names.lookup s).getD (.str "")
    | _ => .str ""
  let mid := (Check.text messageId).under "message_id"
  let ty := (Check.text kind).under "type"
  let tx := (Check.text text).under "text"
  let cn := (Check.text contact).under "contact_name"
  let ln := (Check.text link).under "link"
  let es := mid.issues ++ ty.issues ++ tx.issues ++ cn.issues ++ ln.issues
  if !es.isEmpty then throw (.invalid es)
  return some {
    phone := phone, messageId := mid.getD "", kind := ty.getD "", text := tx.getD ""
    pick := pick, contactName := cn.getD "", phoneNumberId := phoneNumberId
    timestamp := timestamp, link := ln.getD "" }

/-- A status update, when it names a message and a status. -/
def readStatus (st : Value) : Except Fault (Option StatusUpdate) := do
  let id ← st.field "id"
  if !id.truthy then return none
  let status ← st.field "status"
  if !status.truthy then return none
  let recipient ← st.field "recipient_id" (.str "")
  match StatusUpdate.check [("message_id", id), ("status", status), ("recipient", recipient)] with
  | .ok s => return some s
  | .error es => throw (.invalid es)

/-- What one delivery reports. -/
structure Delivery where
  messages : List Inbound := []
  statuses : List StatusUpdate := []
  deriving Inhabited

/-- Adds what one change reports. -/
def Delivery.addChange (d : Delivery) (change : Value) : Except Fault Delivery := do
  let empty : Value := .dict []
  let value := (← change.field "value").orElse empty
  let metadata := (← value.field "metadata").orElse empty
  let phoneNumberId := (← metadata.field "phone_number_id" (.str "")).display
  let names ← contactNames (← value.field "contacts")
  let msgs ← (← value.field "messages").itemsOf
  let received ← msgs.filterMapM fun m => readMessage m phoneNumberId names
  let sts ← (← value.field "statuses").itemsOf
  let updates ← sts.filterMapM readStatus
  return { messages := d.messages ++ received, statuses := d.statuses ++ updates }

/-- Reads a delivery body. -/
def Delivery.read (payload : Value) : Except Fault Delivery := do
  let entries ← (← payload.field "entry").itemsOf
  entries.foldlM (fun d entry => do
    let changes ← (← entry.field "changes").itemsOf
    changes.foldlM Delivery.addChange d) {}

/-- The delivery as a record. -/
def Delivery.toValue (d : Delivery) : Value :=
  .dict [("messages", .list (d.messages.map Inbound.toValue)),
    ("statuses", .list (d.statuses.map StatusUpdate.toValue))]

end Autoresponder.Channel
