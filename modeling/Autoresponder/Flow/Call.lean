import Autoresponder.World
import Autoresponder.Flow.Template
import Autoresponder.Flow.Node
import Autoresponder.Net.Address

/-!
# API node calls

An API node calls an HTTP endpoint and hands the result to the flow as data; a failed call
never stops the flow. The method is upper-cased and must be one of GET, POST, PUT, PATCH and
DELETE. The endpoint, header values and body have their placeholders filled from the flow's
variables. A body text that reads as JSON is sent as that JSON; any other non-blank text is
sent as it is. A JSON body goes only with methods other than GET, and is labelled
`application/json` unless a content type is given. The address is sent as the client writes
it; an address it cannot read, or a header that is not ASCII, fails the call.

Failed connections are tried again, three attempts in all. The result always says whether the
call succeeded (a 2xx status) and the status; it carries the answer's data (its JSON, or its
text when that is not JSON) or, when no answer came, the error.
-/

namespace Autoresponder.Flow

open Autoresponder.Text

/-- The methods an API node may use. -/
def allowedMethods : List String := ["GET", "POST", "PUT", "PATCH", "DELETE"]

/-- Headers the HTTP client manages itself and which a request log leaves out. -/
def clientHeaders : List String :=
  ["host", "accept", "accept-encoding", "connection", "user-agent", "content-length"]

/-- ASCII lower case, as header names are compared. -/
def asciiLowerText (s : String) : String :=
  String.ofList (s.toList.map fun c => if 'A' ≤ c && c ≤ 'Z' then Char.ofNat (c.toNat + 32) else c)

/-- Header lines merged by lower-cased name, repeated names joined with a comma. -/
def mergeHeaders (hs : List (String × String)) : List (String × String) :=
  hs.foldl (fun acc (k, v) =>
    let k := asciiLowerText k
    match acc.lookup k with
    | some old => acc.map fun (k2, v2) => if k2 == k then (k2, old ++ ", " ++ v) else (k2, v2)
    | none => acc ++ [(k, v)]) []

/-- What a request carries: nothing, JSON, or raw text. -/
inductive Payload where
  | none
  | json (v : Value)
  | raw (s : String)
  deriving Inhabited

/-- The body a filled API body becomes for a method. -/
def payloadOf (method : String) (body : Value) : Payload :=
  let (body, raw) : Value × Option String := match body with
    | .str s =>
      if (trim s).isEmpty then (body, none)
      else match Json.parse s with
        | .ok v => (v, none)
        | .error _ => (.null, some s)
    | v => (v, none)
  match raw with
  | some s => .raw s
  | none =>
    let empty := match body with
      | .null => true
      | .str s => s.isEmpty
      | _ => false
    if !empty && method != "GET" then .json body else .none

/-- The log record of a request. -/
def requestRecord (method url : String) (headers : List (String × String)) (p : Payload) : Value :=
  let hs := mergeHeaders headers
  let hs := match p with
    | .json _ => if hs.any (·.1 == "content-type") then hs else hs ++ [("content-type", "application/json")]
    | _ => hs
  let shown := hs.filter fun (k, _) => !clientHeaders.contains k
  let isJson := hs.lookup "content-type" == some "application/json"
  let body : List (String × Value) := match p with
    | .none => []
    | .json v => if isJson then [("json", v)] else [("content", .str (Json.writeIn Json.Layout.compact v))]
    | .raw s => if isJson then (match Json.parse s with
        | .ok v => [("json", v)]
        | .error _ => [("content", .str s)]) else [("content", .str s)]
  .dict ([("method", .str method), ("url", .str url),
    ("headers", .dict (shown.map fun (k, v) => (k, .str v)))] ++ body)

/-- The next answer of the API endpoints; the plain success when none is left. -/
def nextApiAnswer : Op Answer := do
  let w ← get
  match w.api with
  | [] => return .respond 200 (.json (.dict [("ok", .bool true)]))
  | a :: rest =>
    set { w with api := rest }
    return a

/-- Makes a request up to `attempts` times while the connection fails. -/
def request (record : Value) : Nat → Op (Except String (Int × Value))
  | 0 => return .error "no attempt made"
  | k + 1 => do
    modify fun w => { w with apiLog := w.apiLog ++ [record] }
    match ← nextApiAnswer with
    | .unreachable msg => if k > 0 then request record k else return .error msg
    | .respond status body =>
      let data := match body with
        | .json v => v
        | .text t => match Json.parse t with
          | .ok v => v
          | .error _ => .str t
      return .ok (status, data)

/-- Runs an API call with the flow's variables; the result record. -/
def ApiCall.run (api : ApiCall) (vars : Value) : Op Value := do
  let vars := vars.orElse (.dict [])
  let method := upper (if api.method.isEmpty then "GET" else api.method)
  if !allowedMethods.contains method then
    return .dict [("ok", .bool false), ("status_code", .int 0),
      ("error", .str ("unsupported method " ++ method))]
  let url := fillText vars api.endpoint
  let headers := api.headers.map fun (k, v) => (k, fillText vars v)
  let p := payloadOf method (fill vars api.body)
  -- the client reads the address, then the headers, then writes the body
  let url ← match Net.normalize url with
    | .ok u => pure u
    | .error m => Op.fail (.badAddress m)
  for (k, v) in headers do
    if let some m := Text.asciiRefusal k then Op.fail (.encoding m)
    if let some m := Text.asciiRefusal v then Op.fail (.encoding m)
  if let .json v := p then
    if !Json.allFinite v then
      Op.fail (.badValue "Out of range float values are not JSON compliant")
  let bodyText := match p with
    | .json v => Json.writeIn .compact v
    | .raw s => s
    | .none => ""
  if let some m := Text.utf8Refusal bodyText then Op.fail (.encoding m)
  match ← request (requestRecord method url headers p) 3 with
  | .error msg => return .dict [("ok", .bool false), ("status_code", .int 0), ("error", .str msg)]
  | .ok (status, data) =>
    return .dict [("ok", .bool (200 ≤ status && status < 300)), ("status_code", .int status),
      ("data", data)]

end Autoresponder.Flow
