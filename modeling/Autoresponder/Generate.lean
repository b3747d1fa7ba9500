import Autoresponder.World

/-!
# Text generation

AI rules send text a language model writes from the rule's prompt. A blank prompt is refused
before any call. The model's reply loses its surrounding blank space, and an empty reply is a
failure. Every failure of the call becomes a generation failure with the text of its cause.

Two model services are spoken to. The Anthropic messages endpoint takes the key in its own
header and the system prompt beside the messages; it refuses to send without a key, and its
reply is the text of its text blocks. The OpenAI chat completions endpoint takes a bearer key
and the system prompt as the first message; its client cannot be made without a key, and its
reply is the first choice's message. A provider other than exactly `openai` means Anthropic.
An error answer is reported as `Error code: <status> - <body>`, a failed connection as
`Connection error.`.
-/

namespace Autoresponder

open Autoresponder.Text

/-- The text of a reply value; null and other false values are empty. -/
def replyText (v : Value) : Except Fault String :=
  match v with
  | .str s => .ok s
  | v => if v.truthy then .error (.noAttribute ("'" ++ v.kindName ++ "' object has no attribute 'strip'"))
    else .ok ""

/-- Whether a generation configuration speaks to OpenAI. -/
def Config.Section.isOpenAi (c : Config.Section) : Bool := (c.get "provider").asStr? == some "openai"

/-- The joined text of the text blocks of a reply. -/
def blockText (blocks : List Value) : Except String String :=
  let texts := blocks.filter fun b => (b.getD "type").asStr? == some "text"
  let rec join (i : Nat) : List Value → Except String String
    | [] => .ok ""
    | b :: rest =>
      match b.getD "text" with
      | .str s => (join (i + 1) rest).map (s ++ ·)
      | other => .error ("sequence item " ++ toString i ++ ": expected str instance, " ++
          other.kindName ++ " found")
  join 0 texts

/-- The message of an error answer. -/
def errorCode (status : Int) (body : Body) : String :=
  match body with
  | .json v => "Error code: " ++ toString status ++ " - " ++ v.display
  | .text t =>
    match Json.parse (trim t) with
    | .ok v => "Error code: " ++ toString status ++ " - " ++ v.display
    | .error _ => if (trim t).isEmpty then "Error code: " ++ toString status else trim t

/-- The reply text a successful raw answer carries. -/
def rawReply (openAi : Bool) (data : Value) : Except String String :=
  if openAi then
    match data.getD "choices" with
    | .list (c :: _) => .ok ((c.getD "message").getD "content" |>.asStr?.getD "")
    | _ => .ok ""
  else
    match data.getD "content" with
    | .list bs => blockText bs
    | _ => .ok ""

/-- The next answer of the model endpoint; a plain reply when none is left. -/
def nextModelAnswer (answers : List ModelAnswer) : ModelAnswer × List ModelAnswer :=
  match answers with
  | [] => (.reply (.str "Generated reply"), [])
  | a :: rest => (a, rest)

/-- One call to a language model endpoint: the reply text, or the failure's text. -/
def callModel (cfg : Config.Section) (prompt : String) : Op (Except String Value) := do
  let openAi := cfg.isOpenAi
  let key := cfg.get "api_key"
  if openAi && key.isNull then return .error "Cannot initialise openai client"
  if !openAi && !key.truthy then
    return .error ("\"Could not resolve authentication method. Expected either api_key or " ++
      "auth_token to be set. Or for one of the " ++ "`X-Api-Key` or `Authorization` headers " ++
      "to be explicitly omitted\"")
  let user := Value.dict [("role", .str "user"), ("content", .str prompt)]
  let record : Value := if openAi then
      .dict [("url", .str "https://api.openai.com/v1/chat/completions"),
        ("auth", .str ("Bearer " ++ key.display)),
        ("json", .dict [("model", cfg.get "model"), ("max_tokens", cfg.get "max_tokens"),
          ("temperature", cfg.get "temperature"),
          ("messages", .list [.dict [("role", .str "system"), ("content", cfg.get "system_prompt")],
            user])])]
    else
      .dict [("url", .str "https://api.anthropic.com/v1/messages"), ("auth", key),
        ("json", .dict [("model", cfg.get "model"), ("max_tokens", cfg.get "max_tokens"),
          ("temperature", cfg.get "temperature"), ("system", cfg.get "system_prompt"),
          ("messages", .list [user])])]
  let w ← get
  let answers := match w.writer with
    | .model _ a => a
    | _ => []
  let (answer, rest) := nextModelAnswer answers
  set { w with writer := .model cfg rest, modelLog := w.modelLog ++ [record] }
  match answer with
  | .reply v =>
    if openAi then return .ok v
    else return (blockText [.dict [("type", .str "text"), ("text", v)]]).map Value.str
  | .blocks bs => return (if openAi then .ok (.str "") else (blockText bs).map Value.str)
  | .raw (.unreachable _) => return .error "Connection error."
  | .raw (.respond status body) =>
    if 200 ≤ status && status < 300 then return (rawReply openAi body.data).map Value.str
    else return .error (errorCode status body)

/-- One call to the scripted generator. -/
def callScript (prompt : String) : Op (Except String Value) := do
  let w ← get
  let entries := match w.writer with
    | .scripted es => es
    | _ => []
  let (entry, rest) : Scripted × List Scripted := match entries with
    | [] => (.reply (.str "Generated reply"), [])
    | e :: es => (e, es)
  set { w with writer := .scripted rest, aiCalls := w.aiCalls ++ [prompt] }
  match entry with
  | .reply v => return .ok v
  | .fails msg => return .error msg

/-- Generated text for a prompt, or why there is none. -/
def generate (prompt : String) : Op (Except String String) := do
  if (trim prompt).isEmpty then return .error "Empty prompt"
  let reply ← match (← get).writer with
    | .scripted _ => callScript prompt
    | .model cfg _ => callModel cfg prompt
  match reply with
  | .error msg => return .error msg
  | .ok v =>
    let text := trim (← Op.lift (replyText v))
    if text.isEmpty then return .error "Provider returned an empty response"
    return .ok text

end Autoresponder
