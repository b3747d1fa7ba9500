import Autoresponder.Store.Basic
import Autoresponder.Config
import Autoresponder.Data.Show
import Autoresponder.Data.Json

/-!
# The service and its surroundings

Handling a message reads and changes the store, reads the clock, makes fresh record ids, and
calls three remote services: the messaging provider, the HTTP endpoints that API nodes name,
and a text generator. The world holds all of these: the store, the clock, the number of ids
made, the answers each remote service will give in order, and a log of every request made,
in the order made.

Operations run in `Op`: they may fail with a fault, and a failure keeps every change made
before it, as requests already sent stay sent.
-/

namespace Autoresponder

open Autoresponder.Time

/-- The body of an HTTP answer. -/
inductive Body where
  | json (v : Value)
  | text (s : String)
  deriving Inhabited

/-- An answer body as data: parsed JSON, or the raw text under `raw`. -/
def Body.data : Body → Value
  | .json v => v
  | .text t =>
    match Json.parse t with
    | .ok v => v
    | .error _ => .dict [("raw", .str t)]

/-- What a remote endpoint does with one request: answer it, or fail to connect. -/
inductive Answer where
  | respond (status : Int) (body : Body)
  | unreachable (msg : String)
  deriving Inhabited

/-- A scripted outcome of one text generation call: a reply, or a failure with its text. -/
inductive Scripted where
  | reply (text : Value)
  | fails (msg : String)
  deriving Inhabited

/-- What a language model endpoint answers: a reply text, content blocks, or a raw answer. -/
inductive ModelAnswer where
  | reply (text : Value)
  | blocks (items : List Value)
  | raw (a : Answer)
  deriving Inhabited

/-- Where generated text comes from: a script of outcomes, or a language model endpoint with
its configuration and its answers in order. -/
inductive Writer where
  | scripted (entries : List Scripted)
  | model (config : Config.Section) (answers : List ModelAnswer)
  deriving Inhabited

/-- The fixed setup of a run. -/
structure Setup where
  whatsapp : Config.Section := Config.whatsappDefaults
  automation : Config.Section := Config.automationDefaults
  /-- The language of templates the dispatcher sends. -/
  templateLanguage : String := "en"
  deriving Inhabited

/-- Everything an operation reads and changes. -/
structure World where
  setup : Setup := {}
  store : Store := {}
  clock : Stamp
  /-- Ids made so far. -/
  issued : Nat := 0
  /-- Provider answers in order; none is the plain success. -/
  provider : List (Option Answer) := []
  /-- Provider answers by message type, used every time that type is sent. -/
  providerByType : List (String × Option Answer) := []
  /-- Provider requests made so far. -/
  providerCalls : Nat := 0
  /-- Each provider request made: address, authorization and body. -/
  sent : List Value := []
  /-- Answers of API node endpoints in order. -/
  api : List Answer := []
  /-- Each API node request made. -/
  apiLog : List Value := []
  writer : Writer := .scripted []
  /-- Each prompt given to the scripted generator. -/
  aiCalls : List String := []
  /-- Each request made to a language model endpoint. -/
  modelLog : List Value := []
  deriving Inhabited

/-- An operation on the world that may fail. -/
abbrev Op := ExceptT Fault (StateM World)

namespace Op

/-- Fails with a fault. -/
def fail {α : Type} (f : Fault) : Op α := throw f

/-- Runs a computation that may fail. -/
def lift {α : Type} (r : Except Fault α) : Op α :=
  match r with
  | .ok a => pure a
  | .error f => throw f

/-- The clock. -/
def now : Op Stamp := do return (← get).clock

/-- The setup. -/
def setup : Op Setup := do return (← get).setup

/-- The store. -/
def store : Op Store := do return (← get).store

/-- Replaces the store. -/
def setStore (s : Store) : Op Unit := modify fun w => { w with store := s }

/-- Changes the store by a computation that may fail. -/
def changeStore (f : Store → Except Fault Store) : Op Unit := do
  setStore (← lift (f (← store)))

/-- Sixteen lower-case hexadecimal digits of a number. -/
def hex16 (n : Nat) : String := hexPadded 16 n

/-- A fresh record id: sixteen hexadecimal digits, starting with `f00d`. -/
def freshId : Op String := do
  let w ← get
  set { w with issued := w.issued + 1 }
  return "f00d" ++ String.ofList ((hex16 (w.issued + 1)).toList.drop 4)

/-- Stores a message record made now with a fresh id. The provider's id for it must be a
text. -/
def keepMessage (conversationId workspaceId phone kind body : String) (providerId : Value)
    (link : String := "") (fileType : String := "none") (fromCustomer : Bool := false)
    (isBot : Bool := true) (status : String := "sent") : Op Message := do
  let id ← freshId
  let messageId ← match providerId with
    | .str s => pure s
    | _ => fail (.invalid [⟨[.key "message_id"], "string_type", "Input should be a valid string"⟩])
  let createdAt ← now
  let m : Message := { id, conversationId, workspaceId, phone, kind, message := body, link,
                       fileType, fromCustomer, isBot, messageId, status, createdAt }
  changeStore (·.createMessage m)
  return m

end Op

end Autoresponder
