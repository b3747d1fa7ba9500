import Autoresponder.Conversation
import Autoresponder.Workspace
import Autoresponder.Chatbot
import Autoresponder.Fault

/-!
# The conversation store

The store keeps workspaces, conversations, messages, chatbots, canned responses, team members
and each workspace's raw automation settings. Records keep the order in which they were first
stored; storing a record whose id is already present replaces it in place.

Two kinds of store share this contract and differ at its edges. The in-memory store finds a
conversation through an index of the last conversation created per workspace and phone, and a
message through an index of the last message stored per provider id; it accepts unknown
conversation fields and ignores them. The database store finds the conversation updated last,
updates every message with a provider id, refuses unknown conversation fields and duplicate
ids, keeps times as UTC wall times, never moves a canned response or team member to another
workspace, creates a workspace when settings are saved for an unknown one, and keeps no
statistics.
-/

namespace Autoresponder

open Autoresponder.Time

/-- The kind of store. -/
inductive Backend where
  | memory
  | sql
  deriving DecidableEq, Inhabited

/-- The name of the store kind's class. -/
def Backend.className : Backend → String
  | .memory => "InMemoryStore"
  | .sql => "SqlStore"

/-- A list with `x` replacing the item of the same key in place, or appended. -/
def upsertBy {α : Type} (key : α → String) (xs : List α) (x : α) : List α :=
  if xs.any (key · == key x) then xs.map fun y => if key y == key x then x else y
  else xs ++ [x]

/-- The same wall time read back as UTC, as a database without offsets returns it. -/
def Time.Stamp.keptAsUtc (s : Stamp) : Stamp := { s with offset := some 0 }

/-- A change to some fields of a conversation; `unknown` names fields no conversation has. -/
structure Conversation.Patch where
  contactName : Option String := none
  status : Option Status := none
  chatbotId : Option (Option String) := none
  currentNode : Option (Option String) := none
  chatbotTimeout : Option (Option Stamp) := none
  handoff : Option Bool := none
  createdAt : Option Stamp := none
  updatedAt : Option Stamp := none
  phone : Option String := none
  unknown : List String := []
  deriving Inhabited

/-- The fields a conversation update may name. -/
def Conversation.patchable : List String :=
  ["contact_name", "status", "chatbot_id", "current_node", "chatbot_timeout", "handoff",
   "created_at", "updated_at", "phone"]

/-- An optional text field of a patch: null clears it. -/
def optionalText : Value → Option (Option String)
  | .null => some none
  | .str s => some (some s)
  | _ => none

/-- An optional time field of a patch: null clears it. -/
def optionalStamp : Value → Option (Option Stamp)
  | .null => some none
  | v => match Check.stamp v with
    | .ok t => some (some t)
    | .error _ => none

/-- A patch read from fields named in snake case; values of the wrong kind are left out. -/
def Conversation.Patch.ofFields (fs : Fields) : Conversation.Patch :=
  fs.foldl (fun p (k, v) =>
    match k with
    | "contact_name" => { p with contactName := v.asStr? <|> p.contactName }
    | "status" => { p with status := (match v.asStr? with
        | some "open" => some .opened
        | some "closed" => some .closed
        | _ => p.status) }
    | "chatbot_id" => { p with chatbotId := optionalText v <|> p.chatbotId }
    | "current_node" => { p with currentNode := optionalText v <|> p.currentNode }
    | "chatbot_timeout" => { p with chatbotTimeout := optionalStamp v <|> p.chatbotTimeout }
    | "handoff" => { p with handoff := (match v with
        | .bool b => some b
        | _ => p.handoff) }
    | "created_at" => { p with createdAt := ((optionalStamp v).bind fun t => t) <|> p.createdAt }
    | "updated_at" => { p with updatedAt := ((optionalStamp v).bind fun t => t) <|> p.updatedAt }
    | "phone" => { p with phone := v.asStr? <|> p.phone }
    | other => { p with unknown := p.unknown ++ [other] }) {}

/-- The conversation with a patch applied. -/
def Conversation.apply (c : Conversation) (p : Conversation.Patch) : Conversation :=
  { c with
    contactName := p.contactName.getD c.contactName
    status := p.status.getD c.status
    chatbotId := p.chatbotId.getD c.chatbotId
    currentNode := p.currentNode.getD c.currentNode
    chatbotTimeout := p.chatbotTimeout.getD c.chatbotTimeout
    handoff := p.handoff.getD c.handoff
    createdAt := p.createdAt.getD c.createdAt
    updatedAt := p.updatedAt.getD c.updatedAt
    phone := p.phone.getD c.phone }

/-- The conversation as the database returns it: times as UTC wall times. -/
def Conversation.keptInDatabase (c : Conversation) : Conversation :=
  { c with
    chatbotTimeout := c.chatbotTimeout.map Stamp.keptAsUtc
    createdAt := c.createdAt.keptAsUtc
    updatedAt := c.updatedAt.keptAsUtc }

/-- The store's contents. -/
structure Store where
  backend : Backend := .memory
  workspaces : List Workspace := []
  conversations : List Conversation := []
  messages : List Message := []
  chatbots : List Chatbot := []
  materials : List Material := []
  team : List Member := []
  settings : List (String × Value) := []
  /-- In memory: the conversation last created for each `workspace:phone` key. -/
  phoneIndex : List (String × String) := []
  /-- When set, reading the team fails with this text. -/
  teamFault : Option String := none
  /-- When set, reading a canned response fails with this text. -/
  materialFault : Option String := none
  deriving Inhabited

namespace Store

/-! ## Workspaces -/

/-- The workspace with an id. -/
def workspace? (s : Store) (id : String) : Option Workspace := s.workspaces.find? (·.id == id)

/-- The first workspace with a phone number id; none for the empty id. -/
def workspaceByPhone? (s : Store) (phoneId : String) : Option Workspace :=
  if phoneId.isEmpty then none else s.workspaces.find? (·.phoneId == phoneId)

/-- Stores a workspace. -/
def putWorkspace (s : Store) (w : Workspace) : Store :=
  { s with workspaces := upsertBy (·.id) s.workspaces w }

/-! ## Conversations -/

/-- The conversation with an id. -/
def conversation? (s : Store) (id : String) : Option Conversation :=
  s.conversations.find? (·.id == id)

/-- The key of the in-memory phone index. -/
def phoneKey (workspaceId phone : String) : String := workspaceId ++ ":" ++ phone

/-- The conversation of a phone number in a workspace: in memory the one created last, in the
database the one updated last (the first stored among equals). -/
def findConversation? (s : Store) (phone workspaceId : String) : Option Conversation :=
  match s.backend with
  | .memory => ((s.phoneIndex.lookup (phoneKey workspaceId phone))).bind s.conversation?
  | .sql =>
    (s.conversations.filter fun c => c.workspaceId == workspaceId && c.phone == phone).foldl
      (fun best c => match best with
        | none => some c
        | some b => if b.updatedAt.instant < c.updatedAt.instant then some c else some b) none

/-- The fault of a second record with a key the database already holds. -/
def duplicateKey (table : String) : Fault :=
  .duplicate ("(sqlite3.IntegrityError) UNIQUE constraint failed: " ++ table ++ ".id")

/-- Stores a new conversation. -/
def createConversation (s : Store) (c : Conversation) : Except Fault Store :=
  match s.backend with
  | .memory =>
    .ok { s with
      conversations := upsertBy (·.id) s.conversations c
      phoneIndex := upsertBy (·.1) s.phoneIndex (phoneKey c.workspaceId c.phone, c.id) }
  | .sql =>
    if s.conversations.any (·.id == c.id) then .error (duplicateKey "conversations")
    else .ok { s with conversations := s.conversations ++ [c.keptInDatabase] }

/-- The text of a sorted list of names as the database store reports unknown fields. -/
def namesText (names : List String) : String :=
  "[" ++ ", ".intercalate (names.map quoteText) ++ "]"

/-- Applies a patch to a stored conversation, stamping the update time unless the patch sets
it; none when there is no such conversation. -/
def updateConversation (s : Store) (id : String) (p : Conversation.Patch) (now : Stamp) :
    Except Fault (Option Conversation × Store) :=
  let p := { p with updatedAt := some (p.updatedAt.getD now) }
  match s.backend with
  | .memory =>
    match s.conversation? id with
    | none => .ok (none, s)
    | some c =>
      let c := c.apply p
      .ok (some c, { s with conversations := upsertBy (·.id) s.conversations c })
  | .sql =>
    if !p.unknown.isEmpty then
      let sorted := (p.unknown.eraseDups).mergeSort fun a b => decide (a ≤ b)
      .error (.badValue ("Unknown conversation fields: " ++ namesText sorted))
    else
      match s.conversation? id with
      | none => .ok (none, s)
      | some c =>
        let c := (c.apply p).keptInDatabase
        .ok (some c, { s with conversations := upsertBy (·.id) s.conversations c })

/-! ## Messages -/

/-- Stores a message. -/
def createMessage (s : Store) (m : Message) : Except Fault Store :=
  match s.backend with
  | .memory => .ok { s with messages := s.messages ++ [m] }
  | .sql =>
    if s.messages.any (·.id == m.id) then .error (duplicateKey "messages")
    else .ok { s with messages := s.messages ++ [{ m with createdAt := m.createdAt.keptAsUtc }] }

/-- Items of a list as a slice from the front by a signed bound: a negative bound leaves out
that many items at the end. -/
def sliceFront {α : Type} (xs : List α) (limit : Int) : List α :=
  if limit ≥ 0 then xs.take limit.toNat else xs.take (xs.length - limit.natAbs)

/-- Items of a list as a slice from the back by a signed bound: zero keeps everything, a
negative bound leaves out that many items at the front. -/
def sliceBack {α : Type} (xs : List α) (limit : Int) : List α :=
  if limit > 0 then xs.drop (xs.length - limit.toNat)
  else if limit == 0 then xs
  else xs.drop limit.natAbs

/-- The latest messages of a conversation, at most `limit`, newest or oldest first. -/
def recentMessages (s : Store) (conversationId : String) (limit : Int) (newestFirst : Bool) :
    List Message :=
  let own := (s.messages.filter (·.conversationId == conversationId)).mergeSort
    fun a b => decide (a.createdAt.instant ≤ b.createdAt.instant)
  match s.backend with
  | .memory =>
    if newestFirst then sliceFront own.reverse limit else sliceBack own limit
  | .sql =>
    let newest := if limit < 0 then own.reverse else own.reverse.take limit.toNat
    if newestFirst then newest else newest.reverse

/-- Whether some stamps mix naive and aware ones, which cannot be put in order. -/
def mixesNaive (ts : List Stamp) : Bool := ts.any (·.offset.isNone) && ts.any (·.offset.isSome)

/-- Reads the latest messages of a conversation. The in-memory store sorts the conversation's
messages by their stamps itself, and fails when naive and aware stamps meet; the database
orders them by the stored wall times. -/
def findRecentMessages (s : Store) (conversationId : String) (limit : Int) (newestFirst : Bool) :
    Except Fault (List Message) :=
  let stamps := (s.messages.filter (·.conversationId == conversationId)).map (·.createdAt)
  match s.backend with
  | .memory =>
    if mixesNaive stamps then .error (Fault.ofTime .mixedCompare)
    else .ok (s.recentMessages conversationId limit newestFirst)
  | .sql => .ok (s.recentMessages conversationId limit newestFirst)

/-- Sets the delivery status of sent messages with a provider id: in memory the one stored
last with that id, in the database all of them. Whether any message had that id. -/
def updateMessageStatus (s : Store) (messageId status : String) : Bool × Store :=
  if messageId.isEmpty then (false, s)
  else
    match s.backend with
    | .memory =>
      let hits := (List.range s.messages.length).filter fun i =>
        (s.messages.getD i default).messageId == messageId
      match hits.getLast? with
      | none => (false, s)
      | some i =>
          let marked := s.messages.modify i fun m => { m with status := status }
        (true, { s with messages := marked })
    | .sql =>
      let any := s.messages.any (·.messageId == messageId)
      let marked := s.messages.map fun m =>
        if m.messageId == messageId then { m with status := status } else m
      (any, { s with messages := marked })

/-! ## Chatbots -/

/-- The chatbot with an id. -/
def chatbot? (s : Store) (id : String) : Option Chatbot := s.chatbots.find? (·.id == id)

/-- The chatbots of a workspace, only published ones when asked. -/
def chatbotsOf (s : Store) (workspaceId : String) (publishedOnly : Bool) : List Chatbot :=
  s.chatbots.filter fun b => b.workspaceId == workspaceId && (b.publish || !publishedOnly)

/-- Stores a chatbot. -/
def putChatbot (s : Store) (b : Chatbot) : Store :=
  { s with chatbots := upsertBy (·.id) s.chatbots b }

/-! ## Canned responses and team -/

/-- A canned response of a workspace, or the failure of reading it. -/
def material? (s : Store) (workspaceId id : String) : Except String (Option Material) :=
  match s.materialFault with
  | some e => .error e
  | none => .ok (s.materials.find? fun m => m.id == id && m.workspaceId == workspaceId)

/-- The canned responses of a workspace. -/
def materialsOf (s : Store) (workspaceId : String) : List Material :=
  s.materials.filter (·.workspaceId == workspaceId)

/-- Stores a canned response; the database keeps the workspace of an existing one. -/
def putMaterial (s : Store) (m : Material) : Store :=
  match s.backend, s.materials.find? (·.id == m.id) with
  | .sql, some old =>
    let kept := { m with workspaceId := old.workspaceId }
    { s with materials := upsertBy (·.id) s.materials kept }
  | _, _ => { s with materials := upsertBy (·.id) s.materials m }

/-- The team of a workspace, or the failure of reading it. -/
def teamOf (s : Store) (workspaceId : String) : Except String (List Member) :=
  match s.teamFault with
  | some e => .error e
  | none => .ok (s.team.filter (·.workspaceId == workspaceId))

/-- Stores a team member; the database keeps the workspace of an existing one. -/
def putMember (s : Store) (m : Member) : Store :=
  match s.backend, s.team.find? (·.id == m.id) with
  | .sql, some old =>
    let kept := { m with workspaceId := old.workspaceId }
    { s with team := upsertBy (·.id) s.team kept }
  | _, _ => { s with team := upsertBy (·.id) s.team m }

/-! ## Settings and statistics -/

/-- The raw settings document of a workspace. -/
def settingsOf? (s : Store) (workspaceId : String) : Option Value := s.settings.lookup workspaceId

/-- Stores a workspace's raw settings; the database creates the workspace when it is new. -/
def saveSettings (s : Store) (workspaceId : String) (doc : Value) : Store :=
  let s := { s with settings := upsertBy (·.1) s.settings (workspaceId, doc) }
  match s.backend with
  | .sql => if (s.workspace? workspaceId).isSome then s else s.putWorkspace { id := workspaceId }
  | .memory => s

/-- Counts of stored records; the database store keeps none. -/
def stats (s : Store) : Except Fault Value :=
  match s.backend with
  | .memory =>
    .ok (.dict [("workspaces", .int s.workspaces.length),
      ("conversations", .int s.conversations.length), ("messages", .int s.messages.length),
      ("chatbots", .int s.chatbots.length)])
  | .sql => .error (.noAttribute "'SqlStore' object has no attribute 'stats'")

end Store

end Autoresponder
