import Autoresponder.Schema.Check

/-!
# Workspaces, team members and materials

A workspace is one tenant with its WhatsApp credentials: the phone number id and access
token that sending needs. Team members are the agents of a workspace; materials are its
canned responses.
-/

namespace Autoresponder

/-- A workspace record. -/
structure Workspace where
  id : String
  name : String := ""
  phoneId : String := ""
  accessToken : String := ""
  wabaId : String := ""
  deriving Inhabited

namespace Workspace

/-- Checks a workspace record; `fresh` is the id of a record without one. -/
def check (fresh : String) (fs : Fields) : Checked Workspace :=
  let id := fs.withDefault "id" "id" fresh Check.text
  let name := fs.withDefault "name" "name" "" Check.text
  let phoneId := fs.withDefault "phoneId" "phone_id" "" Check.text
  let token := fs.withDefault "accessToken" "access_token" "" Check.text
  let waba := fs.withDefault "wabaId" "waba_id" "" Check.text
  let es := id.issues ++ name.issues ++ phoneId.issues ++ token.issues ++ waba.issues
  if es.isEmpty then .ok ⟨id.getD "", name.getD "", phoneId.getD "", token.getD "", waba.getD ""⟩
  else .error es

/-- The record with camelCase keys. -/
def toValue (w : Workspace) : Value :=
  .dict [("id", .str w.id), ("name", .str w.name), ("phoneId", .str w.phoneId),
    ("accessToken", .str w.accessToken), ("wabaId", .str w.wabaId)]

/-- Whether the workspace can send: it has a phone number id and an access token. -/
def hasCredentials (w : Workspace) : Bool := !w.phoneId.isEmpty && !w.accessToken.isEmpty

end Workspace

/-- A team member record. -/
structure Member where
  id : String
  workspaceId : String
  name : String := ""
  available : Bool := true
  deriving Inhabited

namespace Member

/-- Checks a team member record. -/
def check (fresh : String) (fs : Fields) : Checked Member :=
  let id := fs.withDefault "id" "id" fresh Check.text
  let ws := fs.need "workspaceId" "workspace_id" Check.text
  let name := fs.withDefault "name" "name" "" Check.text
  let available := fs.withDefault "available" "available" true Check.flag
  let es := id.issues ++ ws.issues ++ name.issues ++ available.issues
  if es.isEmpty then .ok ⟨id.getD "", ws.getD "", name.getD "", available.getD true⟩
  else .error es

/-- The record with camelCase keys. -/
def toValue (m : Member) : Value :=
  .dict [("id", .str m.id), ("workspaceId", .str m.workspaceId), ("name", .str m.name),
    ("available", .bool m.available)]

end Member

/-- A canned response. -/
structure Material where
  id : String
  workspaceId : String
  name : String
  content : String := ""
  kind : String := "text"
  deriving Inhabited

namespace Material

/-- Checks a material record. -/
def check (fresh : String) (fs : Fields) : Checked Material :=
  let id := fs.withDefault "id" "id" fresh Check.text
  let ws := fs.need "workspaceId" "workspace_id" Check.text
  let name := fs.need "name" "name" Check.text
  let content := fs.withDefault "content" "content" "" Check.text
  let kind := fs.withDefault "type" "type" "text" Check.text
  let es := id.issues ++ ws.issues ++ name.issues ++ content.issues ++ kind.issues
  if es.isEmpty then .ok ⟨id.getD "", ws.getD "", name.getD "", content.getD "", kind.getD ""⟩
  else .error es

/-- The record with camelCase keys. -/
def toValue (m : Material) : Value :=
  .dict [("id", .str m.id), ("workspaceId", .str m.workspaceId), ("name", .str m.name),
    ("content", .str m.content), ("type", .str m.kind)]

end Material

end Autoresponder
