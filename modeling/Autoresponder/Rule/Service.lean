import Autoresponder.World
import Autoresponder.Rule.Settings

/-!
# Settings service and defaults

Each workspace keeps its automation settings as a document. Reading checks the stored
document; one that does not check is reported as invalid settings of that workspace. Saving
checks the given settings first and stores their document. A workspace without settings gets
defaults on first use: the week's working hours (weekdays open from 09:00 to 17:00), nine
rules, and six canned responses that the rules point to by name. Canned responses a workspace
already has under a default name are kept and used instead.
-/

namespace Autoresponder.Rule

open Autoresponder.Time

/-- The welcome text. -/
def welcomeText : String :=
  "Hello! Welcome to our WhatsApp support. How can we help you today?"

/-- The reply outside working hours. -/
def outOfHoursText : String :=
  "Thank you for your message. We are currently outside our working hours. " ++
  "We'll get back to you as soon as possible."

/-- The reply when no agent is free. -/
def noAgentText : String :=
  "Thank you for your message. Our team is currently busy. We'll respond to you shortly."

/-- The reply when no other rule applies. -/
def fallbackText : String :=
  "Thank you for your message. We're here to help and will get back to you soon."

/-- The nudge after silence. -/
def followUpText : String :=
  "Hi! We noticed you haven't responded in a while. Is there anything else we can help you with?"

/-- The out-of-office notice. -/
def outOfOfficeText : String :=
  "We are currently out of office. We'll respond to your message when we return."

/-- The default canned responses: name, kind and content. -/
def defaultMaterials : List (String × String × String) :=
  [("Welcome", "welcome", welcomeText), ("Out of Hours", "text", outOfHoursText),
   ("No Agent Available", "text", noAgentText), ("Fallback", "text", fallbackText),
   ("Follow-up", "text", followUpText), ("Out of Office", "text", outOfOfficeText)]

/-- The default week: open on weekdays from 09:00 to 17:00. -/
def defaultHours : List Value :=
  weekdayNames.map fun day =>
    .dict [("day", .str day), ("open", .bool (day != "Saturday" && day != "Sunday")),
      ("startTime", .str "09:00"), ("endTime", .str "17:00")]

/-- A default rule document. -/
def defaultRule (id : String) (enabled : Bool) (kind description prompt : String)
    (material : Option String) (threshold : Option Int := none) : Value :=
  .dict ([("id", .str id), ("enabled", .bool enabled), ("responseType", .str kind)] ++
    (match threshold with
      | some t => [("threshold", .int t)]
      | none => []) ++
    [("description", .str description), ("aiPrompt", .str prompt)] ++
    (match material with
      | some m => [("materialName", .str m)]
      | none => []))

/-- The nine default rules. -/
def defaultRules : List Value :=
  [defaultRule "1" true "text" "Reply when a message arrives outside working hours"
     outOfHoursText (some "Out of Hours"),
   defaultRule "2" true "text" "Reply when no agent is available during working hours"
     noAgentText (some "No Agent Available"),
   defaultRule "3" true "text" "Welcome message for new conversations" welcomeText (some "Welcome"),
   defaultRule "4" false "ai" "AI nudge when the customer has been idle" followUpText
     (some "Follow-up") (some 15),
   defaultRule "5" true "text" "Fallback reply when no other rule applies" fallbackText
     (some "Fallback"),
   defaultRule "6" false "text" "Follow up 24 hours after the last message"
     ("Hi! It's been a while since we last heard from you. " ++
      "Is there anything we can help you with?") none,
   defaultRule "7" false "text" "Notify the customer when a chat expires"
     ("This chat has expired or been closed. Please contact support for assistance.") none,
   defaultRule "8" false "text" "Out of office notice" outOfOfficeText (some "Out of Office"),
   defaultRule "9" false "text" "Confirm assignment to the team"
     ("Your chat has been assigned to our team. An agent will be with you shortly.") none]

/-- The stored settings of a workspace, checked; none when none are stored, or null is. -/
def loadSettings (workspaceId : String) : Op (Option Settings) := do
  match (← Op.store).settingsOf? workspaceId with
  | none | some .null => return none
  | some raw =>
    match Settings.read raw with
    | .ok s => return some s
    | .error (.invalid _) =>
      Op.fail (.badValue ("Stored automation settings for " ++ workspaceId ++ " are invalid"))
    | .error f => Op.fail f

/-- Checks settings and stores their document. -/
def saveSettings (workspaceId : String) (doc : Value) : Op Settings := do
  let s ← Op.lift (Settings.read doc)
  Op.setStore ((← Op.store).saveSettings workspaceId s.toDocument)
  return s

/-- The default canned responses of a workspace, made where missing. -/
def defaultMaterialsOf (workspaceId : String) : Op (List Material) := do
  let existing := (← Op.store).materialsOf workspaceId
  defaultMaterials.mapM fun (name, kind, content) => do
    match (existing.filter (·.name == name)).getLast? with
    | some m => return m
    | none =>
      let m : Material := { id := ← Op.freshId, workspaceId, name, kind, content }
      Op.setStore ((← Op.store).putMaterial m)
      return m

/-- A default rule with the id of the canned response it names written in: the last one of
that name, if there is one. -/
def wireMaterial (materials : List Material) (r : Value) : Value :=
  match (r.getD "materialName").asStr?.bind fun n => (materials.filter (·.name == n)).getLast? with
  | some m => r.set "materialId" (.str m.id)
  | none => r

/-- The settings of a workspace, made from the defaults when it has none. -/
def settingsOrDefaults (workspaceId : String) : Op Settings := do
  if let some s ← loadSettings workspaceId then return s
  let materials ← defaultMaterialsOf workspaceId
  let rules := defaultRules.map (wireMaterial materials)
  saveSettings workspaceId (.dict [("holidayMode", .bool false), ("workingHours", .list defaultHours),
    ("automationRules", .list rules)])

end Autoresponder.Rule
