import Autoresponder.Schema.Check
import Autoresponder.Data.Show
import Autoresponder.Text.Basic

/-!
# Automation rules

A rule says how to answer a message: with a text, an AI reply to a prompt, a message
template or a chatbot flow. Its tag gives its role (out of hours, no agent, welcome, …);
when none is given, the tag is read off the rule's id, and an id that names no role makes
the rule a custom one.

Stored rules come in older shapes too, so checking first normalises the record: a legacy
`type` key stands in for a missing response type, ids and references are turned into text,
and empty prompts, template names and thresholds count as absent.
-/

namespace Autoresponder

open Autoresponder.Text

/-- The role of a rule. -/
inductive Tag where
  | outOfHours | noAgent | welcome | idleAi | fallback
  | followUp | expiredChat | outOfOffice | assigned
  | custom
  deriving DecidableEq, Inhabited, Repr

namespace Tag

/-- All tags, in the order of their codes. -/
def all : List Tag :=
  [.outOfHours, .noAgent, .welcome, .idleAi, .fallback, .followUp, .expiredChat, .outOfOffice,
    .assigned, .custom]

/-- The code of a tag: `1` to `9`, or `custom`. -/
def code : Tag → String
  | .outOfHours => "1" | .noAgent => "2" | .welcome => "3" | .idleAi => "4"
  | .fallback => "5" | .followUp => "6" | .expiredChat => "7" | .outOfOffice => "8"
  | .assigned => "9" | .custom => "custom"

/-- The tag with a code, if any. -/
def ofCode? (s : String) : Option Tag := all.find? (·.code == s)

/-- The tag a rule id implies: the tag whose code is the trimmed id, else `custom`. -/
def ofRuleId (id : String) : Tag := (ofCode? (trim id)).getD .custom

end Tag

/-- How a rule answers. -/
inductive Reply where
  | text | chatbot | ai | template
  deriving DecidableEq, Inhabited, Repr

namespace Reply

/-- All kinds of reply. -/
def all : List Reply := [.text, .chatbot, .ai, .template]

/-- The code of a reply kind. -/
def code : Reply → String
  | .text => "text" | .chatbot => "chatbot" | .ai => "ai" | .template => "template"

/-- The reply kind with a code, if any. -/
def ofCode? (s : String) : Option Reply := all.find? (·.code == s)

end Reply

/-- An automation rule. -/
structure Rule where
  id : String
  enabled : Bool := false
  description : String := ""
  reply : Reply := .text
  aiPrompt : String := ""
  materialId : Option String := none
  materialName : String := ""
  threshold : Option Int := none
  chatbotFlow : Option String := none
  chatbotFlowName : String := ""
  templateName : String := ""
  tag : Tag
  deriving Inhabited

namespace Rule

/-- The keys whose values are turned into text: the id and the references. -/
def textKeys : List String := ["id", "materialId", "material_id", "chatbotFlow", "chatbot_flow"]

/-- The keys whose null or empty values count as absent. -/
def blankKeys : List String :=
  ["aiPrompt", "ai_prompt", "templateName", "template_name", "threshold"]

/-- Lets a legacy `type` key stand in for a missing response type; the `type` key goes. -/
def fromLegacy (fs : Fields) : Fields :=
  let legacy := (fs.lookup "type").getD .null
  let fs := Value.eraseIn fs "type"
  let present (k : String) : Bool := ((fs.lookup k).getD .null).truthy
  if legacy.truthy && !present "responseType" && !present "response_type" then
    Value.setIn fs "responseType" legacy
  else fs

/-- Turns the value under a key into text, unless it is null. -/
def textAt (fs : Fields) (k : String) : Fields :=
  match fs.lookup k with
  | some .null | none => fs
  | some v => Value.setIn fs k (.str v.display)

/-- Drops the value under a key when it is null or the empty text. -/
def dropBlankAt (fs : Fields) (k : String) : Fields :=
  match fs.lookup k with
  | some .null => Value.eraseIn fs k
  | some (.str "") => Value.eraseIn fs k
  | _ => fs

/-- Brings an older rule record to the current shape (see the module header). -/
def normalize (fs : Fields) : Fields :=
  blankKeys.foldl dropBlankAt (textKeys.foldl textAt (fromLegacy fs))

/-- The codes a tag is given by, in the order they are listed to people. -/
def tagCodes : List String := Tag.all.map Tag.code

/-- Checks a rule record. -/
def check (raw : Fields) : Checked Rule :=
  let fs := normalize raw
  let id := fs.need "id" "id" Check.text
  let enabled := fs.withDefault "enabled" "enabled" false Check.flag
  let description := fs.withDefault "description" "description" "" Check.text
  let reply := fs.withDefault "responseType" "response_type" "text" (Check.choice (Reply.all.map Reply.code))
  let aiPrompt := fs.withDefault "aiPrompt" "ai_prompt" "" Check.text
  let materialId := fs.withDefault "materialId" "material_id" none (Check.optional Check.text)
  let materialName := fs.withDefault "materialName" "material_name" "" Check.text
  let threshold := fs.withDefault "threshold" "threshold" none (Check.optional Check.whole)
  let chatbotFlow := fs.withDefault "chatbotFlow" "chatbot_flow" none (Check.optional Check.text)
  let flowName := fs.withDefault "chatbotFlowName" "chatbot_flow_name" "" Check.text
  let templateName := fs.withDefault "templateName" "template_name" "" Check.text
  let tag := fs.withDefault "tag" "tag" none (Check.optional (Check.choice tagCodes))
  let es := id.issues ++ enabled.issues ++ description.issues ++ reply.issues ++
    aiPrompt.issues ++ materialId.issues ++ materialName.issues ++ threshold.issues ++
    chatbotFlow.issues ++ flowName.issues ++ templateName.issues ++ tag.issues
  if !es.isEmpty then .error es
  else
    let idText := id.getD ""
    let given := (tag.getD none).bind Tag.ofCode?
    .ok { id := idText, enabled := enabled.getD false, description := description.getD "",
          reply := (Reply.ofCode? (reply.getD "text")).getD .text,
          aiPrompt := aiPrompt.getD "", materialId := materialId.getD none,
          materialName := materialName.getD "", threshold := threshold.getD none,
          chatbotFlow := chatbotFlow.getD none, chatbotFlowName := flowName.getD "",
          templateName := templateName.getD "",
          tag := given.getD (Tag.ofRuleId idText) }

/-- Whether the rule has what its reply kind needs: a text or material for a text reply, a
template name, a chatbot flow, or a prompt for an AI reply. Blank texts count as missing. -/
def hasContent (r : Rule) : Bool :=
  match r.reply with
  | .text => !(trim r.aiPrompt).isEmpty || (r.materialId.map (!·.isEmpty)).getD false
  | .template => !(trim r.templateName).isEmpty
  | .chatbot => !(trim (r.chatbotFlow.getD "")).isEmpty
  | .ai => !(trim r.aiPrompt).isEmpty

/-- The rule as a record with camelCase keys; the tag is written only when `withTag`. -/
def toValueWith (withTag : Bool) (r : Rule) : Value :=
  .dict ([("id", .str r.id), ("enabled", .bool r.enabled), ("description", .str r.description),
    ("responseType", .str r.reply.code), ("aiPrompt", .str r.aiPrompt),
    ("materialId", Value.ofOption r.materialId), ("materialName", .str r.materialName),
    ("threshold", match r.threshold with | some n => .int n | none => .null),
    ("chatbotFlow", Value.ofOption r.chatbotFlow), ("chatbotFlowName", .str r.chatbotFlowName),
    ("templateName", .str r.templateName)] ++
    (if withTag then [("tag", .str r.tag.code)] else []))

/-- The full record of a rule. -/
def toValue (r : Rule) : Value := r.toValueWith true

/-- The stored form of a rule: the tag only when it differs from the one the id implies. -/
def toDocument (r : Rule) : Value := r.toValueWith (r.tag != Tag.ofRuleId r.id)

end Rule

end Autoresponder
