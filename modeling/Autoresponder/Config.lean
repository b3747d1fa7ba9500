import Autoresponder.Data.Access
import Autoresponder.Text.Basic
import Autoresponder.Text.Encode
import Autoresponder.Yaml.Load

/-!
# Configuration

The service's settings come in sections: text generation, the messaging provider, the
database and automation. Each section has fixed field names with defaults. A configuration
document overrides a field when it names it with a value that is neither null nor an
unresolved `${NAME}` reference; other keys are ignored. Texts in the document first have
their `${NAME}` references replaced from the environment, where a name is known.

Field values are kept as given: a document may set a number where a text is expected, and the
place that uses the field decides what that means.
-/

namespace Autoresponder.Config

open Autoresponder.Text

/-- A section: its fields in order, each with its value. -/
abbrev Section := List (String × Value)

/-- The text generation defaults. -/
def aiDefaults : Section :=
  [("provider", .str "anthropic"), ("model", .str "claude-sonnet-4-20250514"),
   ("temperature", .float 0.7), ("max_tokens", .int 300), ("api_key", .str ""),
   ("system_prompt", .str ("You write short, friendly WhatsApp replies on behalf of a business. " ++
      "Reply with the message text only."))]

/-- The messaging provider defaults. -/
def whatsappDefaults : Section :=
  [("api_base", .str "https://graph.facebook.com/v21.0"), ("verify_token", .str ""),
   ("app_secret", .str ""), ("template_language", .str "en"), ("media_base_url", .str ""),
   ("request_timeout", .float 15.0), ("send_attempts", .int 1)]

/-- The database defaults. -/
def databaseDefaults : Section :=
  [("url", .str "sqlite:///./autoresponder.db"), ("store_backend", .str "memory")]

/-- The automation defaults. -/
def automationDefaults : Section :=
  [("welcome_window_minutes", .int 5), ("chatbot_timeout_seconds", .int 720),
   ("max_flow_steps", .int 50), ("default_country_code", .str "234"), ("timezone", .null)]

/-- The value of a field of a section. -/
def Section.get (s : Section) (name : String) : Value := (s.lookup name).getD .null

/-- The text of a field, or the empty text when it is not a text. -/
def Section.text (s : Section) (name : String) : String := (s.get name).asStr?.getD ""

/-- A section with some fields replaced. -/
def Section.override (s : Section) (changes : List (String × Value)) : Section :=
  s.map fun (k, v) => (k, (changes.lookup k).getD v)

/-- Whether a loaded value is a reference the environment did not resolve. -/
def unresolved : Yaml.Data → Bool
  | .atom (.str s) => s.startsWith "$\x7b"
  | _ => false

/-- Whether a document part holds a name, as membership reads for each kind of part: a key of
a mapping or a member of a set, an item of a list, a piece of a text. -/
def holds (raw : Yaml.Data) (name : String) : Except Fault Bool :=
  match raw with
  | .dict kvs => .ok (kvs.any (·.1.same (.str name)))
  | .set xs => .ok (xs.any (·.same (.str name)))
  | .list xs => .ok (xs.any fun x => match x with
      | .atom (.str s) => s == name
      | _ => false)
  | .pairs _ => .ok false
  | .atom (.str s) => .ok (containsText s name)
  | .atom (.bytes _) => .error (.badKind "a bytes-like object is required, not 'str'")
  | other => .error (.badKind ("argument of type '" ++ other.kindName ++ "' is not iterable"))

/-- The value a document part holds under a name it holds. -/
def entry (raw : Yaml.Data) (name : String) : Except Fault Yaml.Data :=
  match raw with
  | .dict _ => .ok ((raw.lookup? name).getD (.atom .none))
  | .list _ | .pairs _ => .error (.badKind "list indices must be integers or slices, not str")
  | .atom (.str _) => .error (.badKind "string indices must be integers, not 'str'")
  | .atom (.bytes _) => .error (.badKind "byte indices must be integers or slices, not str")
  | other => .error (.badKind ("'" ++ other.kindName ++ "' object is not subscriptable"))

/-- The fields of a section a document part sets: for each field it holds, its value unless
that is null or an unresolved reference. -/
def Section.changes (defaults : Section) (raw : Yaml.Data) :
    Except Fault (List (String × Yaml.Data)) := do
  let mut out := []
  for (name, _) in defaults do
    if ← holds raw name then
      let v ← entry raw name
      if !(v matches .atom .none) && !unresolved v then out := out ++ [(name, v)]
  return out

/-- A section read from a document part over its defaults. -/
def Section.read (defaults : Section) (raw : Yaml.Data) : Except Fault Section := do
  let changes ← defaults.changes raw
  return defaults.override (changes.map fun (k, v) => (k, v.toValue))

/-- A text with its `${NAME}` references replaced from the environment; unknown names stay. -/
def substitute (env : List (String × String)) (s : String) : String :=
  let rec go (fuel : Nat) (cs : List Char) : List Char :=
    match fuel, cs with
    | 0, cs => cs
    | _, [] => []
    | fuel + 1, '$' :: '{' :: rest =>
      let name := rest.takeWhile isWordChar
      match rest.drop name.length with
      | '}' :: tail =>
        if name.isEmpty then '$' :: go fuel ('{' :: rest)
        else
          match env.lookup (String.ofList name) with
          | some v => v.toList ++ go fuel tail
          | none => ('$' :: '{' :: name) ++ ['}'] ++ go fuel tail
      | _ => '$' :: go fuel ('{' :: rest)
    | fuel + 1, c :: cs => c :: go fuel cs
  String.ofList (go (s.length + 1) s.toList)

/-- The whole configuration. -/
structure Settings where
  appName : Value := .str "wa-autoresponder"
  debug : Bool := false
  ai : Section := aiDefaults
  whatsapp : Section := whatsappDefaults
  database : Section := databaseDefaults
  automation : Section := automationDefaults
  deriving Inhabited

/-- The configuration as a nested record. -/
def Settings.toValue (s : Settings) : Value :=
  .dict [("app_name", s.appName), ("debug", .bool s.debug), ("ai", .dict s.ai),
    ("whatsapp", .dict s.whatsapp), ("database", .dict s.database),
    ("automation", .dict s.automation)]

/-- The value a document's top mapping gives a name, or a default; a top part that is no
mapping has no values to give. -/
def topValue (raw : Yaml.Data) (name : String) (default : Yaml.Data) : Except Fault Yaml.Data :=
  match raw with
  | .dict _ => .ok ((raw.lookup? name).getD default)
  | other => .error (.noAttribute ("'" ++ other.kindName ++ "' object has no attribute 'get'"))

/-- The configuration a loaded document gives, after replacing references from the
environment. A missing or false document is an empty mapping, and so is a section named in
the document but false; the country code is written as text and loses any leading plus
signs. -/
def Settings.ofData (env : List (String × String)) (doc : Option Yaml.Data) :
    Except Fault Settings := do
  let raw := match doc with
    | some d => if d.truthy then d else .dict []
    | none => .dict []
  let raw := raw.mapTexts (substitute env)
  let appName ← topValue raw "app_name" (.atom (.str "wa-autoresponder"))
  let debug ← topValue raw "debug" (.atom (.bool false))
  let sectionPart (name : String) : Except Fault (Option Yaml.Data) := do
    if ← holds raw name then
      let part ← entry raw name
      return some (if part.truthy then part else .dict [])
    else return none
  let part (name : String) (defaults : Section) : Except Fault Section := do
    match ← sectionPart name with
    | some p => Section.read defaults p
    | none => return defaults
  let ai ← part "ai" aiDefaults
  let whatsapp ← part "whatsapp" whatsappDefaults
  let database ← part "database" databaseDefaults
  let automation ← match ← sectionPart "automation" with
    | some p => do
      let changes ← automationDefaults.changes p
      let code := match changes.lookup "default_country_code" with
        | some v => v.text
        | none => (automationDefaults.get "default_country_code").display
      let a := automationDefaults.override (changes.map fun (k, v) => (k, v.toValue))
      pure (a.override [("default_country_code", .str (dropStartOf code ['+']))])
    | none => pure automationDefaults
  return { appName := appName.toValue, debug := debug.truthy, ai, whatsapp, database, automation }

/-- The fault a refused YAML text raises. -/
def faultOfYaml (f : Yaml.Failure) : Fault :=
  match f with
  | .refused stage _ => .unreadable stage f.message
  | .unacceptable .. => .unreadable .reading f.message
  | .badValue m => .badValue m
  | .noCharacter => .outOfRange f.message
  | .noFlag _ => .missingKey f.message
  | .noMatch => .noAttribute f.message
  | .notText => .badKind f.message
  | .tooLarge => .overflow f.message
  | .endless => .recursion f.message

/-- The whole part of a float, toward zero, and what is left. -/
def splitWhole (x : Float) : Except Fault (Int × Float) := do
  let whole ← (Value.float x).toWhole
  return (whole, x - Float.ofInt whole)

/-- A duration in microseconds, counted in a unit of `perUnit` microseconds. A whole
number counts exactly and a flag as one or none. A fraction is taken apart the way durations
are built: its whole units, then the whole microseconds of the rest, and the last fraction
of a microsecond rounded to the nearest, a half going to make the total even. Any other kind
has no duration. -/
def countMicros (unit : String) (perUnit : Nat) : Value → Except Fault Int
  | .int n => .ok (n * perUnit)
  | .bool b => .ok (if b then perUnit else 0)
  | .float x => do
    let (units, frac) ← splitWhole x
    let (micros, rest) ← splitWhole (frac * Float.ofNat perUnit)
    let total := units * perUnit + micros
    if rest == 0.0 then return total
    let low := rest.floor
    let (lowWhole, _) ← splitWhole low
    let gap := rest - low
    let up := if gap > 0.5 then true else if gap < 0.5 then false else (total + lowWhole) % 2 != 0
    return total + lowWhole + (if up then 1 else 0)
  | v => .error (.badKind ("unsupported type for timedelta " ++ unit ++ " component: " ++ v.kindName))

/-- Microseconds in a day. -/
def dayMicros : Nat := 86400000000

/-- The most days a duration may span, either way. -/
def maxDurationDays : Nat := 999999999

/-- A duration setting in microseconds, as `countMicros` counts it. Its whole days, rounded
down, must fit a signed 32-bit count and be at most `maxDurationDays` in magnitude. -/
def durationMicros (unit : String) (perUnit : Nat) (v : Value) : Except Fault Int := do
  let micros ← countMicros unit perUnit v
  let days := micros / (dayMicros : Int)
  if days > 2147483647 || days < -2147483648 then
    throw (.overflow "Python int too large to convert to C int")
  if days.natAbs > maxDurationDays then
    throw (.overflow ("days=" ++ toString days ++ "; must have magnitude <= " ++
      toString maxDurationDays))
  return micros

/-- The configuration a settings file gives: the defaults when there is no file, else its
text read as a YAML document. The file is written as UTF-8 first, so a text holding a lone
surrogate never becomes a file. -/
def Settings.load (env : List (String × String)) (file : Option String) : Except Fault Settings :=
  match file with
  | none => .ok {}
  | some text =>
    if let some why := Text.utf8Refusal text then .error (.encoding why) else
    match Yaml.load text with
    | .ok doc => Settings.ofData env doc
    | .error f => .error (faultOfYaml f)

end Autoresponder.Config
