import Autoresponder.Rule.Basic
import Autoresponder.Fault

/-!
# Automation settings

A workspace's settings: a holiday switch, the weekly schedule (one entry per named day with
an opening and a closing time written `HH:MM`), and the list of automation rules. Older
documents key the rules by id in an object; each entry then becomes a rule whose id
defaults to its key.
-/

namespace Autoresponder

open Autoresponder.Text Autoresponder.Number

/-- The opening hours of one day. -/
structure DayHours where
  day : String
  isOpen : Bool := false
  startTime : String := "09:00"
  endTime : String := "17:00"
  deriving Inhabited

namespace DayHours

/-- Reads a decimal text of any script as a number. -/
def decimalNumber? (cs : List Char) : Option Nat :=
  cs.foldlM (fun acc c => (decimalValue? c).map (acc * 10 + ·)) 0

/-- A number written with at least two digits. -/
def twoDigits (n : Nat) : String := if n < 10 then "0" ++ natText n else natText n

/-- The clock time of an hour and a minute, each written with at least two digits. -/
def clock (h m : Nat) : String := twoDigits h ++ ":" ++ twoDigits m

/-- Normalises a clock time: blank space around it is dropped, it must be two runs of
digits joined by a colon, and each run is written with at least two digits. A run of digits
that are not decimal ones, such as superscripts, has no value and is refused as a number. -/
def padTime (s : String) : Checked String :=
  let bad : Checked String :=
    Checked.fail "value_error" ("Value error, expected HH:MM, got " ++ quoteText s)
  let noNumber (part : String) : Checked String :=
    Checked.fail "value_error"
      ("Value error, invalid literal for int() with base 10: " ++ quoteText part)
  match pieces ':' (trim s) with
  | [h, m] =>
    if !(allDigitLike h && allDigitLike m) then bad
    else match decimalNumber? h.toList, decimalNumber? m.toList with
      | some hv, some mv => .ok (clock hv mv)
      | none, _ => noNumber h
      | _, none => noNumber m
  | _ => bad

/-- Checks a day record. -/
def check (fs : Fields) : Checked DayHours :=
  let day := fs.need "day" "day" Check.text
  let isOpen := fs.withDefault "open" "open" false Check.flag
  let start := fs.withDefault "startTime" "start_time" "09:00" fun v => (Check.text v).bind padTime
  let stop := fs.withDefault "endTime" "end_time" "17:00" fun v => (Check.text v).bind padTime
  let es := day.issues ++ isOpen.issues ++ start.issues ++ stop.issues
  if es.isEmpty then .ok ⟨day.getD "", isOpen.getD false, start.getD "", stop.getD ""⟩
  else .error es

/-- The record with camelCase keys. -/
def toValue (d : DayHours) : Value :=
  .dict [("day", .str d.day), ("open", .bool d.isOpen), ("startTime", .str d.startTime),
    ("endTime", .str d.endTime)]

end DayHours

/-- A workspace's automation settings. -/
structure Settings where
  holidayMode : Bool := false
  workingHours : List DayHours := []
  rules : List Rule := []
  deriving Inhabited

namespace Settings

/-- An entry of a list read as a key and a value: a pair of items, a two-letter text or an
object with two keys. -/
def pairOf (i : Nat) (v : Value) : Except Fault (Option String × Value) :=
  let tooLong (n : Nat) : Except Fault (Option String × Value) :=
    .error (.badValue ("dictionary update sequence element #" ++ natText i ++ " has length " ++
      natText n ++ "; 2 is required"))
  let keyOf (k : Value) : Except Fault (Option String) := match k with
    | .str s => .ok (some s)
    | .list _ => .error (.badKind "unhashable type: 'list'")
    | .dict _ => .error (.badKind "unhashable type: 'dict'")
    | _ => .ok none
  match v with
  | .list [k, x] => do return (← keyOf k, x)
  | .list xs => tooLong xs.length
  | .str s => match s.toList with
    | [a, b] => .ok (some (String.singleton a), .str (String.singleton b))
    | cs => tooLong cs.length
  | .dict [(a, _), (b, _)] => .ok (some a, .str b)
  | .dict kvs => tooLong kvs.length
  | _ => .error (.badKind ("cannot convert dictionary update sequence element #" ++ natText i ++
      " to a sequence"))

/-- An older rule entry read as a record, the way a mapping is built from it. Entries whose
keys are not texts cannot name a field and are left out. -/
def entryFields (raw : Value) : Except Fault Fields :=
  if !raw.truthy then .ok []
  else match raw with
    | .dict kvs => .ok kvs
    | .list xs => do
      let pairs ← (xs.zipIdx).mapM fun (x, i) => pairOf i x
      return pairs.foldl (fun fs (k, x) => match k with
        | some k => Value.setIn fs k x
        | none => fs) []
    | .str _ => .error (.badValue "dictionary update sequence element #0 has length 1; 2 is required")
    | v => .error (.badKind ("'" ++ v.kindName ++ "' object is not iterable"))

/-- Rules keyed by id become a list of rule records, each with its key as default id. -/
def rulesOfMapping (kvs : List (String × Value)) : Except Fault (List Value) :=
  kvs.mapM fun (key, raw) => do
    let fs ← entryFields raw
    let fs := if fs.any (·.1 == "id") then fs else fs ++ [("id", .str key)]
    return Value.dict fs

/-- Checks a settings record. A fault other than a failed check can arise from an older
rule mapping whose entries are not records. -/
def check (fs : Fields) : Except Fault (Checked Settings) := do
  let rules : Checked (List Rule) ← match fs.pick "automationRules" "automation_rules" with
    | some (k, .dict kvs) =>
      match rulesOfMapping kvs with
      | .ok rs => pure ((Check.items (Check.record "AutomationRule" Rule.check) rs).under k)
      | .error (.badValue msg) => pure (.error [⟨[.key k], "value_error", "Value error, " ++ msg⟩])
      | .error f => throw f
    | some (k, v) => pure ((Check.list (Check.record "AutomationRule" Rule.check) v).under k)
    | none => pure (.ok [])
  let holiday := fs.withDefault "holidayMode" "holiday_mode" false Check.flag
  let hours := fs.withDefault "workingHours" "working_hours" []
    (Check.list (Check.record "DaySchedule" DayHours.check))
  let es := holiday.issues ++ hours.issues ++ rules.issues
  if es.isEmpty then return .ok ⟨holiday.getD false, hours.getD [], rules.getD []⟩
  else return .error es

/-- Checks settings given as any value: it must be an object. -/
def read (v : Value) : Except Fault Settings :=
  match v with
  | .dict fs => match check fs with
    | .ok (.ok s) => .ok s
    | .ok (.error es) => .error (.invalid es)
    | .error f => .error f
  | _ => .error (.invalid [⟨[], "model_type",
      "Input should be a valid dictionary or instance of AutomationSettings"⟩])

/-- The first rule with a tag; with `enabledOnly`, disabled rules are skipped. -/
def rule? (s : Settings) (tag : Tag) (enabledOnly : Bool := false) : Option Rule :=
  s.rules.find? fun r => r.tag == tag && (r.enabled || !enabledOnly)

/-- The full record of the settings. -/
def toValue (s : Settings) : Value :=
  .dict [("holidayMode", .bool s.holidayMode),
    ("workingHours", .list (s.workingHours.map DayHours.toValue)),
    ("automationRules", .list (s.rules.map Rule.toValue))]

/-- The stored document: as the full record, but each rule's tag only when it differs from
the one its id implies. -/
def toDocument (s : Settings) : Value :=
  .dict [("holidayMode", .bool s.holidayMode),
    ("workingHours", .list (s.workingHours.map DayHours.toValue)),
    ("automationRules", .list (s.rules.map Rule.toDocument))]

end Settings

end Autoresponder
