import Autoresponder.Rule.Settings
import Autoresponder.Conversation
import Autoresponder.Workspace

/-!
# Choosing a rule

At most one rule answers an inbound message. The roles are tried in a fixed order, each
with the first enabled rule of that role: out of hours (outside working hours or on
holiday), no agent (working hours and no available team member), welcome (the
conversation is younger than the welcome window), idle AI (an AI rule whose threshold of
idle minutes has passed) and fallback. When none applies, the first enabled rule with
content is taken, skipping AI rules whose threshold has not passed.

The team is read from the store; a failed read skips the no-agent role.
-/

namespace Autoresponder

open Autoresponder.Time

namespace Resolve

/-- What the rule choice needs to know. -/
structure Situation where
  settings : Settings
  conversation : Conversation
  isWorking : Bool
  now : Stamp
  /-- The team of the workspace, or the reason it could not be read. -/
  team : Except String (List Member)
  /-- The welcome window in microseconds. -/
  welcomeMicros : Int := 5 * 60000000

/-- Whether a span of microseconds, counted in minutes, reaches a whole number of minutes.
The span is taken to seconds and then to minutes in double precision, each step rounded to
the nearest double, and the minutes are compared with the threshold exactly. -/
def minutesReach (micros t : Int) : Bool :=
  let seconds := Number.Dyadic.ofQuotient (decide (micros < 0)) micros.natAbs 1000000
  (seconds.divNat 60).cmpInt t != .lt

/-- Whether the minutes since the conversation's last update reach the rule's threshold
(a rule without threshold always does). -/
def thresholdMet (r : Rule) (c : Conversation) (now : Stamp) : Except Fault Bool :=
  match r.threshold with
  | none => .ok true
  | some t => match now.diff c.updatedAt with
    | .ok micros => .ok (minutesReach micros t)
    | .error e => .error (.badKind e.message)

/-- Whether the role's check passes for the rule found for it. -/
def passes (s : Situation) (tag : Tag) (r : Rule) : Except Fault Bool :=
  match tag with
  | .outOfHours => .ok (!s.isWorking || s.settings.holidayMode)
  | .noAgent =>
    if !s.isWorking || s.settings.holidayMode then .ok false
    else match s.team with
      | .error _ => .ok false
      | .ok [] => .ok true
      | .ok ms => .ok (!ms.any (·.available))
  | .welcome => match s.now.diff s.conversation.createdAt with
    | .ok micros => .ok (decide (micros < s.welcomeMicros))
    | .error e => .error (.badKind e.message)
  | .idleAi =>
    if r.reply == .ai && r.threshold.isSome then thresholdMet r s.conversation s.now
    else .ok false
  | _ => .ok true

/-- The roles in the order they are tried. -/
def order : List Tag := [.outOfHours, .noAgent, .welcome, .idleAi, .fallback]

/-- The rule that answers, if any. -/
def choose (s : Situation) : Except Fault (Option Rule) := do
  for tag in order do
    match s.settings.rule? tag true with
    | some r => if ← passes s tag r then return some r
    | none => pure ()
  for r in s.settings.rules do
    if !r.enabled || !r.hasContent then continue
    if r.reply == .ai then
      if !(← thresholdMet r s.conversation s.now) then continue
    return some r
  return none

end Resolve

end Autoresponder
