import Autoresponder.Rule.Settings
import Autoresponder.Time.Stamp

/-!
# Working hours

The schedule holds wall-clock `HH:MM` texts with no zone. A zone name, when given, says
where the wall clock hangs; without one the server's clock is used, which runs at UTC.
The window of a day is inclusive at both ends and never wraps past midnight, and the
comparison is on the `HH:MM` texts. Holiday mode always closes.
-/

namespace Autoresponder

open Autoresponder.Time

namespace Hours

/-- The zone of a zone name, or the fault for a name that is no path to a zone file, names a
file that holds no zone, or names no known zone. -/
def zoneOf (key : String) : Except Fault Zone :=
  match keyRefusal key with
  | some why => .error (.badValue why)
  | none => match lookupZone key with
    | .found z => .ok z
    | .notZoneFile => .error (.badValue "Invalid TZif file: magic not found")
    | .missing => .error (.unknownZone key)

/-- The wall-clock time to compare with the schedule. `clock` is the current instant (as
UTC), used when no time is given. A naive time given with a zone is read as wall time in
that zone; without a zone an aware time is moved to the server's zone (UTC). -/
def localNow (zone : Option String) (now : Option Stamp) (clock : Stamp) : Except Fault Stamp :=
  match zone.filter (!·.isEmpty) with
  | some key => do
    let z ← zoneOf key
    match now with
    | none => (clock.inZone z).mapError Fault.ofTime
    | some t => if t.offset.isSome then (t.inZone z).mapError Fault.ofTime else return t.placeIn z
  | none =>
    match now with
    | none => .ok { clock.toUtc with offset := none }
    | some t => .ok (if t.offset.isSome then t.toUtc else t)

/-- The schedule entry of a weekday, matched by name ignoring case and outer blank space. -/
def scheduleFor (s : Settings) (weekday : String) : Option DayHours :=
  s.workingHours.find? fun d => Text.lower (Text.trim d.day) == Text.lower weekday

/-- Whether the time falls inside the open window of its day. -/
def isWorking (s : Settings) (zone : Option String) (now : Option Stamp) (clock : Stamp) :
    Except Fault Bool :=
  if s.holidayMode then .ok false
  else do
    let current ← localNow zone now clock
    let name := weekdayNames.getD current.weekday ""
    match scheduleFor s name with
    | none => return false
    | some today =>
      if !today.isOpen then return false
      let hhmm := current.hourMinute
      return decide (today.startTime ≤ hhmm) && decide (hhmm ≤ today.endTime)

end Hours

end Autoresponder
