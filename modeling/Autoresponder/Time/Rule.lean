import Autoresponder.Time.Civil

/-!
# Zone rules in POSIX form

A rule such as `EST5EDT,M3.2.0,M11.1.0` gives a standard offset and, optionally, a
daylight-saving offset with the two dates and wall times at which it starts and ends. The
offsets in the text count hours west of Greenwich; here they are turned into seconds east.
-/

namespace Autoresponder.Time

/-- A day of the year on which a switch happens. -/
inductive SwitchDay where
  /-- Day `n` of the year, 1 to 365, never counting 29 February. -/
  | julian (n : Nat)
  /-- Day `n` of the year, counting 29 February; zone readers count it from 1 as well, so
  day 0 is the last day of the year before. -/
  | ordinal (n : Nat)
  /-- Weekday `d` (0 is Sunday) of week `w` (5 is the last) of month `m`. -/
  | monthWeek (m w d : Nat)

/-- A switch: the day and the wall time (seconds, may exceed a day or be negative). -/
structure Switch where
  day : SwitchDay
  time : Int

/-- A zone rule: standard offset, and daylight-saving offset with its switches. -/
structure ZoneRule where
  std : Int
  dst : Option (Int × Switch × Switch)

/-- The day number of a switch day in a year. -/
def SwitchDay.days (y : Int) : SwitchDay → Int
  | .julian n =>
    let base := daysOfCivil y 1 1 - 1 + (n : Int)
    if isLeap y && n ≥ 59 then base + 1 else base
  | .ordinal n => daysOfCivil y 1 1 - 1 + n
  | .monthWeek m w d =>
    let first := daysOfCivil y m 1
    -- weekday with Sunday as 0
    let wdFirst := (weekdayOfDays first + 1) % 7
    let firstD := first + ((d + 7 - wdFirst) % 7 : Nat)
    let candidate := firstD + 7 * ((w : Int) - 1)
    let last := first + monthLength y m - 1
    if candidate > last then candidate - 7 * ((candidate - last + 6) / 7) else candidate

/-- The wall-clock second (counted from 1970 in local time) at which a switch happens. -/
def Switch.wallSecond (s : Switch) (y : Int) : Int := s.day.days y * 86400 + s.time

/-! ## Reading rules -/

/-- Reads a zone name: letters, or any text in angle brackets. -/
def readZoneName (cs : List Char) : Option (List Char) :=
  match cs with
  | '<' :: rest =>
    let body := rest.takeWhile (· != '>')
    if body.length == rest.length then none else some (rest.drop (body.length + 1))
  | _ =>
    let name := cs.takeWhile Char.isAlpha
    if name.length < 3 then none else some (cs.drop name.length)

/-- Reads digits as a number. -/
def readNat (cs : List Char) : Option (Nat × List Char) :=
  let ds := cs.takeWhile Char.isDigit
  if ds.isEmpty then none
  else some (ds.foldl (fun a c => a * 10 + (c.toNat - '0'.toNat)) 0, cs.drop ds.length)

/-- Reads `[+-]hh[:mm[:ss]]` as signed seconds. -/
def readClock (cs : List Char) : Option (Int × List Char) := do
  let (neg, cs) := match cs with
    | '-' :: r => (true, r)
    | '+' :: r => (false, r)
    | r => (false, r)
  let (h, cs) ← readNat cs
  let (m, cs) ← match cs with
    | ':' :: r => readNat r
    | r => some (0, r)
  let (s, cs) ← match cs with
    | ':' :: r => readNat r
    | r => some (0, r)
  let total : Int := h * 3600 + m * 60 + s
  return (if neg then -total else total, cs)

/-- Reads a switch: a day form and an optional `/time` (two o'clock by default). -/
def readSwitch (cs : List Char) : Option (Switch × List Char) := do
  let (day, cs) ← match cs with
    | 'J' :: r => (readNat r).map fun (n, r) => (SwitchDay.julian n, r)
    | 'M' :: r => do
      let (m, r) ← readNat r
      let r ← match r with | '.' :: r => some r | _ => none
      let (w, r) ← readNat r
      let r ← match r with | '.' :: r => some r | _ => none
      let (d, r) ← readNat r
      pure (SwitchDay.monthWeek m w d, r)
    | r => (readNat r).map fun (n, r) => (SwitchDay.ordinal n, r)
  let (time, cs) ← match cs with
    | '/' :: r => readClock r
    | r => some (7200, r)
  return (⟨day, time⟩, cs)

/-- Reads a whole rule. -/
def ZoneRule.read? (text : String) : Option ZoneRule := do
  let cs ← readZoneName text.toList
  let (stdWest, cs) ← readClock cs
  let std := -stdWest
  if cs.isEmpty then return ⟨std, none⟩
  let cs ← readZoneName cs
  let (dst, cs) ← match cs with
    | ',' :: _ => some (std + 3600, cs)
    | _ => (readClock cs).map fun (w, r) => (-w, r)
  let cs ← match cs with | ',' :: r => some r | _ => none
  let (start, cs) ← readSwitch cs
  let cs ← match cs with | ',' :: r => some r | _ => none
  let (stop, cs) ← readSwitch cs
  if !cs.isEmpty then none
  return ⟨std, some (dst, start, stop)⟩

/-! ## Offsets -/

/-- Whether daylight saving is on, given the year's start and end seconds and a second. -/
def inWindow (start stop t : Int) : Bool :=
  if start < stop then start ≤ t && t < stop else !(stop ≤ t && t < start)

/-- The offset (seconds east) at a UTC second, and whether the wall time it gives is the
second reading of a fold; `year` is the UTC year of that second. The fold lasts one
daylight-saving difference from the switch back to the earlier offset. -/
def ZoneRule.fromUtc (r : ZoneRule) (year : Int) (t : Int) : Int × Bool :=
  match r.dst with
  | none => (r.std, false)
  | some (dst, start, stop) =>
    let diff := dst - r.std
    let s := start.wallSecond year - r.std
    let e := stop.wallSecond year - dst
    let (foldStart, foldEnd) := if diff > 0 then (e, e + diff) else (s, s - diff)
    (if inWindow s e t then dst else r.std, decide (foldStart ≤ t ∧ t < foldEnd))

/-- The offset (seconds east) of a local wall second; `year` is its local year. In the first
reading a wall time in a gap takes the offset from before the gap and one in a fold the
offset before the fold; the second reading takes the offsets after them. -/
def ZoneRule.atWall (r : ZoneRule) (year : Int) (t : Int) (second : Bool) : Int :=
  match r.dst with
  | none => r.std
  | some (dst, start, stop) =>
    let diff := dst - r.std
    let s := start.wallSecond year
    let e := stop.wallSecond year
    let (s, e) := if second == decide (diff ≥ 0) then (s, e - diff) else (s + diff, e)
    if inWindow s e t then dst else r.std

end Autoresponder.Time
