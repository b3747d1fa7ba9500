import Autoresponder.Time.Civil
import Autoresponder.Time.Rule
import Autoresponder.Time.Zones

/-!
# Time stamps

A stamp is a wall-clock date and time to the microsecond, with an offset from UTC in
seconds or none (a naive stamp). Two aware stamps compare by the instant they denote, two
naive ones by their wall time; an aware and a naive stamp neither compare nor subtract.
Years run from 1 to 9999.
-/

namespace Autoresponder.Time

/-- Microseconds in a day. -/
def microsPerDay : Nat := 86400000000

/-- A date and time with an optional offset (seconds east of UTC). -/
structure Stamp where
  day : Int
  micro : Nat
  offset : Option Int
  deriving Inhabited, BEq

/-- Why two stamps could not be compared or subtracted, or a stamp could not be built. -/
inductive TimeError where
  | mixedCompare
  | mixedSubtract
  | outOfRange
  | yearOutOfRange (year : Int)
  | timestampTooLarge
  | calendarTooLarge

/-- The message of a time error. -/
def TimeError.message : TimeError → String
  | .mixedCompare => "can't compare offset-naive and offset-aware datetimes"
  | .mixedSubtract => "can't subtract offset-naive and offset-aware datetimes"
  | .outOfRange => "date value out of range"
  | .yearOutOfRange y => "year " ++ toString y ++ " is out of range"
  | .timestampTooLarge => "timestamp out of range for platform time_t"
  | .calendarTooLarge => "[Errno 75] Value too large for defined data type"

namespace Stamp

/-- Wall-clock microseconds since 1970-01-01. -/
def wall (s : Stamp) : Int := s.day * microsPerDay + s.micro

/-- A stamp from wall-clock microseconds and an offset. -/
def ofWall (w : Int) (offset : Option Int) : Stamp :=
  ⟨w / microsPerDay, (w % microsPerDay).toNat, offset⟩

/-- Microseconds since 1970-01-01 UTC (for a naive stamp, its wall time). -/
def instant (s : Stamp) : Int := s.wall - (s.offset.getD 0) * 1000000

/-- The civil date. -/
def date (s : Stamp) : Int × Nat × Nat := civilOfDays s.day

/-- The year. -/
def year (s : Stamp) : Int := s.date.1

/-- Hour, minute, second and microsecond of the wall time. -/
def clock (s : Stamp) : Nat × Nat × Nat × Nat :=
  let secs := s.micro / 1000000
  (secs / 3600, secs / 60 % 60, secs % 60, s.micro % 1000000)

/-- The weekday, 0 for Monday. -/
def weekday (s : Stamp) : Nat := weekdayOfDays s.day

/-- Whether the year lies in 1 to 9999. -/
def inRange (s : Stamp) : Bool := 1 ≤ s.year && s.year ≤ 9999

/-- A stamp from civil fields, if they are valid. -/
def ofCivil? (y : Int) (mo d h mi sec us : Nat) (offset : Option Int) : Option Stamp :=
  if y < 1 || y > 9999 || mo < 1 || mo > 12 || d < 1 || d > monthLength y mo
      || h > 23 || mi > 59 || sec > 59 || us > 999999 then none
  else some ⟨daysOfCivil y mo d, ((h * 60 + mi) * 60 + sec) * 1000000 + us, offset⟩

/-- A year as a signed 32-bit calendar field reports it. -/
def wrapYear (y : Int) : Int := (y + Int.pow 2 31) % Int.pow 2 32 - Int.pow 2 31

/-- The UTC stamp of a count of seconds since 1970-01-01. Counts from 2^63 on do not fit
the system's time type; years whose offset from 1900 does not fit 32 bits cannot be held
in a calendar record; other years past 9999 are out of range, reported as a 32-bit field
holds them. -/
def ofEpochSeconds (t : Nat) : Except TimeError Stamp :=
  if t ≥ Nat.pow 2 63 then .error .timestampTooLarge
  else
    let s : Stamp := ⟨(t / 86400 : Nat), (t % 86400) * 1000000, some 0⟩
    if s.year - 1900 > Int.pow 2 31 - 1 then .error .calendarTooLarge
    else if s.year > 9999 then .error (.yearOutOfRange (wrapYear s.year))
    else .ok s

/-- Moves a stamp by a number of microseconds, keeping its offset. -/
def shift (s : Stamp) (micros : Int) : Except TimeError Stamp :=
  let t := ofWall (s.wall + micros) s.offset
  if t.inRange then .ok t else .error .outOfRange

/-- Orders two stamps; an aware and a naive one have no order. -/
def cmp (a b : Stamp) : Except TimeError Ordering :=
  match a.offset, b.offset with
  | some _, some _ => .ok (compare a.instant b.instant)
  | none, none => .ok (compare a.wall b.wall)
  | _, _ => .error .mixedCompare

/-- The microseconds from `b` to `a`. -/
def diff (a b : Stamp) : Except TimeError Int :=
  match a.offset, b.offset with
  | some _, some _ => .ok (a.instant - b.instant)
  | none, none => .ok (a.wall - b.wall)
  | _, _ => .error .mixedSubtract

/-- The same instant as wall time in a zone, shown with the offset the zone gives that wall
time in the reading the instant falls in. A naive stamp is taken as UTC. The instant at UTC
and the wall time must both lie in years 1 to 9999. -/
def inZone (s : Stamp) (z : Zone) : Except TimeError Stamp := do
  let t := s.instant
  let utc := ofWall t none
  if !utc.inRange then throw .outOfRange
  let (off, second) := z.fromUtc utc.year (t / 1000000)
  let wallTime := ofWall (t + off * 1000000) none
  if !wallTime.inRange then throw .outOfRange
  let shown := z.atWall wallTime.year (wallTime.wall / 1000000) second
  return { wallTime with offset := some shown }

/-- The same wall time, now read as wall time in a zone, in the first reading. -/
def placeIn (s : Stamp) (z : Zone) : Stamp :=
  { s with offset := some (z.atWall s.year (s.wall / 1000000) false) }

/-- The same instant as wall time at UTC. -/
def toUtc (s : Stamp) : Stamp := ofWall s.instant (some 0)

/-! ## Text -/

/-- Decimal text of `n` padded with zeros to `width`. -/
def pad (width n : Nat) : String :=
  let ds := Nat.toDigits 10 n
  String.ofList (List.replicate (width - ds.length) '0' ++ ds)

/-- `±HH:MM`, with `:SS` when the offset has seconds. -/
def offsetText (off : Int) : String :=
  let a := off.natAbs
  let base := (if off < 0 then "-" else "+") ++ pad 2 (a / 3600) ++ ":" ++ pad 2 (a / 60 % 60)
  if a % 60 == 0 then base else base ++ ":" ++ pad 2 (a % 60)

/-- Date and time without offset: `YYYY-MM-DDTHH:MM:SS`, then `.ffffff` when the
microseconds are not zero. -/
def localText (s : Stamp) : String :=
  let (y, mo, d) := s.date
  let (h, mi, sec, us) := s.clock
  pad 4 y.toNat ++ "-" ++ pad 2 mo ++ "-" ++ pad 2 d ++ "T" ++ pad 2 h ++ ":" ++ pad 2 mi ++ ":" ++
    pad 2 sec ++ (if us == 0 then "" else "." ++ pad 6 us)

/-- ISO text with a numeric offset for aware stamps: `2026-10-19T12:00:00+00:00`. -/
def isoText (s : Stamp) : String :=
  s.localText ++ match s.offset with
    | some off => offsetText off
    | none => ""

/-- ISO text as records are written: like `isoText`, but UTC is written `Z`. -/
def recordText (s : Stamp) : String :=
  s.localText ++ match s.offset with
    | some 0 => "Z"
    | some off => offsetText off
    | none => ""

/-- `HH:MM` of the wall time. -/
def hourMinute (s : Stamp) : String :=
  let (h, mi, _, _) := s.clock
  pad 2 h ++ ":" ++ pad 2 mi

/-! ## Reading -/

/-- Reads exactly `n` ASCII digits. -/
def digitsN (n : Nat) (cs : List Char) : Option (Nat × List Char) :=
  let ds := cs.take n
  if ds.length == n && ds.all Char.isDigit then
    some (ds.foldl (fun a c => a * 10 + (c.toNat - '0'.toNat)) 0, cs.drop n)
  else none

/-- Reads a calendar date `YYYY-MM-DD`: any four-digit year (zero included), a month from
1 to 12 and a day within the month; the rest of the text follows it. -/
def readDate (cs : List Char) : Option ((Nat × Nat × Nat) × List Char) := do
  let (y, cs) ← digitsN 4 cs
  let cs ← match cs with | '-' :: r => some r | _ => none
  let (mo, cs) ← digitsN 2 cs
  let cs ← match cs with | '-' :: r => some r | _ => none
  let (d, cs) ← digitsN 2 cs
  if mo < 1 || mo > 12 || d < 1 || d > monthLength y mo then none
  else some ((y, mo, d), cs)

/-- Reads `HH:MM`, then optionally `:SS` and a fraction after `.` or `,` (digits past the
sixth are dropped): hours, minutes, seconds and microseconds, and what follows. Hours run
to 23, minutes and seconds to 59. -/
def readClock (cs : List Char) : Option ((Nat × Nat × Nat × Nat) × List Char) := do
  let (h, cs) ← digitsN 2 cs
  let cs ← match cs with | ':' :: r => some r | _ => none
  let (mi, cs) ← digitsN 2 cs
  if h > 23 || mi > 59 then none
  match cs with
  | ':' :: r =>
    let (sec, r) ← digitsN 2 r
    if sec > 59 then none
    match r with
    | c :: r2 =>
      if c == '.' || c == ',' then
        let frac := r2.takeWhile Char.isDigit
        if frac.isEmpty then none
        let six := (frac ++ List.replicate 6 '0').take 6
        let us := six.foldl (fun a d => a * 10 + (d.toNat - '0'.toNat)) 0
        some ((h, mi, sec, us), r2.drop frac.length)
      else some ((h, mi, sec, 0), c :: r2)
    | [] => some ((h, mi, sec, 0), [])
  | _ => some ((h, mi, 0, 0), cs)

/-- Reads the end of a date-time: nothing (a naive stamp), `Z`, or a sign with `HH:MM` or
`HHMM` of less than 24 hours, and nothing after it. -/
def readOffset (cs : List Char) : Option (Option Int) :=
  match cs with
  | [] => some none
  | ['Z'] | ['z'] => some (some 0)
  | c :: rest =>
    if c != '+' && c != '-' then none
    else do
      let (h, rest) ← digitsN 2 rest
      let rest := match rest with
        | ':' :: r => r
        | r => r
      let (m, rest) ← digitsN 2 rest
      if !rest.isEmpty || h > 23 || m > 59 then none
      let v : Int := h * 3600 + m * 60
      some (some (if c == '-' then -v else v))

/-- The parts of a date-time text: a date, a separator (`T`, `t`, `_` or a blank), a
clock and an offset. -/
structure Parts where
  year : Nat
  month : Nat
  day : Nat
  clock : Nat × Nat × Nat × Nat
  offset : Option Int

/-- Reads a date-time text into its parts. -/
def readParts (text : String) : Option Parts := do
  let ((y, mo, d), cs) ← readDate text.toList
  let cs ← match cs with
    | c :: r => if c == 'T' || c == 't' || c == ' ' || c == '_' then some r else none
    | [] => none
  let (clock, cs) ← readClock cs
  let off ← readOffset cs
  some ⟨y, mo, d, clock, off⟩

/-- Reads a date alone, `YYYY-MM-DD` with nothing after it. -/
def readDateOnly (text : String) : Option (Nat × Nat × Nat) :=
  match readDate text.toList with
  | some (ymd, []) => some ymd
  | _ => none

/-- The stamp of date-time parts, if the year is from 1 on. -/
def ofParts? (f : Parts) : Option Stamp :=
  let (h, mi, sec, us) := f.clock
  ofCivil? f.year f.month f.day h mi sec us f.offset

/-- Seconds since 1970 from which stamps are accepted: the start of year 1600. -/
def earliestSecond : Int := -11676096000

/-- Seconds since 1970 before which stamps are accepted: the start of year 10000. -/
def endSecond : Int := 253402300800

/-- Counts above this magnitude are milliseconds rather than seconds. -/
def millisecondLimit : Nat := 20000000000

/-- The UTC stamp of a count since 1970 plus some microseconds. A count of magnitude past
`millisecondLimit` is in milliseconds. Only years 1600 to 9999 are accepted. -/
def ofCount? (t : Int) (extra : Nat) : Option Stamp :=
  let (secs, micro) : Int × Nat :=
    if t.natAbs ≤ millisecondLimit then (t, 0) else (t / 1000, (t % 1000).toNat * 1000)
  let total := micro + extra
  let secs := secs + (total / 1000000 : Nat)
  let micro := total % 1000000
  if secs < earliestSecond || secs ≥ endSecond then none
  else some ⟨secs / 86400, (secs % 86400).toNat * 1000000 + micro, some 0⟩

/-- Reads a whole number: an optional sign, then ASCII digits, whose magnitude fits in 63
bits. -/
def readCount? (text : String) : Option Int :=
  let (neg, cs) := match text.toList with
    | '-' :: r => (true, r)
    | '+' :: r => (false, r)
    | r => (false, r)
  if cs.isEmpty || !cs.all Char.isDigit then none
  else
    let n := cs.foldl (fun a d => a * 10 + (d.toNat - '0'.toNat)) 0
    if n ≥ Nat.pow 2 63 then none else some (if neg then -(n : Int) else n)

end Stamp

end Autoresponder.Time
