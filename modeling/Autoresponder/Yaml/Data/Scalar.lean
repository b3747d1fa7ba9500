import Autoresponder.Number.Text
import Autoresponder.Text.Base64
import Autoresponder.Text.Encode
import Autoresponder.Yaml.Data
import Autoresponder.Yaml.Mark

/-!
# Values of scalars

How the text of a scalar becomes a value under each standard tag.

* A flag is one of `yes`, `true`, `on` and `no`, `false`, `off`, in any case.
* An integer drops its underscores and takes an optional sign; then `0` is zero, `0b` starts
  binary digits, `0x` hexadecimal ones, another leading `0` octal ones, and `:` separates
  base-60 places; anything else is decimal. Each part is read as whole-number text is read, so
  blank space around a part and digits of any script are allowed.
* A float drops its underscores, is taken in lower case and takes an optional sign; `.inf`
  and `.nan` are infinity and NaN, `:` separates base-60 places (summed as floats), and
  anything else is read as float text is read.
* Binary data is base64 text, which must be ASCII.
* A date is `yyyy-m-d`, and a date-time adds `h:mm:ss`, an optional fraction (its first six
  digits are the microseconds) and an optional zone `Z` or `±h[:mm]`, after `T`, `t` or blanks.
  The fields must make a real date and time, and a zone must be less than a day from UTC.

The number parts of an empty text do not exist, which fails as looking past the end of a text
fails.
-/

namespace Autoresponder.Yaml

open Autoresponder.Number

/-- The flag a text spells, in any case. -/
def flagOf (text : String) : Except Failure Atom :=
  let word := Text.lower text
  if word == "yes" || word == "true" || word == "on" then .ok (.bool true)
  else if word == "no" || word == "false" || word == "off" then .ok (.bool false)
  else .error (.noFlag word)

/-- A text as a quoted value in messages, cut to 200 characters. -/
def quotedCut (s : String) : String := String.ofList ((quoteText s).toList.take 200)

/-- The whole number of a text in a base, or why it is not one. -/
def wholeIn (base : Nat) (s : String) : Except Failure Int :=
  match readWholeIn base s with
  | .value n => .ok n
  | .tooLong d => .error (.badValue ("Exceeds the limit (" ++ toString maxWholeDigits ++
      " digits) for integer string conversion: value has " ++ toString d ++
      " digits; use sys.set_int_max_str_digits() to increase the limit"))
  | .invalid => .error (.badValue ("invalid literal for int() with base " ++ toString base ++
      ": " ++ quotedCut s))

/-- A text with its sign taken off: whether it was a minus, and the rest. An empty text has
no first character to look at. -/
def takeSign (cs : List Char) : Except Failure (Bool × List Char) :=
  match cs with
  | [] => .error .noCharacter
  | '-' :: rest => .ok (true, rest)
  | '+' :: rest => .ok (false, rest)
  | rest => .ok (false, rest)

/-- The integer a text spells. -/
def intOf (text : String) : Except Failure Atom := do
  let (neg, body) ← takeSign (text.toList.filter (· != '_'))
  let sign (n : Int) : Int := if neg then -n else n
  let rest := String.ofList (body.drop 2)
  match body with
  | ['0'] => return .int 0
  | '0' :: 'b' :: _ => return .int (sign (← wholeIn 2 rest))
  | '0' :: 'x' :: _ => return .int (sign (← wholeIn 16 rest))
  | '0' :: _ => return .int (sign (← wholeIn 8 (String.ofList body)))
  | [] => throw .noCharacter
  | _ =>
    if body.contains ':' then
      let parts ← ((String.ofList body).splitOn ":").mapM (wholeIn 10)
      let total := parts.foldl (fun acc d => acc * 60 + d) 0
      return .int (sign total)
    else return .int (sign (← wholeIn 10 (String.ofList body)))

/-- The float of a text read as float text is read. -/
def floatText? (s : String) : Except Failure Float :=
  match readFloat? s with
  | some x => .ok x
  | none => .error (.badValue ("could not convert string to float: " ++ quoteText s))

/-- The least whole number that rounds to infinity as a float. -/
def floatOverflowBound : Nat := Nat.pow 2 1024 - Nat.pow 2 970

/-- Sums base-60 places given from the last: each place is worth sixty times the one after
it, and the place values are floats, so a place value that rounds to infinity cannot be
used. -/
def sumPlaces (places : List Float) : Except Failure Float := do
  let mut total : Float := 0.0
  let mut unit : Nat := 1
  for d in places do
    if unit ≥ floatOverflowBound then throw .tooLarge
    total := total + d * Float.ofNat unit
    unit := unit * 60
  return total

/-- The float a text spells, and whether it is the NaN that `.nan` stands for (the one NaN
value every `.nan` shares). -/
def floatOf (text : String) : Except Failure (Atom × Bool) := do
  let cs := (Text.lower (String.ofList (text.toList.filter (· != '_')))).toList
  let (neg, body) ← takeSign cs
  let sign : Float := if neg then -1.0 else 1.0
  let word := String.ofList body
  if word == ".inf" then return (.float (sign * (1.0 / 0.0)), false)
  if word == ".nan" then return (.float (0.0 / 0.0), true)
  if body.contains ':' then
    let parts ← (word.splitOn ":").mapM floatText?
    return (.float (sign * (← sumPlaces parts.reverse)), false)
  return (.float (sign * (← floatText? word)), false)

/-- The bytes of base64 text, or why there are none. -/
def bytesOf (text : String) : Except String (List Nat) :=
  match Text.asciiRefusal text with
  | some why => .error ("failed to convert base64 data into ascii: " ++ why)
  | none =>
    match Text.decodeBase64 (text.toList.map Char.toNat) with
    | .ok bs => .ok bs
    | .error why => .error ("failed to decode base64 data: " ++ why)

/-! ## Dates and date-times -/

/-- The fields of a date-time text: date, then the time, fraction and zone when present. -/
structure StampFields where
  year : Nat
  month : Nat
  day : Nat
  time : Option (Nat × Nat × Nat)
  fraction : List Char
  /-- A zone offset as sign, hours and minutes; or `Z`. -/
  zone : Option (Option (Bool × Nat × Nat))

/-- The value of ASCII digits. -/
def digitsValue (cs : List Char) : Nat := cs.foldl (fun n c => n * 10 + (c.toNat - '0'.toNat)) 0

/-- Reads one digit and perhaps a second. -/
def digitRun12 (cs : List Char) : Option (List Char × List Char) :=
  match cs with
  | a :: b :: rest =>
    if !a.isDigit then none else if b.isDigit then some ([a, b], rest) else some ([a], b :: rest)
  | [a] => if a.isDigit then some ([a], []) else none
  | [] => none

/-- Reads exactly `n` digits. -/
def digitRunN (n : Nat) (cs : List Char) : Option (List Char × List Char) :=
  if cs.length ≥ n && (cs.take n).all Char.isDigit then some (cs.take n, cs.drop n) else none

/-- Reads a character. -/
def expectChar (c : Char) : List Char → Option (List Char)
  | d :: rest => if d == c then some rest else none
  | [] => none

/-- Reads the zone of a date-time: blanks, then `Z` or a signed offset, to the end. -/
def zoneFields (cs : List Char) : Option (Option (Bool × Nat × Nat)) := do
  let cs := cs.dropWhile fun c => c == ' ' || c == '\t'
  match cs with
  | ['Z'] => some none
  | s :: rest =>
    if s != '-' && s != '+' then none
    else
      let (h, rest) ← digitRun12 rest
      match rest with
      | [] => some (some (s == '-', digitsValue h, 0))
      | ':' :: more =>
        let (m, rest) ← digitRunN 2 more
        if rest.isEmpty then some (some (s == '-', digitsValue h, digitsValue m)) else none
      | _ => none
  | [] => none

/-- Reads the time part of a date-time after the date. -/
def timeFields (cs : List Char) : Option ((Nat × Nat × Nat) × List Char × Option (Option (Bool × Nat × Nat))) := do
  let cs ← match cs with
    | 'T' :: r => some r
    | 't' :: r => some r
    | c :: r =>
      if c == ' ' || c == '\t' then some (r.dropWhile fun c => c == ' ' || c == '\t') else none
    | [] => none
  let (h, cs) ← digitRun12 cs
  let cs ← expectChar ':' cs
  let (mi, cs) ← digitRunN 2 cs
  let cs ← expectChar ':' cs
  let (s, cs) ← digitRunN 2 cs
  let (fraction, cs) := match cs with
    | '.' :: r => (r.takeWhile Char.isDigit, r.dropWhile Char.isDigit)
    | r => ([], r)
  let zone ← if cs.isEmpty then some none else (zoneFields cs).map some
  return ((digitsValue h, digitsValue mi, digitsValue s), fraction, zone)

/-- Reads a date-time text to its end. -/
def stampFieldsExact (cs : List Char) : Option StampFields := do
  let (y, cs) ← digitRunN 4 cs
  let cs ← expectChar '-' cs
  let (m, cs) ← digitRun12 cs
  let cs ← expectChar '-' cs
  let (d, cs) ← digitRun12 cs
  if cs.isEmpty then
    return ⟨digitsValue y, digitsValue m, digitsValue d, none, [], none⟩
  let (time, fraction, zone) ← timeFields cs
  return ⟨digitsValue y, digitsValue m, digitsValue d, some time, fraction, zone⟩

/-- Reads a date-time text, which may end in one line feed. -/
def stampFields (text : String) : Option StampFields :=
  let cs := text.toList
  match stampFieldsExact cs with
  | some f => some f
  | none => if cs.getLast? == some '\n' then stampFieldsExact cs.dropLast else none

/-- The text of a duration of whole seconds as a duration object shows it. -/
def durationRepr (seconds : Int) : String :=
  let days := seconds / 86400
  let rest := seconds % 86400
  let parts := (if days != 0 then ["days=" ++ toString days] else []) ++
    (if rest != 0 then ["seconds=" ++ toString rest] else [])
  "datetime.timedelta(" ++ (if parts.isEmpty then "0" else ", ".intercalate parts) ++ ")"

/-- Checks a date's fields. -/
def checkDate (y m d : Nat) : Except Failure Unit := do
  if y < 1 || y > 9999 then throw (.badValue ("year " ++ toString y ++ " is out of range"))
  if m < 1 || m > 12 then throw (.badValue "month must be in 1..12")
  if d < 1 || d > Time.monthLength y m then throw (.badValue "day is out of range for month")

/-- The date or date-time a text spells. -/
def timestampOf (text : String) : Except Failure Atom := do
  let some f := stampFields text | throw .noMatch
  match f.time with
  | none =>
    checkDate f.year f.month f.day
    return .date f.year f.month f.day
  | some (h, mi, s) =>
    let digits := f.fraction.take 6
    let micro := digitsValue (digits ++ List.replicate (6 - digits.length) '0')
    let offset ← match f.zone with
      | none => pure none
      | some none => pure (some 0)
      | some (some (neg, zh, zm)) =>
        let secs : Int := (zh * 3600 + zm * 60 : Nat)
        let secs := if neg then -secs else secs
        if secs ≤ -86400 || secs ≥ 86400 then
          throw (.badValue ("offset must be a timedelta strictly between -timedelta(hours=24) " ++
            "and timedelta(hours=24), not " ++ durationRepr secs ++ "."))
        pure (some secs)
    checkDate f.year f.month f.day
    if h > 23 then throw (.badValue "hour must be in 0..23")
    if mi > 59 then throw (.badValue "minute must be in 0..59")
    if s > 59 then throw (.badValue "second must be in 0..59")
    match Time.Stamp.ofCivil? f.year f.month f.day h mi s micro offset with
    | some st => return .stamp st
    | none => throw (.badValue "date value out of range")

end Autoresponder.Yaml
