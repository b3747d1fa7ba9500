import Autoresponder.Data.Value
import Autoresponder.Data.Show
import Autoresponder.Number.Text
import Autoresponder.Data.Json
import Autoresponder.Time.Stamp

/-!
# Checking records

Records arrive as dynamic objects and are checked field by field. Every field is looked up
under its camelCase name first and its snake_case name second; a failed check reports the
key it was found under (or the camelCase name when the field is missing), the kind of
failure and a message. All fields are checked and all failures reported, in field order.

The conversions are lenient in fixed ways: a flag also reads `0`, `1` and words such as
`yes` and `off`; a whole number also reads a whole float or a decimal text; a real number
also reads an integer or a decimal text. A text field takes only texts.
-/

namespace Autoresponder

open Autoresponder.Number Autoresponder.Time

/-- A step on the path to a checked value: an object key or a list position. -/
inductive Step where
  | key (name : String)
  | index (i : Nat)
  deriving Inhabited

/-- A step written as text: the key, or the position in decimal. -/
def Step.text : Step → String
  | .key name => name
  | .index i => natText i

/-- A step as a value: the key as a text, the position as an integer. -/
def Step.toValue : Step → Value
  | .key name => .str name
  | .index i => .int i

/-- One failed check: the path to the field, the kind of failure and its message. -/
structure Issue where
  loc : List Step
  kind : String
  msg : String
  deriving Inhabited

/-- A failure as a record of where it is and what kind it is. -/
def Issue.toValue (e : Issue) : Value :=
  .dict [("loc", .list (e.loc.map Step.toValue)), ("type", .str e.kind)]

/-- The result of a check: the value, or every failure found. -/
abbrev Checked (α : Type) := Except (List Issue) α

namespace Checked

/-- The failures of a check, none if it passed. -/
def issues {α : Type} : Checked α → List Issue
  | .ok _ => []
  | .error es => es

/-- The checked value, or a stand-in when the check failed. -/
def getD {α : Type} (c : Checked α) (d : α) : α :=
  match c with
  | .ok a => a
  | .error _ => d

/-- Places the failures of a check under a step. -/
def within {α : Type} (step : Step) (c : Checked α) : Checked α :=
  match c with
  | .ok a => .ok a
  | .error es => .error (es.map fun e => { e with loc := step :: e.loc })

/-- Places the failures of a check under a key. -/
def under {α : Type} (key : String) (c : Checked α) : Checked α := within (.key key) c

/-- Places the failures of a check under a list position. -/
def atIndex {α : Type} (i : Nat) (c : Checked α) : Checked α := within (.index i) c

/-- A failure at the current place. -/
def fail {α : Type} (kind msg : String) : Checked α := .error [⟨[], kind, msg⟩]

end Checked

namespace Check

/-- A text; nothing else is turned into one. -/
def text : Value → Checked String
  | .str s => .ok s
  | _ => Checked.fail "string_type" "Input should be a valid string"

/-- The words a flag reads as false and as true (letters in any case). -/
def falseWords : List String := ["0", "f", "n", "no", "off", "false"]

/-- See `falseWords`. -/
def trueWords : List String := ["1", "t", "y", "on", "yes", "true"]

/-- A flag: a boolean, `0` or `1`, or one of the flag words. -/
def flag : Value → Checked Bool
  | .bool b => .ok b
  | .int 0 => .ok false
  | .int 1 => .ok true
  | .int _ => Checked.fail "bool_parsing" "Input should be a valid boolean, unable to interpret input"
  | .float x =>
    if x == 0.0 then .ok false else if x == 1.0 then .ok true
    else match decode x with
      | some d => if d.isWhole then
          Checked.fail "bool_parsing" "Input should be a valid boolean, unable to interpret input"
        else Checked.fail "bool_type" "Input should be a valid boolean"
      | none => Checked.fail "bool_type" "Input should be a valid boolean"
  | .str s =>
    let w := String.ofList (s.toList.map Char.toLower)
    if falseWords.contains w then .ok false
    else if trueWords.contains w then .ok true
    else Checked.fail "bool_parsing" "Input should be a valid boolean, unable to interpret input"
  | _ => Checked.fail "bool_type" "Input should be a valid boolean"

/-- Blank space as number texts are trimmed: Unicode white space. -/
def isNumberBlank (c : Char) : Bool :=
  Text.isBlank c && !(0x1C ≤ c.toNat && c.toNat ≤ 0x1F)

/-- Trims number text. -/
def trimNumber (s : String) : List Char :=
  ((s.toList.dropWhile isNumberBlank).reverse.dropWhile isNumberBlank).reverse

/-- The number text without its underscores, unless one leads, trails or doubles. -/
def dropUnderscores (cs : List Char) : Option (List Char) :=
  if cs.head? == some '_' || cs.getLast? == some '_' ||
      (cs.zip (cs.drop 1)).any (fun (a, b) => a == '_' && b == '_') then none
  else some (cs.filter (· != '_'))

/-- The value of a run of ASCII digits, skipping underscores. -/
def digitValue (cs : List Char) : Nat :=
  (cs.filter (· != '_')).foldl (fun a c => a * 10 + (c.toNat - '0'.toNat)) 0

/-- Reads a short whole number: an optional sign, then ASCII digits only. -/
def readShortWhole (cs : List Char) : Option Int :=
  let (neg, body) := match cs with
    | '-' :: r => (true, r)
    | '+' :: r => (false, r)
    | r => (false, r)
  if body.isEmpty || !body.all Char.isDigit then none
  else some (if neg then -(digitValue body : Int) else digitValue body)

/-- Reads a long whole number: an optional sign, then a digit, then digits and underscores
in any arrangement. -/
def readLongWhole (cs : List Char) : Option Int :=
  let (neg, body) := match cs with
    | '-' :: r => (true, r)
    | '+' :: r => (false, r)
    | r => (false, r)
  match body with
  | c :: _ =>
    if c.isDigit && body.all (fun d => d.isDigit || d == '_') then
      some (if neg then -(digitValue body : Int) else digitValue body)
    else none
  | [] => none

/-- The integer part of a number text whose fraction is one or more zeros. -/
def wholePart (cs : List Char) : Option (List Char) :=
  let intPart := cs.takeWhile (· != '.')
  match cs.drop intPart.length with
  | '.' :: r => if !r.isEmpty && r.all (· == '0') then some intPart else none
  | _ => none

/-- The largest magnitude, plus one, of a whole number read from a float. -/
def floatWholeLimit : Nat := Nat.pow 2 63

/-- A whole number from a float: it must be finite, have no fraction, and lie strictly
between `-2^63` and `2^63`. -/
def wholeOfFloat (x : Float) : Checked Int :=
  match decode x with
  | none => Checked.fail "finite_number" "Input should be a finite number"
  | some d =>
    if !d.isWhole then
      Checked.fail "int_from_float" "Input should be a valid integer, got a number with a fractional part"
    else if d.truncate.natAbs ≥ floatWholeLimit then
      Checked.fail "int_parsing_size" "Unable to parse input string as an integer, exceeded maximum size"
    else .ok d.truncate

/-- The longest number text read as a whole number. -/
def wholeTextLimit : Nat := 4300

/-- A number text counts as long from this many bytes on. -/
def longWholeBytes : Nat := 19

/-- A whole number: an integer, a boolean, a whole float, or a text of digits (with sign,
blank space around it, underscores, and possibly a point followed by at least one zero).
Texts of `longWholeBytes` bytes or more allow underscores anywhere after the first digit;
shorter ones only between digits. -/
def whole : Value → Checked Int
  | .int n => .ok n
  | .bool b => .ok (if b then 1 else 0)
  | .float x => wholeOfFloat x
  | .str s =>
    let cs := trimNumber s
    let bytes := (String.ofList cs).utf8ByteSize
    let readRun : List Char → Option Int :=
      if bytes ≥ longWholeBytes then readLongWhole else readShortWhole
    let read (t : List Char) : Option Int := readRun t <|> (dropUnderscores t).bind readRun
    if bytes > wholeTextLimit then
      Checked.fail "int_parsing_size" "Unable to parse input string as an integer, exceeded maximum size"
    else match read cs <|> (wholePart cs).bind read with
      | some n => .ok n
      | none =>
        Checked.fail "int_parsing" "Input should be a valid integer, unable to parse string as an integer"
  | _ => Checked.fail "int_type" "Input should be a valid integer"

/-- Reads a float text in the strict form: an optional sign, then ASCII digits with an
optional point and exponent, or a spelling of infinity or NaN in any case; no blank space
and no underscores. -/
def readPlainFloat (cs : List Char) : Option Float :=
  if cs.any (fun c => c == '_' || c.toNat ≥ 128) then none
  else
    let (neg, body) := match cs with
      | '+' :: r => (false, r)
      | '-' :: r => (true, r)
      | r => (false, r)
    let word := String.ofList (asciiLower body)
    if word == "inf" || word == "infinity" then some (if neg then -(1.0 / 0.0) else 1.0 / 0.0)
    else if word == "nan" then some (0.0 / 0.0)
    else (readUnsignedDecimal body).map fun (mant, e) => scientific neg mant e

/-- A real number: a float, an integer that a double can hold, a boolean, or a number
text (trimmed, or else with its underscores dropped). -/
def real : Value → Checked Float
  | .float x => .ok x
  | .int n =>
    let x := Float.ofInt n
    if isInf x then Checked.fail "float_type" "Input should be a valid number" else .ok x
  | .bool b => .ok (if b then 1.0 else 0.0)
  | .str s =>
    match readPlainFloat (trimNumber s) <|> (dropUnderscores s.toList).bind readPlainFloat with
    | some x => .ok x
    | none => Checked.fail "float_parsing" "Input should be a valid number, unable to parse string as a number"
  | _ => Checked.fail "float_type" "Input should be a valid number"

/-- The message listing the allowed texts of a choice: `'a', 'b' or 'c'`. -/
def choiceList (options : List String) : String :=
  let quoted := options.map fun o => "'" ++ o ++ "'"
  match quoted.reverse with
  | [] => ""
  | [one] => one
  | last :: before => String.intercalate ", " before.reverse ++ " or " ++ last

/-- One of a fixed set of texts. -/
def choice (options : List String) : Value → Checked String
  | .str s => if options.contains s then .ok s
    else Checked.fail "enum" ("Input should be " ++ choiceList options)
  | _ => Checked.fail "enum" ("Input should be " ++ choiceList options)

/-- Null, or a value that passes `f`. -/
def optional {α : Type} (f : Value → Checked α) : Value → Checked (Option α)
  | .null => .ok none
  | v => (f v).map some

/-- Checks each item of a list, placing failures under the item's index. -/
def items {α : Type} (f : Value → Checked α) : List Value → Checked (List α)
  | [] => .ok []
  | x :: xs =>
    let rec go (i : Nat) : List Value → List α → List Issue → Checked (List α)
      | [], acc, [] => .ok acc.reverse
      | [], _, es => .error es
      | y :: ys, acc, es =>
        match (f y).atIndex i with
        | .ok a => go (i + 1) ys (a :: acc) es
        | .error e => go (i + 1) ys acc (es ++ e)
    go 0 (x :: xs) [] []

/-- A list whose items pass `f`. -/
def list {α : Type} (f : Value → Checked α) : Value → Checked (List α)
  | .list xs => items f xs
  | _ => Checked.fail "list_type" "Input should be a valid list"

/-- An object of texts. -/
def textMap : Value → Checked (List (String × String))
  | .dict kvs =>
    let checked := kvs.map fun (k, v) => ((text v).under k).map fun s => (k, s)
    let es := checked.flatMap Checked.issues
    if es.isEmpty then .ok (checked.filterMap fun c => match c with | .ok p => some p | .error _ => none)
    else .error es
  | _ => Checked.fail "dict_type" "Input should be a valid dictionary"

/-- A nested record named `name`, checked by `f` from its members. -/
def record {α : Type} (name : String) (f : List (String × Value) → Checked α) : Value → Checked α
  | .dict kvs => f kvs
  | _ => Checked.fail "model_type" ("Input should be a valid dictionary or instance of " ++ name)

/-- The failure of a value that is no stamp. -/
def stampFailure {α : Type} : Checked α :=
  Checked.fail "datetime_parsing" "Input should be a valid datetime"

/-- The failure of a text that is neither a stamp nor a date. -/
def stampOrDateFailure {α : Type} : Checked α :=
  Checked.fail "datetime_from_date_parsing" "Input should be a valid datetime or date"

/-- The stamp of a count since 1970 held in a double: the floor of the count, plus the
fraction in whole microseconds (rounded, and taken as a magnitude when `magnitude` is set,
else dropped when negative). -/
def stampOfDouble (x : Float) (magnitude : Bool) : Option Stamp :=
  match decode x.floor with
  | none => none
  | some fl =>
    let secs := fl.truncate
    if secs.natAbs ≥ Nat.pow 2 63 then none
    else
      let frac := x - (if x < 0 then x.ceil else x.floor)
      let scaled := (if magnitude then frac.abs else frac) * 1000000.0
      Stamp.ofCount? secs scaled.round.toUInt32.toNat

/-- A count text that is no whole number of 63 bits, read as a double in the strict form
of JSON. -/
def countDouble (s : String) : Option Float :=
  let cs := s.toList.toArray
  match Json.readNumber cs 0 with
  | some (.float x, j) => if j == cs.size then some x else none
  | _ => none

/-- A stamp from text: a date-time, else a count since 1970, else a date alone at
midnight. -/
def stampText (s : String) : Checked Stamp :=
  let asDate : Checked Stamp :=
    match Stamp.readDateOnly s with
    | some (y, mo, d) => match Stamp.ofCivil? y mo d 0 0 0 0 none with
      | some t => .ok t
      | none => stampFailure
    | none => stampOrDateFailure
  match Stamp.readParts s with
  | some p => match Stamp.ofParts? p with
    | some t => .ok t
    | none => stampFailure
  | none =>
    let counted := match Stamp.readCount? s with
      | some n => Stamp.ofCount? n 0
      | none => (countDouble s).bind fun x => stampOfDouble x false
    match counted with
    | some t => .ok t
    | none => asDate

/-- A stamp: a date-time text, or a count of seconds since 1970 (milliseconds when very
large) as a number or a text. -/
def stamp : Value → Checked Stamp
  | .str s => stampText s
  | .int n => match Stamp.ofCount? n 0 with
    | some t => if n.natAbs < Nat.pow 2 63 then .ok t else stampFailure
    | none => stampFailure
  | .float x => if isNaN x then stampFailure
    else match stampOfDouble x true with
      | some t => .ok t
      | none => stampFailure
  | _ => Checked.fail "datetime_type" "Input should be a valid datetime"

end Check

/-- The members of a record as they arrive: looked up by camelCase name, then by
snake_case name. -/
abbrev Fields := List (String × Value)

namespace Fields

/-- The key and value a field was given under, if any. -/
def pick (fs : Fields) (camel snake : String) : Option (String × Value) :=
  match fs.lookup camel with
  | some v => some (camel, v)
  | none => (fs.lookup snake).map fun v => (snake, v)

/-- A required field. -/
def need {α : Type} (fs : Fields) (camel snake : String) (f : Value → Checked α) : Checked α :=
  match fs.pick camel snake with
  | some (k, v) => (f v).under k
  | none => .error [⟨[.key camel], "missing", "Field required"⟩]

/-- A field with a default. -/
def withDefault {α : Type} (fs : Fields) (camel snake : String) (d : α)
    (f : Value → Checked α) : Checked α :=
  match fs.pick camel snake with
  | some (k, v) => (f v).under k
  | none => .ok d

end Fields

end Autoresponder
