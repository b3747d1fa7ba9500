/-!
# Recognising the kind of a plain scalar

A scalar without a tag that asks to be recognised from its text gets the tag of the first
kind below whose spelling it has, tried in this order; otherwise it is a text.

* flag: `yes`, `no`, `true`, `false`, `on`, `off`, each all small, all capital or capitalised;
* float: digits with a point, a point with digits, with optional exponent `e±digits`; base-60
  digits with a point (`1:30.5`); `.inf` or `.nan` in three spellings, infinity signed;
* integer: `0b` binary, `0` octal, decimal, `0x` hexadecimal, or base 60 (`1:30`); signs and
  underscores allowed;
* merge key `<<`; null `~`, `null` in three spellings, or nothing at all;
* date `yyyy-mm-dd`, or a date with a time, an optional fraction and an optional zone;
* the value key `=`, and the one-character names `!`, `&` and `*`.

A spelling may be followed by one final line feed.
-/

namespace Autoresponder.Yaml

/-- An ASCII digit. -/
def isDigitChar (c : Char) : Bool := '0' ≤ c && c ≤ '9'

/-- An ASCII digit or `_`. -/
def isDigitOrUnderscore (c : Char) : Bool := isDigitChar c || c == '_'

/-- The text after an optional sign. -/
def afterSign : List Char → List Char
  | '-' :: r => r
  | '+' :: r => r
  | r => r

/-- Whether a text is empty or an exponent `e±digits`. -/
def optionalExponent : List Char → Bool
  | [] => true
  | e :: s :: ds => (e == 'e' || e == 'E') && (s == '-' || s == '+') && !ds.isEmpty && ds.all isDigitChar
  | _ => false

/-- Reads one base-60 place `:d` or `:dd` (the first of two digits at most 5). -/
def sexagesimalPlace : List Char → Option (List Char)
  | ':' :: a :: b :: rest =>
    if isDigitChar a && isDigitChar b then
      if a ≤ '5' then some rest else none
    else if isDigitChar a then some (b :: rest) else none
  | [':', a] => if isDigitChar a then some [] else none
  | _ => none

/-- Reads one or more base-60 places; gives what follows them. -/
def sexagesimalPlaces (cs : List Char) : Option (List Char) :=
  match sexagesimalPlace cs with
  | none => none
  | some rest =>
    match rest with
    | ':' :: _ => if rest.length < cs.length then sexagesimalPlaces rest else none
    | _ => some rest
termination_by cs.length

/-- Whether a text spells a float. -/
def spellsFloat (cs : List Char) : Bool :=
  let decimal :=
    match afterSign cs with
    | d :: rest =>
      isDigitChar d && match rest.dropWhile isDigitOrUnderscore with
        | '.' :: r => optionalExponent (r.dropWhile isDigitOrUnderscore)
        | _ => false
    | [] => false
  let pointFirst :=
    match cs with
    | '.' :: d :: rest => isDigitChar d && optionalExponent (rest.dropWhile isDigitOrUnderscore)
    | _ => false
  let base60 :=
    match afterSign cs with
    | d :: rest =>
      isDigitChar d && match sexagesimalPlaces (rest.dropWhile isDigitOrUnderscore) with
        | some ('.' :: r) => r.all isDigitOrUnderscore
        | _ => false
    | [] => false
  let infinity := ["inf", "Inf", "INF"].any fun w => afterSign cs == '.' :: w.toList
  let notANumber := ["nan", "NaN", "NAN"].any fun w => cs == '.' :: w.toList
  decimal || pointFirst || base60 || infinity || notANumber

/-- Whether a text spells an integer. -/
def spellsInt (cs : List Char) : Bool :=
  let body := afterSign cs
  let nonEmptyOf (p : Char → Bool) (r : List Char) : Bool := !r.isEmpty && r.all p
  match body with
  | '0' :: 'b' :: r => nonEmptyOf (fun c => c == '0' || c == '1' || c == '_') r
  | '0' :: 'x' :: r =>
    nonEmptyOf (fun c => isDigitOrUnderscore c || ('a' ≤ c && c ≤ 'f') || ('A' ≤ c && c ≤ 'F')) r
  | ['0'] => true
  | '0' :: r => nonEmptyOf (fun c => ('0' ≤ c && c ≤ '7') || c == '_') r
  | d :: r =>
    '1' ≤ d && d ≤ '9' &&
      (r.all isDigitOrUnderscore ||
        sexagesimalPlaces (r.dropWhile isDigitOrUnderscore) == some [])
  | [] => false

/-- Reads one or two digits. -/
def oneOrTwoDigits : List Char → Option (List Char)
  | a :: b :: rest => if isDigitChar a then (if isDigitChar b then some rest else some (b :: rest)) else none
  | [a] => if isDigitChar a then some [] else none
  | [] => none

/-- Reads exactly `n` digits. -/
def digitsExactly (n : Nat) (cs : List Char) : Option (List Char) :=
  if cs.length ≥ n && (cs.take n).all isDigitChar then some (cs.drop n) else none

/-- Whether a text is a zone `Z` or `±h[h][:mm]`, possibly after blanks and tabs, or nothing. -/
def optionalZone (cs : List Char) : Bool :=
  let cs' := cs.dropWhile fun c => c == ' ' || c == '\t'
  match cs' with
  | [] => cs.isEmpty
  | ['Z'] => true
  | s :: rest =>
    (s == '-' || s == '+') && match oneOrTwoDigits rest with
      | some [] => true
      | some (':' :: more) => digitsExactly 2 more == some []
      | _ => false

/-- Whether a text spells a date, or a date with a time. -/
def spellsTimestamp (cs : List Char) : Bool :=
  let dateOnly :=
    match digitsExactly 4 cs with
    | some ('-' :: r) =>
      match digitsExactly 2 r with
      | some ('-' :: r2) => digitsExactly 2 r2 == some []
      | _ => false
    | _ => false
  let withTime := Option.isSome do
    let r ← digitsExactly 4 cs
    let r ← match r with | '-' :: r => some r | _ => none
    let r ← oneOrTwoDigits r
    let r ← match r with | '-' :: r => some r | _ => none
    let r ← oneOrTwoDigits r
    let r ← match r with
      | 'T' :: r => some r
      | 't' :: r => some r
      | c :: r => if c == ' ' || c == '\t' then some (r.dropWhile fun c => c == ' ' || c == '\t') else none
      | [] => none
    let r ← oneOrTwoDigits r
    let r ← match r with | ':' :: r => some r | _ => none
    let r ← digitsExactly 2 r
    let r ← match r with | ':' :: r => some r | _ => none
    let r ← digitsExactly 2 r
    let r := match r with | '.' :: r => r.dropWhile isDigitChar | r => r
    if optionalZone r then some () else none
  dateOnly || withTime

/-- The tag of a kind whose spelling a text has, tried in order. Only the kinds that may start
with `first`, the first character of the whole scalar, are tried. -/
def kindOfSpelling (first : Option Char) (cs : List Char) : Option String :=
  let words (ws : List String) : Bool := ws.any (·.toList == cs)
  let starts (s : String) : Bool := match first with
    | some c => s.toList.contains c
    | none => false
  let tagged (name : String) : Option String := some ("tag:yaml.org,2002:" ++ name)
  if starts "yYnNtTfFoO" && words ["yes", "Yes", "YES", "no", "No", "NO", "true", "True", "TRUE",
      "false", "False", "FALSE", "on", "On", "ON", "off", "Off", "OFF"] then tagged "bool"
  else if starts "-+0123456789." && spellsFloat cs then tagged "float"
  else if starts "-+0123456789" && spellsInt cs then tagged "int"
  else if cs == ['<', '<'] then tagged "merge"
  else if (first.isNone || starts "~nN") && words ["~", "null", "Null", "NULL", ""] then tagged "null"
  else if starts "0123456789" && spellsTimestamp cs then tagged "timestamp"
  else if cs == ['='] then tagged "value"
  else if words ["!", "&", "*"] then tagged "yaml"
  else none

/-- The tag a scalar's text is recognised as, if any: by its own spelling, or by its spelling
without one final line feed. -/
def recognisedTag (value : String) : Option String :=
  let cs := value.toList
  match kindOfSpelling cs.head? cs with
  | some t => some t
  | none => if cs.getLast? == some '\n' then kindOfSpelling cs.head? cs.dropLast else none

end Autoresponder.Yaml
