import Autoresponder.Number.Shortest
import Autoresponder.Text.Basic

/-!
# Floats as text

Writing: the shortest digits that read back, placed positionally when the decimal point
falls between four places left of the first digit and sixteen places right of it, and in
exponent form otherwise; a whole number keeps a `.0`. Reading: an optional sign, digits with
single underscores between them, an optional fraction and exponent, or a spelling of
infinity or NaN; blank space around the text is ignored and digits of any script count.
-/

namespace Autoresponder.Number

open Autoresponder.Text

/-- How a float is spelled: the texts of the non-finite values and the range of decimal
point positions that are written positionally. -/
structure FloatStyle where
  nan : String
  inf : String
  /-- The decimal point position must be above this to be written positionally. -/
  posAbove : Int
  /-- The decimal point position must be at most this to be written positionally. -/
  posUpTo : Int

/-- The spelling of floats in texts shown to people: `nan`, `inf`, `1e-05`, `1e+16`. -/
def FloatStyle.plain : FloatStyle := ⟨"nan", "inf", -4, 16⟩

/-- The spelling of floats in JSON documents: as `plain`, but `NaN` and `Infinity`. -/
def FloatStyle.json : FloatStyle := ⟨"NaN", "Infinity", -4, 16⟩

/-- Text of a natural number in decimal. -/
def natText (n : Nat) : String := String.ofList (Nat.toDigits 10 n)

/-- Text of an integer in decimal. -/
def intText (n : Int) : String := if n < 0 then "-" ++ natText n.natAbs else natText n.toNat

/-- Positional or exponent text of the digits `ds` with the decimal point at `point`. -/
def placeDigits (style : FloatStyle) (ds : String) (point : Int) : String :=
  let len : Int := ds.length
  if style.posAbove < point && point ≤ style.posUpTo then
    if point ≤ 0 then "0." ++ String.ofList (List.replicate (-point).toNat '0') ++ ds
    else if point ≥ len then ds ++ String.ofList (List.replicate (point - len).toNat '0') ++ ".0"
    else String.ofList (ds.toList.take point.toNat) ++ "." ++ String.ofList (ds.toList.drop point.toNat)
  else
    let x := point - 1
    let mant := match ds.toList with
      | [] => "0"
      | [c] => String.singleton c
      | c :: rest => String.singleton c ++ "." ++ String.ofList rest
    let ex := natText x.natAbs
    mant ++ "e" ++ (if x < 0 then "-" else "+") ++ (if ex.length < 2 then "0" ++ ex else ex)

/-- The text of a float in the given style. -/
def floatTextIn (style : FloatStyle) (x : Float) : String :=
  if isNaN x then style.nan
  else if isInf x then (if signBit x then "-" else "") ++ style.inf
  else match decode x with
    | none => style.nan
    | some d =>
      let sign := if d.neg then "-" else ""
      if d.m == 0 then sign ++ "0.0"
      else
        let (digits, e) := d.shortest
        let ds := natText digits
        sign ++ placeDigits style ds (ds.length + e)

/-- The text of a float as people read it: `6.0`, `0.7`, `1e-07`, `1e+20`, `inf`. -/
def floatText (x : Float) : String := floatTextIn FloatStyle.plain x

/-- The double nearest to `mant · 10^exp`, with sign. Very large or small exponents are
settled without computing huge powers. -/
def scientific (neg : Bool) (mant : Nat) (exp : Int) : Float :=
  let v : Float :=
    if mant == 0 then 0.0
    else
      let top := exp + (digitCount mant : Int)
      if top > 311 then 1.0 / 0.0
      else if top < -330 then 0.0
      else if exp ≥ 0 then Float.ofScientific mant false exp.toNat
      else Float.ofScientific mant true (-exp).toNat
  if neg then -v else v

/-- The most digits a text may have to be read as a whole number. -/
def maxWholeDigits : Nat := 4300

/-- Reads ASCII decimal digits with single underscores between digits: the value and the
number of digits, or `none` if the text breaks the underscore rule or has no digit. -/
def readDigitRun (cs : List Char) : Option (Nat × Nat) :=
  let rec go (acc count : Nat) (prevDigit : Bool) : List Char → Option (Nat × Nat)
    | [] => if prevDigit then some (acc, count) else none
    | '_' :: rest =>
      match rest with
      | c :: _ => if prevDigit && c.isDigit then go acc count false rest else none
      | [] => none
    | c :: rest =>
      if c.isDigit then go (acc * 10 + (c.toNat - '0'.toNat)) (count + 1) true rest else none
  match cs with
  | [] => some (0, 0)
  | _ => go 0 0 false cs

/-- A run of digits and underscores at the start of a text, and what follows it. -/
def digitSpan (cs : List Char) : List Char × List Char :=
  let run := cs.takeWhile fun c => c.isDigit || c == '_'
  (run, cs.drop run.length)

/-- Reads an unsigned decimal number in ASCII: digits, an optional fraction after a point,
and an optional exponent after `e` or `E`; at least one digit before the exponent. -/
def readUnsignedDecimal (cs : List Char) : Option (Nat × Int) := do
  let (intPart, rest) := digitSpan cs
  let (fracPart, rest) := match rest with
    | '.' :: r => digitSpan r
    | r => ([], r)
  if intPart.isEmpty && fracPart.isEmpty then none
  let (iv, _) ← readDigitRun intPart
  let (fv, fn) ← readDigitRun fracPart
  let mant := iv * Nat.pow 10 fn + fv
  let shift : Int ← match rest with
    | [] => pure 0
    | c :: r =>
      if c == 'e' || c == 'E' then
        let (eneg, eds) := match r with
          | '+' :: t => (false, t)
          | '-' :: t => (true, t)
          | t => (false, t)
        if eds.isEmpty then none
        let (ev, _) ← readDigitRun eds
        pure (if eneg then -(ev : Int) else ev)
      else none
  pure (mant, shift - fn)

/-- Lower case of ASCII letters only. -/
def asciiLower (cs : List Char) : List Char := cs.map Char.toLower

/-- Reads a float the lenient way: blank space around it is ignored, digits of any script
count, underscores may stand between digits, and `inf`, `infinity` and `nan` are read in
any case with an optional sign. -/
def readFloat? (s : String) : Option Float :=
  let mapped : List (Option Char) := s.toList.map fun c =>
    if isBlank c then some ' '
    else if c.toNat < 128 then some c
    else match decimalValue? c with
      | some v => some (Char.ofNat ('0'.toNat + v))
      | none => none
  if mapped.any (·.isNone) then none
  else
    let cs := (mapped.filterMap id).dropWhile (· == ' ')
    let cs := (cs.reverse.dropWhile (· == ' ')).reverse
    let (neg, body) := match cs with
      | '+' :: r => (false, r)
      | '-' :: r => (true, r)
      | r => (false, r)
    let word := String.ofList (asciiLower body)
    if word == "inf" || word == "infinity" then some (if neg then -(1.0 / 0.0) else 1.0 / 0.0)
    else if word == "nan" then some (0.0 / 0.0)
    else (readUnsignedDecimal body).map fun (mant, e) => scientific neg mant e

/-- A text as whole-number reading sees it: white space beyond ASCII becomes a blank,
decimal digits of any script become ASCII digits, and the text ends in `?` at the first other
character beyond ASCII. -/
def wholeAscii : List Char → List Char
  | [] => []
  | c :: rest =>
    if c.toNat < 127 then c :: wholeAscii rest
    else if isBlank c then ' ' :: wholeAscii rest
    else match decimalValue? c with
      | some d => Char.ofNat ('0'.toNat + d) :: wholeAscii rest
      | none => ['?']

/-- ASCII blank space: a blank, tab, line feed, vertical tab, form feed or carriage return. -/
def asciiBlank (c : Char) : Bool := c == ' ' || (9 ≤ c.toNat && c.toNat ≤ 13)

/-- How reading a whole number from a text ends. -/
inductive WholeRead where
  | value (n : Int)
  | tooLong (digits : Nat)
  | invalid

/-- The value of an ASCII digit or letter as a digit of a base up to 36. -/
def digitValue? (c : Char) : Option Nat :=
  if '0' ≤ c && c ≤ '9' then some (c.toNat - '0'.toNat)
  else if 'a' ≤ c && c ≤ 'z' then some (c.toNat - 'a'.toNat + 10)
  else if 'A' ≤ c && c ≤ 'Z' then some (c.toNat - 'A'.toNat + 10)
  else none

/-- Whether a base-2, base-8 or base-16 text starts with the prefix of its base (`0b`, `0o`,
`0x`, in either case). -/
def hasBasePrefix (base : Nat) : List Char → Bool
  | '0' :: x :: _ =>
    (base == 2 && (x == 'b' || x == 'B')) || (base == 8 && (x == 'o' || x == 'O')) ||
      (base == 16 && (x == 'x' || x == 'X'))
  | _ => false

/-- Reads a whole number from a text in a base from 2 to 36: blank space around it, an
optional sign, in bases 2, 8 and 16 an optional prefix of the base with one underscore allowed
after it, then digits of the base with single underscores between them. In base 10 a run of
more than `maxWholeDigits` digits is refused before what follows it is looked at. -/
def readWholeIn (base : Nat) (s : String) : WholeRead :=
  let cs := (wholeAscii s.toList).dropWhile asciiBlank
  let (neg, cs) := match cs with
    | '+' :: r => (false, r)
    | '-' :: r => (true, r)
    | r => (false, r)
  let cs := if hasBasePrefix base cs then
      match cs.drop 2 with
      | '_' :: r => r
      | r => r
    else cs
  let isDigitOfBase (c : Char) : Bool := match digitValue? c with
    | some v => v < base
    | none => false
  let run := cs.takeWhile fun c => isDigitOfBase c || c == '_'
  let rest := cs.drop run.length
  let doubled := (run.zip (run.drop 1)).any fun (a, b) => a == '_' && b == '_'
  if run.head? == some '_' || run.getLast? == some '_' || doubled then .invalid
  else
    let digits := run.filter (· != '_')
    if base == 10 && digits.length > maxWholeDigits then .tooLong digits.length
    else if digits.isEmpty || !rest.all asciiBlank then .invalid
    else
      let n := digits.foldl (fun a c => a * base + (digitValue? c).getD 0) 0
      .value (if neg then -(n : Int) else n)

/-- Reads a whole number from a text in base 10, as `readWholeIn` reads it. -/
def readWholeText (s : String) : WholeRead := readWholeIn 10 s

end Autoresponder.Number
