import Autoresponder.Data.Value
import Autoresponder.Number.Text

/-!
# JSON text

Reading follows the strict JSON grammar plus the literals `NaN`, `Infinity` and
`-Infinity`. A number with a fraction or an exponent is a float, any other number an
integer of unbounded size. A repeated key keeps its first position and its last value. A
failure names what was expected and where, by line, column and code point offset.

Writing escapes every code point outside ASCII, so its output is plain ASCII.
-/

namespace Autoresponder.Json

open Autoresponder.Number

/-- What went wrong while reading, and at which code point offset. -/
structure ReadError where
  what : String
  pos : Nat
  deriving Repr

/-- The text of a read error for the document `doc`:
`what: line L column C (char P)`. -/
def ReadError.text (e : ReadError) (doc : String) : String :=
  let before := doc.toList.take e.pos
  let line := before.count '\n' + 1
  let col := match (before.reverse.findIdx? (· == '\n')) with
    | some k => k + 1
    | none => e.pos + 1
  e.what ++ ": line " ++ natText line ++ " column " ++ natText col ++ " (char " ++ natText e.pos ++ ")"

/-- The deepest nesting of arrays and objects that is read. -/
def maxDepth : Nat := 975

/-- Why a JSON document could not be read. -/
inductive ReadFailure where
  /-- The text breaks the grammar. -/
  | grammar (e : ReadError)
  /-- An integer has more digits than whole-number reading takes. -/
  | tooManyDigits (digits : Nat)
  /-- Arrays and objects nest deeper than `maxDepth`; the flag tells whether the container
  that went too deep is an array. -/
  | tooDeep (array : Bool)

/-- The text of a read failure for the document `doc`. -/
def ReadFailure.text (f : ReadFailure) (doc : String) : String :=
  match f with
  | .grammar e => e.text doc
  | .tooManyDigits n => "Exceeds the limit (" ++ natText maxWholeDigits ++
    " digits) for integer string conversion: value has " ++ natText n ++
    " digits; use sys.set_int_max_str_digits() to increase the limit"
  | .tooDeep array => "maximum recursion depth exceeded while decoding a JSON " ++
    (if array then "array" else "object") ++ " from a unicode string"

/-- Blank characters between JSON tokens. -/
def isSpace (c : Char) : Bool := c == ' ' || c == '\t' || c == '\n' || c == '\r'

/-- The offset of the first non-blank character at or after `i`. -/
def skipSpace (cs : Array Char) (i : Nat) : Nat :=
  let rec go (fuel i : Nat) : Nat :=
    match fuel with
    | 0 => i
    | fuel + 1 => if cs.getD i 'x' |> isSpace then go fuel (i + 1) else i
  go (cs.size - i) i

/-- Value of a hexadecimal digit. -/
def hexValue? (c : Char) : Option Nat :=
  if '0' ≤ c && c ≤ '9' then some (c.toNat - '0'.toNat)
  else if 'a' ≤ c && c ≤ 'f' then some (c.toNat - 'a'.toNat + 10)
  else if 'A' ≤ c && c ≤ 'F' then some (c.toNat - 'A'.toNat + 10)
  else none

/-- Reads four hexadecimal digits at `i`. -/
def hex4? (cs : Array Char) (i : Nat) : Option Nat :=
  [0, 1, 2, 3].foldlM (fun acc k => (hexValue? (cs.getD (i + k) 'x')).map (acc * 16 + ·)) 0

/-- A code point as a character; a surrogate, which no text can hold, becomes the character
that stands for it. -/
def codeChar (n : Nat) : Char :=
  if 0xD800 ≤ n && n < 0xE000 then Text.surrogateStandIn n else Char.ofNat n

/-- Reads the body of a string whose opening quote is at `begin`, from offset `i`:
the text and the offset after the closing quote. -/
def readString (cs : Array Char) (begin : Nat) (i : Nat) : Except ReadError (String × Nat) :=
  let len := cs.size
  let rec go (fuel : Nat) (acc : List Char) (i : Nat) : Except ReadError (String × Nat) :=
    match fuel with
    | 0 => .error ⟨"Unterminated string starting at", begin⟩
    | fuel + 1 =>
      if i ≥ len then .error ⟨"Unterminated string starting at", begin⟩
      else
        let c := cs.getD i ' '
        if c == '"' then .ok (String.ofList acc.reverse, i + 1)
        else if c.toNat ≤ 0x1f then .error ⟨"Invalid control character at", i⟩
        else if c != '\\' then go fuel (c :: acc) (i + 1)
        else if i + 1 ≥ len then .error ⟨"Unterminated string starting at", begin⟩
        else
          let e := cs.getD (i + 1) ' '
          if e != 'u' then
            let mapped : Option Char := match e with
              | '"' => some '"' | '\\' => some '\\' | '/' => some '/'
              | 'b' => some (Char.ofNat 8) | 'f' => some (Char.ofNat 12)
              | 'n' => some '\n' | 'r' => some '\r' | 't' => some '\t'
              | _ => none
            match mapped with
            | some m => go fuel (m :: acc) (i + 2)
            | none => .error ⟨"Invalid \\escape", i⟩
          else
            let start := i + 2
            if start + 4 ≥ len then .error ⟨"Invalid \\uXXXX escape", start - 1⟩
            else match hex4? cs start with
              | none => .error ⟨"Invalid \\uXXXX escape", start - 1⟩
              | some hi =>
                let after := start + 4
                if 0xD800 ≤ hi && hi < 0xDC00 && after + 6 < len &&
                    cs.getD after ' ' == '\\' && cs.getD (after + 1) ' ' == 'u' then
                  match hex4? cs (after + 2) with
                  | none => .error ⟨"Invalid \\uXXXX escape", after + 1⟩
                  | some lo =>
                    if 0xDC00 ≤ lo && lo < 0xE000 then
                      let joined := 0x10000 + (hi - 0xD800) * 0x400 + (lo - 0xDC00)
                      go fuel (Char.ofNat joined :: acc) (after + 6)
                    else go fuel (codeChar hi :: acc) after
                else go fuel (codeChar hi :: acc) after
  go (len + 1) [] i

/-- Whether `word` is spelled at offset `i`. -/
def hasWord (cs : Array Char) (i : Nat) (word : String) : Bool :=
  (word.toList.zipIdx).all fun (c, k) => cs.getD (i + k) ' ' == c

/-- Reads a number at `start`: an integer, or a float when a fraction or exponent follows.
`none` when no number starts there. -/
def readNumber (cs : Array Char) (start : Nat) : Option (Value × Nat) :=
  let len := cs.size
  let digitAt (i : Nat) : Bool := i < len && (cs.getD i ' ').isDigit
  let rec digitsFrom (fuel i : Nat) : Nat :=
    match fuel with
    | 0 => i
    | fuel + 1 => if digitAt i then digitsFrom fuel (i + 1) else i
  let neg := cs.getD start ' ' == '-'
  let i := if neg then start + 1 else start
  if i ≥ len then none
  else
    let c := cs.getD i ' '
    let intEnd :=
      if '1' ≤ c && c ≤ '9' then some (digitsFrom len (i + 1))
      else if c == '0' then some (i + 1)
      else none
    match intEnd with
    | none => none
    | some j =>
      let (isFloat, j) :=
        if j + 1 < len && cs.getD j ' ' == '.' && digitAt (j + 1) then (true, digitsFrom len (j + 2))
        else (false, j)
      let (isFloat, j) :=
        if j + 1 < len && (cs.getD j ' ' == 'e' || cs.getD j ' ' == 'E') then
          let k := if j + 2 < len && (cs.getD (j + 1) ' ' == '-' || cs.getD (j + 1) ' ' == '+')
            then j + 2 else j + 1
          let k' := digitsFrom len k
          if k' > k then (true, k') else (isFloat, j)
        else (isFloat, j)
      let text := String.ofList ((cs.extract start j).toList)
      if isFloat then (readFloat? text).map fun x => (.float x, j)
      else
        let body := if neg then (text.drop 1).toString else text
        let n : Int := body.foldl (fun acc d => acc * 10 + (d.toNat - '0'.toNat)) 0
        some (.int (if neg then -n else n), j)

mutual

/-- Reads one value at offset `i`, inside `depth` containers; `fuel` bounds the nesting and
the number of items. -/
def readValue (cs : Array Char) (fuel depth : Nat) (i : Nat) : Except ReadFailure (Value × Nat) :=
  match fuel with
  | 0 => .error (.grammar ⟨"Expecting value", i⟩)
  | fuel + 1 =>
    let len := cs.size
    if i ≥ len then .error (.grammar ⟨"Expecting value", i⟩)
    else
      let c := cs.getD i ' '
      if c == '"' then match readString cs i (i + 1) with
        | .ok (s, j) => .ok (.str s, j)
        | .error e => .error (.grammar e)
      else if (c == '{' || c == '[') && depth ≥ maxDepth then .error (.tooDeep (c == '['))
      else if c == '{' then readObject cs fuel (depth + 1) (skipSpace cs (i + 1)) [] true
      else if c == '[' then readArray cs fuel (depth + 1) (skipSpace cs (i + 1)) [] true
      else if c == 'n' && i + 3 < len && hasWord cs i "null" then .ok (.null, i + 4)
      else if c == 't' && i + 3 < len && hasWord cs i "true" then .ok (.bool true, i + 4)
      else if c == 'f' && i + 4 < len && hasWord cs i "false" then .ok (.bool false, i + 5)
      else if c == 'N' && i + 2 < len && hasWord cs i "NaN" then .ok (.float (0.0 / 0.0), i + 3)
      else if c == 'I' && i + 7 < len && hasWord cs i "Infinity" then .ok (.float (1.0 / 0.0), i + 8)
      else if c == '-' && i + 8 < len && hasWord cs i "-Infinity" then
        .ok (.float (-(1.0 / 0.0)), i + 9)
      else match readNumber cs i with
        | some (.int n, j) =>
          let digits := j - i - (if cs.getD i ' ' == '-' then 1 else 0)
          if digits > maxWholeDigits then .error (.tooManyDigits digits) else .ok (.int n, j)
        | some r => .ok r
        | none => .error (.grammar ⟨"Expecting value", i⟩)

/-- Reads the members of an object from offset `i` (blank space skipped). -/
def readObject (cs : Array Char) (fuel depth : Nat) (i : Nat) (acc : List (String × Value))
    (first : Bool) : Except ReadFailure (Value × Nat) :=
  match fuel with
  | 0 => .error (.grammar ⟨"Expecting value", i⟩)
  | fuel + 1 =>
    let len := cs.size
    if first && i < len && cs.getD i ' ' == '}' then .ok (.dict [], i + 1)
    else if i ≥ len || cs.getD i ' ' != '"' then
      .error (.grammar ⟨"Expecting property name enclosed in double quotes", i⟩)
    else match readString cs i (i + 1) with
      | .error e => .error (.grammar e)
      | .ok (key, j) =>
        let j := skipSpace cs j
        if j ≥ len || cs.getD j ' ' != ':' then .error (.grammar ⟨"Expecting ':' delimiter", j⟩)
        else match readValue cs fuel depth (skipSpace cs (j + 1)) with
          | .error e => .error e
          | .ok (v, k) =>
            let acc := Value.setIn acc key v
            let k := skipSpace cs k
            if k < len && cs.getD k ' ' == '}' then .ok (.dict acc, k + 1)
            else if k ≥ len || cs.getD k ' ' != ',' then .error (.grammar ⟨"Expecting ',' delimiter", k⟩)
            else readObject cs fuel depth (skipSpace cs (k + 1)) acc false

/-- Reads the items of an array from offset `i` (blank space skipped). -/
def readArray (cs : Array Char) (fuel depth : Nat) (i : Nat) (acc : List Value)
    (first : Bool) : Except ReadFailure (Value × Nat) :=
  match fuel with
  | 0 => .error (.grammar ⟨"Expecting value", i⟩)
  | fuel + 1 =>
    let len := cs.size
    if first && i < len && cs.getD i ' ' == ']' then .ok (.list [], i + 1)
    else match readValue cs fuel depth i with
      | .error e => .error e
      | .ok (v, k) =>
        let acc := v :: acc
        let k := skipSpace cs k
        if k < len && cs.getD k ' ' == ']' then .ok (.list acc.reverse, k + 1)
        else if k ≥ len || cs.getD k ' ' != ',' then .error (.grammar ⟨"Expecting ',' delimiter", k⟩)
        else readArray cs fuel depth (skipSpace cs (k + 1)) acc false

end

/-- Reads a whole JSON document: one value with only blank space around it. -/
def read (doc : String) : Except ReadFailure Value :=
  let cs := doc.toList.toArray
  if cs.getD 0 ' ' == Char.ofNat 0xFEFF then
    .error (.grammar ⟨"Unexpected UTF-8 BOM (decode using utf-8-sig)", 0⟩)
  else
    match readValue cs (4 * cs.size + 8) 0 (skipSpace cs 0) with
    | .error e => .error e
    | .ok (v, j) =>
      let j := skipSpace cs j
      if j != cs.size then .error (.grammar ⟨"Extra data", j⟩) else .ok v

/-- Reads a whole JSON document, with the failure as its full text. -/
def parse (doc : String) : Except String Value :=
  match read doc with
  | .ok v => .ok v
  | .error e => .error (e.text doc)

/-! ## Writing -/

/-- Four hexadecimal digits of a number below 65536. -/
def hex4 (n : Nat) : String :=
  let d (k : Nat) : Char := "0123456789abcdef".toList.getD ((n / Nat.pow 16 k) % 16) '0'
  String.ofList [d 3, d 2, d 1, d 0]

/-- How JSON text is laid out: the separators between items and after keys, and whether
characters beyond ASCII are escaped. -/
structure Layout where
  itemSep : String := ", "
  keySep : String := ": "
  asciiOnly : Bool := true
  deriving Inhabited

/-- Separators without blank space, characters kept as they are. -/
def Layout.compact : Layout := ⟨",", ":", false⟩

/-- A JSON string literal. Quotes, backslashes and control characters are always escaped,
the common ones by their short forms; with `asciiOnly`, so is everything from DEL on, beyond
the basic plane as a surrogate pair, and a stand-in for a lone surrogate as that surrogate. -/
def quoteIn (l : Layout) (s : String) : String :=
  let esc (c : Char) : String :=
    if c == '"' then "\\\"" else if c == '\\' then "\\\\"
    else if c == '\n' then "\\n" else if c == '\r' then "\\r" else if c == '\t' then "\\t"
    else if c.toNat == 8 then "\\b" else if c.toNat == 12 then "\\f"
    else if c.toNat < 0x20 then "\\u" ++ hex4 c.toNat
    else if c.toNat < 0x7f || !l.asciiOnly then String.singleton c
    else if let some n := Text.standsForSurrogate? c then "\\u" ++ hex4 n
    else if c.toNat < 0x10000 then "\\u" ++ hex4 c.toNat
    else
      let v := c.toNat - 0x10000
      "\\u" ++ hex4 (0xD800 + v / 0x400) ++ "\\u" ++ hex4 (0xDC00 + v % 0x400)
  "\"" ++ String.join (s.toList.map esc) ++ "\""

/-- A JSON string literal in ASCII. -/
def quote (s : String) : String := quoteIn {} s

mutual

/-- The JSON text of a value in a layout. -/
def writeIn (l : Layout) : Value → String
  | .null => "null"
  | .bool b => if b then "true" else "false"
  | .int n => intText n
  | .float x => floatTextIn FloatStyle.json x
  | .str s => quoteIn l s
  | .list xs => "[" ++ writeItemsIn l xs ++ "]"
  | .dict kvs => "\x7b" ++ writeMembersIn l kvs ++ "\x7d"

/-- The JSON text of list items. -/
def writeItemsIn (l : Layout) : List Value → String
  | [] => ""
  | [x] => writeIn l x
  | x :: xs => writeIn l x ++ l.itemSep ++ writeItemsIn l xs

/-- The JSON text of object members. -/
def writeMembersIn (l : Layout) : List (String × Value) → String
  | [] => ""
  | [(k, v)] => quoteIn l k ++ l.keySep ++ writeIn l v
  | (k, v) :: kvs => quoteIn l k ++ l.keySep ++ writeIn l v ++ l.itemSep ++ writeMembersIn l kvs

end

/-- The JSON text of a value with the default layout. -/
def write (v : Value) : String := writeIn {} v

mutual

/-- Whether every number in a value is finite. -/
def allFinite : Value → Bool
  | .float x => !x.isNaN && !x.isInf
  | .list xs => allFiniteItems xs
  | .dict kvs => allFiniteMembers kvs
  | _ => true

/-- Whether every number in the items is finite. -/
def allFiniteItems : List Value → Bool
  | [] => true
  | x :: xs => allFinite x && allFiniteItems xs

/-- Whether every number in the member values is finite. -/
def allFiniteMembers : List (String × Value) → Bool
  | [] => true
  | (_, x) :: kvs => allFinite x && allFiniteMembers kvs

end

end Autoresponder.Json
