import Autoresponder.Data.Show
import Autoresponder.Number.Binary
import Autoresponder.Time.Stamp

/-!
# Values loaded from YAML

Loading gives a tree of values. Its leaves, atoms, are null, flags, integers, floats, texts,
byte strings, dates and date-times; only atoms can be mapping keys or set members. Its inner
values are lists, lists of pairs (from ordered maps and pair lists), mappings that keep their
first-written order, and sets.

Two atoms are the same key when they are equal as values: a flag, an integer and a float are
equal when their numbers are (`1`, `1.0` and `true` are one key), two date-times with zones
when they denote the same instant, and no atom of one kind equals one of another kind
otherwise. A NaN is equal to nothing, itself included.

Each value also has the text it is shown as when written out (`text`) and the text that shows
it inside a container (`repr`), and a form as a JSON value: containers stay containers, with
pairs as two-item lists and keys written as texts, and a value JSON has no word for (byte
strings, dates, date-times, sets) becomes its text.
-/

namespace Autoresponder.Yaml

open Autoresponder.Number Autoresponder.Time

/-- A value that may be a mapping key: null, a flag, an integer, a float, a text, a byte
string, a date, or a date-time with or without a zone. -/
inductive Atom where
  | none
  | bool (b : Bool)
  | int (n : Int)
  | float (x : Float)
  | str (s : String)
  | bytes (bs : List Nat)
  | date (year month day : Nat)
  | stamp (s : Stamp)
  deriving Inhabited

/-- A loaded value. -/
inductive Data where
  | atom (a : Atom)
  | list (items : List Data)
  | pairs (items : List (Data × Data))
  | dict (entries : List (Atom × Data))
  | set (items : List Atom)
  deriving Inhabited

namespace Atom

/-- The number a flag, integer or float stands for, as an integer when it is one. -/
def number? : Atom → Option (Int ⊕ Float)
  | .bool b => some (.inl (if b then 1 else 0))
  | .int n => some (.inl n)
  | .float x => some (.inr x)
  | _ => Option.none

/-- Whether two atoms are equal as values. -/
def same (a b : Atom) : Bool :=
  match a.number?, b.number? with
  | some (.inl m), some (.inl n) => m == n
  | some (.inl m), some (.inr x) => cmpFloatInt x m == some .eq
  | some (.inr x), some (.inl n) => cmpFloatInt x n == some .eq
  | some (.inr x), some (.inr y) => x == y
  | _, _ =>
    match a, b with
    | .none, .none => true
    | .str s, .str t => s == t
    | .bytes s, .bytes t => s == t
    | .date y m d, .date y' m' d' => y == y' && m == m' && d == d'
    | .stamp s, .stamp t =>
      match s.offset, t.offset with
      | Option.none, Option.none => s.wall == t.wall
      | some _, some _ => s.instant == t.instant
      | _, _ => false
    | _, _ => false

/-- The name of an atom's kind in messages. -/
def kindName : Atom → String
  | .none => "NoneType"
  | .bool _ => "bool"
  | .int _ => "int"
  | .float _ => "float"
  | .str _ => "str"
  | .bytes _ => "bytes"
  | .date .. => "datetime.date"
  | .stamp _ => "datetime.datetime"

/-- Whether an atom counts as true: null, false, zero and empty texts and byte strings do
not. -/
def truthy : Atom → Bool
  | .none => false
  | .bool b => b
  | .int n => n != 0
  | .float x => x != 0.0
  | .str s => !s.isEmpty
  | .bytes bs => !bs.isEmpty
  | _ => true

/-- A byte string in quotes: single quotes unless it holds a single quote and no double
quote; the backslash, the quote, tab, line feed and carriage return escaped by a letter, and
bytes outside printable ASCII in hexadecimal. -/
def bytesText (bs : List Nat) : String :=
  let q : Nat := if bs.contains 39 && !bs.contains 34 then 34 else 39
  let esc (b : Nat) : String :=
    if b == q || b == 92 then "\\" ++ String.singleton (Char.ofNat b)
    else if b == 9 then "\\t" else if b == 10 then "\\n" else if b == 13 then "\\r"
    else if b < 32 || b ≥ 127 then "\\x" ++ hexPadded 2 b
    else String.singleton (Char.ofNat b)
  "b" ++ String.singleton (Char.ofNat q) ++ String.join (bs.map esc) ++ String.singleton (Char.ofNat q)

/-- A date as `YYYY-MM-DD`. -/
def dateText (y m d : Nat) : String := Stamp.pad 4 y ++ "-" ++ Stamp.pad 2 m ++ "-" ++ Stamp.pad 2 d

/-- A date-time as `YYYY-MM-DD HH:MM:SS`, with `.ffffff` when the microseconds are not zero
and the offset when it has a zone. -/
def stampText (s : Stamp) : String :=
  let local_ := s.localText
  let spaced := String.ofList (local_.toList.map fun c => if c == 'T' then ' ' else c)
  spaced ++ match s.offset with
    | some off => Stamp.offsetText off
    | Option.none => ""

/-- The text of a zone offset as a time zone object shows it. -/
def zoneRepr (off : Int) : String :=
  if off == 0 then "datetime.timezone.utc"
  else
    let delta :=
      if off > 0 then "datetime.timedelta(seconds=" ++ toString off ++ ")"
      else "datetime.timedelta(days=-1, seconds=" ++ toString (86400 + off) ++ ")"
    "datetime.timezone(" ++ delta ++ ")"

/-- A date-time as it is shown inside a container: its fields, with trailing zero seconds
and microseconds left out, and its zone. -/
def stampRepr (s : Stamp) : String :=
  let (y, mo, d) := s.date
  let (h, mi, sec, us) := s.clock
  let fields := [toString y, toString mo, toString d, toString h, toString mi] ++
    (if us != 0 then [toString sec, toString us] else if sec != 0 then [toString sec] else [])
  let zone := match s.offset with
    | some off => ", tzinfo=" ++ zoneRepr off
    | Option.none => ""
  "datetime.datetime(" ++ ", ".intercalate fields ++ zone ++ ")"

/-- The text an atom is shown as on its own. -/
def text : Atom → String
  | .none => "None"
  | .bool b => if b then "True" else "False"
  | .int n => intText n
  | .float x => floatText x
  | .str s => s
  | .bytes bs => bytesText bs
  | .date y m d => dateText y m d
  | .stamp s => stampText s

/-- The text an atom is shown as inside a container. -/
def repr : Atom → String
  | .str s => quoteText s
  | .date y m d => "datetime.date(" ++ toString y ++ ", " ++ toString m ++ ", " ++ toString d ++ ")"
  | .stamp s => stampRepr s
  | a => a.text

/-- An atom as a JSON key. -/
def keyText : Atom → String
  | .none => "null"
  | .bool b => if b then "true" else "false"
  | .float x => floatTextIn FloatStyle.json x
  | a => a.text

/-- An atom as a JSON value. -/
def toValue : Atom → Value
  | .none => .null
  | .bool b => .bool b
  | .int n => .int n
  | .float x => .float x
  | .str s => .str s
  | a => .str a.text

end Atom

namespace Data

/-- Whether a value counts as true: atoms as `Atom.truthy` says, containers when not
empty. -/
def truthy : Data → Bool
  | .atom a => a.truthy
  | .list xs => !xs.isEmpty
  | .pairs xs => !xs.isEmpty
  | .dict kvs => !kvs.isEmpty
  | .set xs => !xs.isEmpty

/-- The name of a value's kind in messages. -/
def kindName : Data → String
  | .atom a => a.kindName
  | .list _ | .pairs _ => "list"
  | .dict _ => "dict"
  | .set _ => "set"

mutual

/-- The text of a value inside a container. -/
def repr : Data → String
  | .atom a => a.repr
  | .list xs => "[" ++ reprItems xs ++ "]"
  | .pairs xs => "[" ++ reprPairs xs ++ "]"
  | .dict kvs => "\x7b" ++ reprEntries kvs ++ "\x7d"
  | .set xs => if xs.isEmpty then "set()" else "\x7b" ++ ", ".intercalate (xs.map Atom.repr) ++ "\x7d"

/-- List items, comma separated. -/
def reprItems : List Data → String
  | [] => ""
  | [x] => repr x
  | x :: xs => repr x ++ ", " ++ reprItems xs

/-- Pairs as two-item tuples, comma separated. -/
def reprPairs : List (Data × Data) → String
  | [] => ""
  | [(k, v)] => "(" ++ repr k ++ ", " ++ repr v ++ ")"
  | (k, v) :: xs => "(" ++ repr k ++ ", " ++ repr v ++ "), " ++ reprPairs xs

/-- Mapping entries, comma separated. -/
def reprEntries : List (Atom × Data) → String
  | [] => ""
  | [(k, v)] => k.repr ++ ": " ++ repr v
  | (k, v) :: xs => k.repr ++ ": " ++ repr v ++ ", " ++ reprEntries xs

end

/-- The text of a value on its own: an atom as `Atom.text`, a container as inside another. -/
def text : Data → String
  | .atom a => a.text
  | d => d.repr

mutual

/-- A value as a JSON value. -/
def toValue : Data → Value
  | .atom a => a.toValue
  | .list xs => .list (itemsToValue xs)
  | .pairs xs => .list (pairsToValue xs)
  | .dict kvs => .dict (entriesToValue kvs)
  | d@(.set _) => .str d.text

/-- Items as JSON values. -/
def itemsToValue : List Data → List Value
  | [] => []
  | x :: xs => toValue x :: itemsToValue xs

/-- Pairs as two-item JSON lists. -/
def pairsToValue : List (Data × Data) → List Value
  | [] => []
  | (k, v) :: xs => .list [toValue k, toValue v] :: pairsToValue xs

/-- Entries as JSON members. -/
def entriesToValue : List (Atom × Data) → List (String × Value)
  | [] => []
  | (k, v) :: xs => (k.keyText, toValue v) :: entriesToValue xs

end

mutual

/-- A value with every text in it rewritten, where a walk through lists and mapping values
finds it: keys, pairs and sets are left as they are. -/
def mapTexts (f : String → String) : Data → Data
  | .atom (.str s) => .atom (.str (f s))
  | .list xs => .list (mapTextsItems f xs)
  | .dict kvs => .dict (mapTextsEntries f kvs)
  | d => d

/-- Items with their texts rewritten. -/
def mapTextsItems (f : String → String) : List Data → List Data
  | [] => []
  | x :: xs => mapTexts f x :: mapTextsItems f xs

/-- Entries with the texts of their values rewritten. -/
def mapTextsEntries (f : String → String) : List (Atom × Data) → List (Atom × Data)
  | [] => []
  | (k, x) :: xs => (k, mapTexts f x) :: mapTextsEntries f xs

end

/-- The value under a text key of a mapping, if it is a mapping that has the key. -/
def lookup? (d : Data) (key : String) : Option Data :=
  match d with
  | .dict kvs => (kvs.find? fun (k, _) => k.same (.str key)).map (·.2)
  | _ => Option.none

end Data

end Autoresponder.Yaml
