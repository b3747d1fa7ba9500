import Autoresponder.Data.Value
import Autoresponder.Number.Text

/-!
# Values as text for people

`Value.display` is the text a value is shown as when it is put into a message: a text is
itself, null is `None`, booleans are `True` and `False`, floats take their shortest form.
Inside a list or object a text is quoted: with single quotes unless it holds a single quote
and no double quote, with backslash escapes for the quote, the backslash, tab, line feed,
carriage return and characters that are not printable.
-/

namespace Autoresponder

open Autoresponder.Number Autoresponder.Text

/-- Lower-case hexadecimal digits of `n`, padded with zeros to `width`. -/
def hexPadded (width n : Nat) : String :=
  let ds := Nat.toDigits 16 n
  String.ofList (List.replicate (width - ds.length) '0' ++ ds)

/-- A text in quotes, escaped as described above. -/
def quoteText (s : String) : String :=
  let q : Char := if s.contains '\'' && !s.contains '"' then '"' else '\''
  let esc (c : Char) : String :=
    if c == q || c == '\\' then "\\" ++ String.singleton c
    else if c == '\t' then "\\t" else if c == '\n' then "\\n" else if c == '\r' then "\\r"
    else if c.toNat < 0x20 || c.toNat == 0x7f then "\\x" ++ hexPadded 2 c.toNat
    else if c.toNat < 0x7f then String.singleton c
    else if let some n := standsForSurrogate? c then "\\u" ++ hexPadded 4 n
    else if isPrintable c then String.singleton c
    else if c.toNat ≤ 0xff then "\\x" ++ hexPadded 2 c.toNat
    else if c.toNat ≤ 0xffff then "\\u" ++ hexPadded 4 c.toNat
    else "\\U" ++ hexPadded 8 c.toNat
  String.singleton q ++ String.join (s.toList.map esc) ++ String.singleton q

namespace Value

mutual

/-- The text of a value inside a container: texts quoted. -/
def quoted : Value → String
  | .null => "None"
  | .bool b => if b then "True" else "False"
  | .int n => intText n
  | .float x => floatText x
  | .str s => quoteText s
  | .list xs => "[" ++ quotedItems xs ++ "]"
  | .dict kvs => "\x7b" ++ quotedMembers kvs ++ "\x7d"

/-- List items, comma separated. -/
def quotedItems : List Value → String
  | [] => ""
  | [x] => quoted x
  | x :: xs => quoted x ++ ", " ++ quotedItems xs

/-- Object members, comma separated. -/
def quotedMembers : List (String × Value) → String
  | [] => ""
  | [(k, v)] => quoteText k ++ ": " ++ quoted v
  | (k, v) :: kvs => quoteText k ++ ": " ++ quoted v ++ ", " ++ quotedMembers kvs

end

/-- The text of a value on its own: a text is itself, anything else as inside a container. -/
def display : Value → String
  | .str s => s
  | v => v.quoted

/-- The text of a value, with the empty text for null. -/
def displayOrEmpty : Value → String
  | .null => ""
  | v => v.display

end Value

end Autoresponder
