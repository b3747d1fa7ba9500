import Autoresponder.Yaml.Data.Build

/-!
# Loading a YAML document

A settings file is read as text: a carriage return, alone or before a line feed, ends a line
as a line feed does. The text may hold tabs, line feeds, printable ASCII, the next-line
control and the characters from U+00A0 on other than surrogates and the two
non-characters U+FFFE and U+FFFF; the first other character refuses it, by its position.

Loading then composes the only document of the text and builds its value; a text with no
document loads as nothing.
-/

namespace Autoresponder.Yaml

/-- The characters of a text with each carriage return, alone or before a line feed, made a
line feed. -/
def unifyBreaks : List Char → List Char
  | '\r' :: '\n' :: rest => '\n' :: unifyBreaks rest
  | '\r' :: rest => '\n' :: unifyBreaks rest
  | c :: rest => c :: unifyBreaks rest
  | [] => []

/-- Whether a character may appear in a loaded text. -/
def isAcceptable (c : Char) : Bool :=
  let n := c.toNat
  n == 0x09 || n == 0x0A || n == 0x0D || (0x20 ≤ n && n ≤ 0x7E) || n == 0x85 ||
    (0xA0 ≤ n && n ≤ 0xD7FF) || (0xE000 ≤ n && n ≤ 0xFFFD) || 0x10000 ≤ n

/-- The first character that may not appear, with its position. -/
def firstUnacceptable (cs : List Char) : Option (Char × Nat) :=
  (cs.zipIdx.find? fun (c, _) => !isAcceptable c)

/-- Loads the only document of a text; none when it has no document. -/
def load (text : String) : Except Failure (Option Data) := do
  let cs := unifyBreaks text.toList
  if let some (c, i) := firstUnacceptable cs then throw (.unacceptable c.toNat i)
  match ← Graph.ofChars? cs.toArray with
  | none => return none
  | some g => return some (← g.build)

end Autoresponder.Yaml
