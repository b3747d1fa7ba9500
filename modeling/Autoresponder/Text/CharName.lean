import Autoresponder.Text.NameTable
import Autoresponder.Text.Span

/-!
# Characters by name

A character is found from its Unicode name, from one of its other names (aliases), or, for
the CJK unified ideographs and the Hangul syllables, from the name spelled out of its code
point. Letters of a name are compared without ASCII case, except in the parts spelled out of
a code point: the hexadecimal digits of an ideograph and the syllable parts of a Hangul name
are written in capitals.
-/

namespace Autoresponder.Text

/-- Where a walk through a chunk of the name table stands: the code point and name of the
last entry read, the entry being read (its code point and the part of its name read so
far), and the code point being read after `=`. -/
structure NameWalk where
  last : Nat := 0
  prev : Array Char := #[]
  cur : Option (Nat × Array Char) := none
  hex : Option Nat := none

/-- The value of a capital hexadecimal digit. -/
def capitalHexValue (c : Char) : Nat :=
  if '0' ≤ c && c ≤ '9' then c.toNat - '0'.toNat else c.toNat - 'A'.toNat + 10

/-- The code point of the entry being read, when its name is `target`. -/
def NameWalk.found (w : NameWalk) (target : List Char) : Option Nat :=
  match w.cur with
  | some (code, name) => if name.toList == target then some code else none
  | none => none

/-- The walk once the entry being read is done with. -/
def NameWalk.close (w : NameWalk) : NameWalk :=
  match w.cur with
  | some (code, name) => { w with last := code, prev := name, cur := none }
  | none => w

/-- Whether a character of a chunk starts an entry or a code point. -/
def startsEntry (c : Char) : Bool := c == '=' || ('a' ≤ c && c ≤ 'z')

/-- Reads one character of a chunk. -/
def NameWalk.step (w : NameWalk) (c : Char) : NameWalk :=
  if c == '=' then { w.close with hex := some 0 }
  else if 'a' ≤ c && c ≤ 'z' then
    let w := w.close
    let code := w.hex.getD (w.last + 1)
    { w with cur := some (code, w.prev.extract 0 (c.toNat - 'a'.toNat)), hex := none }
  else match w.hex, w.cur with
    | some h, _ => { w with hex := some (h * 16 + capitalHexValue c) }
    | none, some (code, name) => { w with cur := some (code, name.push c) }
    | none, none => w

/-- The code point named `target` among the rest of a chunk, checking each entry as it
ends. -/
def findInChunk (target : List Char) (w : NameWalk) : List Char → Option Nat
  | [] => w.found target
  | c :: cs =>
    if startsEntry c then
      match w.found target with
      | some n => some n
      | none => findInChunk target (w.step c) cs
    else findInChunk target (w.step c) cs

/-- The code point with the name `target` in the name table or among the aliases; the name
is compared exactly. -/
def tableCode? (target : List Char) : Option Nat :=
  match nameChunks.findSome? fun chunk => findInChunk target {} chunk.toList with
  | some n => some n
  | none => (nameAliases.find? fun (_, name) => name.toList == target).map (·.1)

/-- The leading consonants, vowels and trailing consonants that spell Hangul syllables, in
the order of their code points. -/
def hangulLeads : List String :=
  ["G", "GG", "N", "D", "DD", "R", "M", "B", "BB", "S", "SS", "", "J", "JJ", "C", "K", "T", "P",
    "H"]

/-- The vowels of Hangul syllables. -/
def hangulVowels : List String :=
  ["A", "AE", "YA", "YAE", "EO", "E", "YEO", "YE", "O", "WA", "WAE", "OE", "YO", "U", "WEO", "WE",
    "WI", "YU", "EU", "YI", "I"]

/-- The trailing consonants of Hangul syllables; the first is none. -/
def hangulTails : List String :=
  ["", "G", "GG", "GS", "N", "NJ", "NH", "D", "L", "LG", "LM", "LB", "LS", "LT", "LP", "LH", "M",
    "B", "BS", "S", "SS", "NG", "J", "C", "K", "T", "P", "H"]

/-- The longest part of `parts` that starts `s`, with its index; the first one of that length
wins. -/
def longestPart (parts : List String) (s : List Char) : Option (Nat × Nat) :=
  (parts.zipIdx).foldl (fun best (p, i) =>
    let n := p.length
    if p.toList.isPrefixOf s && best.all (·.2 < n) then some (i, n) else best) none

/-- The Hangul syllable spelled by the parts after `HANGUL SYLLABLE `. -/
def hangulCode? (s : List Char) : Option Nat := do
  let (l, n1) ← longestPart hangulLeads s
  let s := s.drop n1
  let (v, n2) ← longestPart hangulVowels s
  let s := s.drop n2
  let (t, n3) ← longestPart hangulTails s
  if s.length == n3 then some (0xAC00 + (l * 21 + v) * 28 + t) else none

/-- The CJK unified ideograph spelled by the four or five capital hexadecimal digits after
`CJK UNIFIED IDEOGRAPH-`. -/
def ideographCode? (s : List Char) : Option Nat :=
  if (s.length == 4 || s.length == 5) &&
      s.all (fun c => ('0' ≤ c && c ≤ '9') || ('A' ≤ c && c ≤ 'F')) then
    let n := s.foldl (fun a c => a * 16 + capitalHexValue c) 0
    if inSpans unifiedIdeographSpans n then some n else none
  else none

/-- Whether `s` starts with `pre`, ignoring ASCII case. -/
def startsWithoutCase (s pre : List Char) : Bool :=
  pre.length ≤ s.length && (s.take pre.length).map Char.toUpper == pre

/-- The code point a name stands for. A name that starts like a Hangul syllable's or an
ideograph's is read only as one. -/
def codeOfName? (name : String) : Option Nat :=
  let s := name.toList
  let hangul := "HANGUL SYLLABLE ".toList
  let ideograph := "CJK UNIFIED IDEOGRAPH-".toList
  if startsWithoutCase s hangul then hangulCode? (s.drop hangul.length)
  else if startsWithoutCase s ideograph then ideographCode? (s.drop ideograph.length)
  else tableCode? (s.map Char.toUpper)

end Autoresponder.Text
