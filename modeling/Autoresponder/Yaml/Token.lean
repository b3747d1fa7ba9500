import Autoresponder.Yaml.Mark

/-!
# YAML tokens, and the cursor that cuts them

Tokens are the words of a YAML text: indicators such as `-`, `?`, `:`, `,` and the flow
brackets, the starts and ends of block collections that indentation implies, properties
(anchors, aliases and tags), scalars, directives and the markers of documents.

The cursor walks the text one character at a time; past the end it sees the character
`\x00`, which cannot appear in a loaded text. Besides its place the cursor keeps what cutting
the text needs to remember: how deep in flow collections it is (a count that a stray closing
bracket can take below zero), the indentation of the open block collections, whether a simple
key may start here, the places where a simple key might have started, and the tokens cut but
not yet taken.
-/

namespace Autoresponder.Yaml

/-- The value of a directive: a version, a tag handle with its prefix, or nothing read. -/
inductive DirectiveValue where
  | version (major minor : Nat)
  | tagPrefix (handle pre : String)
  | none
  deriving Inhabited

/-- How a scalar was written. -/
inductive ScalarStyle where
  | plain
  | single
  | double
  | literal
  | folded
  deriving Inhabited, BEq

/-- What a token is. -/
inductive TokenKind where
  | streamStart
  | streamEnd
  | directive (name : String) (value : DirectiveValue)
  | documentStart
  | documentEnd
  | blockSequenceStart
  | blockMappingStart
  | blockEnd
  | flowSequenceStart
  | flowMappingStart
  | flowSequenceEnd
  | flowMappingEnd
  | key
  | value
  | blockEntry
  | flowEntry
  | alias (name : String)
  | anchor (name : String)
  | tag (handle : Option String) (suffix : String)
  | scalar (text : String) (style : ScalarStyle)
  deriving Inhabited

/-- A token with the places where it starts and ends. -/
structure Token where
  kind : TokenKind
  start : Mark
  stop : Mark
  deriving Inhabited

/-- The name of a kind of token in messages. -/
def TokenKind.name : TokenKind → String
  | .streamStart => "<stream start>"
  | .streamEnd => "<stream end>"
  | .directive .. => "<directive>"
  | .documentStart => "<document start>"
  | .documentEnd => "<document end>"
  | .blockSequenceStart => "<block sequence start>"
  | .blockMappingStart => "<block mapping start>"
  | .blockEnd => "<block end>"
  | .flowSequenceStart => "["
  | .flowMappingStart => "\x7b"
  | .flowSequenceEnd => "]"
  | .flowMappingEnd => "\x7d"
  | .key => "?"
  | .value => ":"
  | .blockEntry => "-"
  | .flowEntry => ","
  | .alias _ => "<alias>"
  | .anchor _ => "<anchor>"
  | .tag .. => "<tag>"
  | .scalar .. => "<scalar>"

/-- A place where a simple key might have started: the number of the token it would be, whether
it must be a key, and where it is. -/
structure SimpleKey where
  tokenNumber : Nat
  required : Bool
  mark : Mark
  deriving Inhabited

/-- The state of cutting a text into tokens. -/
structure Cursor where
  text : Array Char
  index : Nat := 0
  line : Nat := 0
  column : Nat := 0
  done : Bool := false
  flowLevel : Int := 0
  queue : List Token := []
  taken : Nat := 0
  indent : Int := -1
  indents : List Int := []
  allowSimpleKey : Bool := true
  /-- Possible simple keys by flow level, in the order they were noted. -/
  simpleKeys : List (Int × SimpleKey) := []
  deriving Inhabited

/-- Cutting tokens: a step on the cursor that may refuse the text. -/
abbrev ScanM := StateT Cursor (Except Failure)

/-- A line break: line feed, carriage return, next line, line or paragraph separator. -/
def isBreak (c : Char) : Bool :=
  c == '\n' || c == '\r' || c == '\x85' || c == '\u2028' || c == '\u2029'

/-- A line break or the end of the text. -/
def isBreakOrEnd (c : Char) : Bool := c == '\x00' || isBreak c

/-- A blank, a line break or the end of the text. -/
def isSpaceOrEnd (c : Char) : Bool := c == ' ' || isBreakOrEnd c

/-- A blank, a tab, a line break or the end of the text. -/
def isBlankOrEnd (c : Char) : Bool := c == '\t' || isSpaceOrEnd c

/-- A blank or a tab. -/
def isSpaceOrTab (c : Char) : Bool := c == ' ' || c == '\t'

/-- An ASCII letter or digit, or `-` or `_`: what names of anchors, directives and tag handles
are made of. -/
def isNameChar (c : Char) : Bool :=
  ('0' ≤ c && c ≤ '9') || ('A' ≤ c && c ≤ 'Z') || ('a' ≤ c && c ≤ 'z') || c == '-' || c == '_'

/-- A hexadecimal digit. -/
def isHexDigit (c : Char) : Bool :=
  ('0' ≤ c && c ≤ '9') || ('A' ≤ c && c ≤ 'F') || ('a' ≤ c && c ≤ 'f')

/-- The value of a hexadecimal digit. -/
def hexValue (c : Char) : Nat :=
  if '0' ≤ c && c ≤ '9' then c.toNat - '0'.toNat
  else if 'a' ≤ c && c ≤ 'f' then c.toNat - 'a'.toNat + 10
  else c.toNat - 'A'.toNat + 10

/-- The value of a run of hexadecimal digits. -/
def hexNumber (cs : List Char) : Nat := cs.foldl (fun n c => n * 16 + hexValue c) 0

/-- How many characters from position `i` on pass a test. -/
def countWhile (text : Array Char) (p : Char → Bool) (i : Nat) : Nat :=
  if h : i < text.size then
    if p text[i] then countWhile text p (i + 1) + 1 else 0
  else 0
termination_by text.size - i

namespace Cursor

/-- The character `k` places ahead, or `\x00` past the end. -/
def peekAt (c : Cursor) (k : Nat) : Char := c.text.getD (c.index + k) '\x00'

/-- The place of the cursor. -/
def mark (c : Cursor) : Mark := ⟨c.index, c.line, c.column⟩

/-- The cursor moved over one character: a line break starts a new line, and a byte order
mark takes no column. -/
def step (c : Cursor) : Cursor :=
  let ch := c.peekAt 0
  let next := c.peekAt 1
  if ch == '\n' || ch == '\x85' || ch == '\u2028' || ch == '\u2029' || (ch == '\r' && next != '\n')
  then { c with index := c.index + 1, line := c.line + 1, column := 0 }
  else if ch == '\uFEFF' then { c with index := c.index + 1 }
  else { c with index := c.index + 1, column := c.column + 1 }

/-- The cursor moved over `n` characters. -/
def advance (c : Cursor) : Nat → Cursor
  | 0 => c
  | n + 1 => (c.step).advance n

/-- The next `n` characters, fewer at the end of the text. -/
def ahead (c : Cursor) (n : Nat) : List Char := (c.text.extract c.index (c.index + n)).toList

end Cursor

/-- The character `k` places ahead. -/
def peekAt (k : Nat) : ScanM Char := return (← get).peekAt k

/-- The character at the cursor. -/
def peek : ScanM Char := peekAt 0

/-- The next `n` characters. -/
def ahead (n : Nat) : ScanM (List Char) := return (← get).ahead n

/-- The next `n` characters as a text. -/
def aheadText (n : Nat) : ScanM String := return String.ofList (← ahead n)

/-- Moves over `n` characters. -/
def forward (n : Nat := 1) : ScanM Unit := modify (·.advance n)

/-- The place of the cursor. -/
def here : ScanM Mark := return (← get).mark

/-- How many characters from the cursor on pass a test. -/
def countAhead (p : Char → Bool) : ScanM Nat := do
  let c ← get
  return countWhile c.text p c.index

/-- Moves over the characters that pass a test. -/
def skipWhile (p : Char → Bool) : ScanM Unit := do forward (← countAhead p)

/-- Refuses the text with a problem found at the cursor. -/
def refuse {α : Type} (context : Option String) (contextMark : Option Mark) (problem : String) :
    ScanM α := do
  throw (scanProblem context contextMark problem (← here))

/-- Moves over a line break and gives what it stands for: a line feed for a line feed,
carriage return (with a line feed after it or not) or next line, the separator itself for a
line or paragraph separator, and nothing when no line break is at the cursor. -/
def lineBreak : ScanM String := do
  let ch ← peek
  if ch == '\r' || ch == '\n' || ch == '\x85' then
    if (← ahead 2) == ['\r', '\n'] then forward 2 else forward
    return "\n"
  else if ch == '\u2028' || ch == '\u2029' then
    forward
    return String.singleton ch
  else return ""

/-- A character as a quoted text in messages. -/
def shown (c : Char) : String := quoteText (String.singleton c)

end Autoresponder.Yaml
