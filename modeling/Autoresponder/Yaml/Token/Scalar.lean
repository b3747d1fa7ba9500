import Autoresponder.Text.Basic
import Autoresponder.Yaml.Token

/-!
# Scalars

Three ways of writing a scalar, each with its own rules for line breaks.

* Plain scalars end at a blank before `#`, at `: ` (in flow also before `,`, `?` and the
  brackets), at a line indented too little for the block around them, and at a document
  marker. Their line breaks fold: a single break becomes a blank, and a run of breaks keeps
  all but the first.
* Quoted scalars run to their closing quote. In single quotes `''` stands for a quote; in
  double quotes the backslash escapes a character, a code point in hexadecimal, or a line
  break (which then disappears). Breaks fold as in plain scalars, and blanks before a break
  are dropped.
* Block scalars (`|` literal, `>` folded) hold the lines indented at least as much as their
  first line, or as much as an explicit indentation indicator says. A folded scalar joins two
  lines that both start with other than a blank by a blank. The final line breaks are kept
  one (clip), none (`-`, strip) or all (`+`, keep).
-/

namespace Autoresponder.Yaml

/-- Whether the cursor is inside a flow collection: the flow count is not zero. -/
def inFlow : ScanM Bool := return (← get).flowLevel != 0

/-- Whether the next three characters are a document marker followed by a blank, a break or
the end. -/
def atDocumentMarker : ScanM Bool := do
  let three ← ahead 3
  return (three == ['-', '-', '-'] || three == ['.', '.', '.']) && isBlankOrEnd (← peekAt 3)

/-! ## Block scalars -/

/-- How a block scalar keeps its final line breaks. -/
inductive Chomping where
  | strip
  | clip
  | keep
  deriving BEq

/-- Reads the indicators after `|` or `>`: chomping and indentation, in either order. -/
def blockIndicators (start : Mark) : ScanM (Chomping × Option Nat) := do
  let context := some "while scanning a block scalar"
  let zero := "expected indentation indicator in the range 1-9, but found 0"
  let chompOf (c : Char) : Chomping := if c == '+' then .keep else .strip
  let isDigit (c : Char) : Bool := '0' ≤ c && c ≤ '9'
  let ch ← peek
  let result ←
    if ch == '+' || ch == '-' then do
      forward
      let d ← peek
      if isDigit d then
        if d == '0' then refuse context (some start) zero
        forward
        pure (chompOf ch, some (d.toNat - '0'.toNat))
      else pure (chompOf ch, none)
    else if isDigit ch then do
      if ch == '0' then refuse context (some start) zero
      forward
      let c2 ← peek
      if c2 == '+' || c2 == '-' then
        forward
        pure (chompOf c2, some (ch.toNat - '0'.toNat))
      else pure (Chomping.clip, some (ch.toNat - '0'.toNat))
    else pure (Chomping.clip, none)
  let ch ← peek
  if !isSpaceOrEnd ch then
    refuse context (some start) ("expected chomping or indentation indicators, but found " ++ shown ch)
  return result

/-- Skips blanks and a comment to the end of the header line of a block scalar. -/
def blockHeaderRest (start : Mark) : ScanM Unit := do
  skipWhile (· == ' ')
  if (← peek) == '#' then skipWhile (!isBreakOrEnd ·)
  let ch ← peek
  if !isBreakOrEnd ch then
    refuse (some "while scanning a block scalar") (some start)
      ("expected a comment or a line break, but found " ++ shown ch)
  let _ ← lineBreak

/-- Reads the blank lines before the first line of an automatically indented block scalar:
their breaks, the deepest column reached, and the place after the last break. -/
def autoIndentation : ScanM (List String × Nat × Mark) := do
  let c ← get
  let rec go (fuel : Nat) (breaks : List String) (deepest : Nat) (stop : Mark) :
      ScanM (List String × Nat × Mark) := do
    match fuel with
    | 0 => return (breaks.reverse, deepest, stop)
    | fuel + 1 =>
      let ch ← peek
      if ch == ' ' then
        forward
        let col := (← get).column
        go fuel breaks (max deepest col) stop
      else if isBreak ch then
        let b ← lineBreak
        go fuel (b :: breaks) deepest (← here)
      else return (breaks.reverse, deepest, stop)
  go (c.text.size + 1) [] 0 (← here)

/-- Moves over blanks up to a column. -/
def indentTo (indent : Nat) : ScanM Unit := do
  let c ← get
  let n := min (countWhile c.text (· == ' ') c.index) (indent - c.column)
  forward n

/-- Reads the line breaks, with indentation up to a column, before the next line of a block
scalar: the breaks and the place after the last. -/
def blockBreaks (indent : Nat) : ScanM (List String × Mark) := do
  let c ← get
  let stop ← here
  indentTo indent
  let rec go (fuel : Nat) (breaks : List String) (stop : Mark) :
      ScanM (List String × Mark) := do
    match fuel with
    | 0 => return (breaks.reverse, stop)
    | fuel + 1 =>
      if isBreak (← peek) then
        let b ← lineBreak
        let stop ← here
        indentTo indent
        go fuel (b :: breaks) stop
      else return (breaks.reverse, stop)
  go (c.text.size + 1) [] stop

/-- Reads the lines of a block scalar at an indentation. `breaks` are the breaks before the
current line; the result is the text so far, the last line break read, the breaks after it
and the end place. -/
def blockLines (folded : Bool) (indent : Nat) : Nat → String → List String → String → Mark →
    ScanM (String × String × List String × Mark)
  | 0, text, breaks, lastBreak, stop => return (text, lastBreak, breaks, stop)
  | fuel + 1, text, breaks, lastBreak, stop => do
    if (← get).column == indent && (← peek) != '\x00' then
      let text := text ++ String.join breaks
      let leadingSolid := !isSpaceOrTab (← peek)
      let n ← countAhead (!isBreakOrEnd ·)
      let line ← aheadText n
      forward n
      let text := text ++ line
      let lb ← lineBreak
      let (breaks, stop) ← blockBreaks indent
      if (← get).column == indent && (← peek) != '\x00' then
        let joined :=
          if folded && lb == "\n" && leadingSolid && !isSpaceOrTab (← peek) then
            if breaks.isEmpty then text ++ " " else text
          else text ++ lb
        blockLines folded indent fuel joined breaks lb stop
      else return (text, lb, breaks, stop)
    else return (text, lastBreak, breaks, stop)

/-- Reads a literal (`|`) or folded (`>`) block scalar. -/
def scanBlockScalar (folded : Bool) : ScanM Token := do
  let start ← here
  forward
  let (chomp, increment) ← blockIndicators start
  blockHeaderRest start
  let c ← get
  let least : Nat := max 1 (c.indent + 1).toNat
  let (indent, breaks, stop) ← match increment with
    | none => do
      let (breaks, deepest, stop) ← autoIndentation
      pure (max least deepest, breaks, stop)
    | some k => do
      let indent := least + k - 1
      let (breaks, stop) ← blockBreaks indent
      pure (indent, breaks, stop)
  let (text, lastBreak, breaks, stop) ←
    blockLines folded indent ((← get).text.size + 1) "" breaks "" stop
  let text := if chomp != .strip then text ++ lastBreak else text
  let text := if chomp == .keep then text ++ String.join breaks else text
  return ⟨.scalar text (if folded then .folded else .literal), start, stop⟩

/-! ## Quoted scalars -/

/-- The character a one-letter escape of a double-quoted scalar stands for. -/
def escapeFor (c : Char) : Option Char :=
  match c with
  | '0' => some '\x00'
  | 'a' => some '\x07'
  | 'b' => some '\x08'
  | 't' => some '\t'
  | '\t' => some '\t'
  | 'n' => some '\n'
  | 'v' => some '\x0b'
  | 'f' => some '\x0c'
  | 'r' => some '\r'
  | 'e' => some '\x1b'
  | ' ' => some ' '
  | '"' => some '"'
  | '\\' => some '\\'
  | '/' => some '/'
  | 'N' => some '\x85'
  | '_' => some '\xa0'
  | 'L' => some '\u2028'
  | 'P' => some '\u2029'
  | _ => none

/-- How many hexadecimal digits follow an escape letter for a code point. -/
def escapeDigits (c : Char) : Option Nat :=
  match c with
  | 'x' => some 2
  | 'u' => some 4
  | 'U' => some 8
  | _ => none

/-- The character of a code point; a lone surrogate is kept by its stand-in. -/
def codePointChar (n : Nat) : Char :=
  if 0xD800 ≤ n && n ≤ 0xDFFF then Text.surrogateStandIn n else Char.ofNat n

/-- Reads the line breaks inside a quoted scalar after a first one, with the blanks around
them. A document marker at the start of such a line is refused. -/
def quotedBreaks (start : Mark) : Nat → List String → ScanM (List String)
  | 0, acc => return acc.reverse
  | fuel + 1, acc => do
    if ← atDocumentMarker then
      refuse (some "while scanning a quoted scalar") (some start) "found unexpected document separator"
    skipWhile isSpaceOrTab
    if isBreak (← peek) then
      let b ← lineBreak
      quotedBreaks start fuel (b :: acc)
    else return acc.reverse

/-- Reads a run of a quoted scalar up to blanks, a break, the end or its closing quote. -/
def quotedRun (double : Bool) (start : Mark) : Nat → String → ScanM String
  | 0, acc => return acc
  | fuel + 1, acc => do
    let n ← countAhead fun ch => !(ch == '\'' || ch == '"' || ch == '\\' || isBlankOrEnd ch)
    let acc := acc ++ (← aheadText n)
    forward n
    let ch ← peek
    if !double && ch == '\'' && (← peekAt 1) == '\'' then
      forward 2
      quotedRun double start fuel (acc.push '\'')
    else if (double && ch == '\'') || (!double && (ch == '"' || ch == '\\')) then
      forward
      quotedRun double start fuel (acc.push ch)
    else if double && ch == '\\' then
      forward
      let e ← peek
      if let some r := escapeFor e then
        forward
        quotedRun double start fuel (acc.push r)
      else if let some k := escapeDigits e then
        forward
        for i in List.range k do
          let d ← peekAt i
          if !isHexDigit d then
            refuse (some "while scanning a double-quoted scalar") (some start)
              ("expected escape sequence of " ++ toString k ++ " hexadecimal numbers, but found " ++
                shown d)
        let code := hexNumber (← ahead k)
        if code > 0x10FFFF then throw (.badValue "chr() arg not in range(0x110000)")
        forward k
        quotedRun double start fuel (acc.push (codePointChar code))
      else if isBreak e then
        let _ ← lineBreak
        let breaks ← quotedBreaks start ((← get).text.size + 1) []
        quotedRun double start fuel (acc ++ String.join breaks)
      else
        refuse (some "while scanning a double-quoted scalar") (some start)
          ("found unknown escape character " ++ shown e)
    else return acc

/-- Reads blanks and line breaks inside a quoted scalar: the blanks stay when no break
follows, a single line feed becomes a blank, and further breaks stay. -/
def quotedSpaces (start : Mark) : ScanM String := do
  let n ← countAhead isSpaceOrTab
  let blanks ← aheadText n
  forward n
  let ch ← peek
  if ch == '\x00' then
    refuse (some "while scanning a quoted scalar") (some start) "found unexpected end of stream"
  else if isBreak ch then
    let lb ← lineBreak
    let breaks ← quotedBreaks start ((← get).text.size + 1) []
    let first := if lb != "\n" then lb else if breaks.isEmpty then " " else ""
    return first ++ String.join breaks
  else return blanks

/-- Reads a single- or double-quoted scalar. -/
def scanQuoted (double : Bool) : ScanM Token := do
  let start ← here
  let quote ← peek
  forward
  let size := (← get).text.size + 1
  let first ← quotedRun double start size ""
  let rec go (fuel : Nat) (acc : String) : ScanM String := do
    match fuel with
    | 0 => return acc
    | fuel + 1 =>
      if (← peek) == quote then return acc
      let spaces ← quotedSpaces start
      let run ← quotedRun double start size ""
      go fuel (acc ++ spaces ++ run)
  let text ← go size first
  forward
  return ⟨.scalar text (if double then .double else .single), start, ← here⟩

/-! ## Plain scalars -/

/-- Reads blanks and line breaks after a run of a plain scalar. Gives what they fold to, or
none at a document marker after a break. Reaching a new line allows a simple key again. -/
def plainSpaces : ScanM (Option String) := do
  let n ← countAhead (· == ' ')
  let blanks ← aheadText n
  forward n
  if isBreak (← peek) then
    let lb ← lineBreak
    modify fun c => { c with allowSimpleKey := true }
    if ← atDocumentMarker then return none
    let rec more (fuel : Nat) (acc : List String) : ScanM (Option (List String)) := do
      match fuel with
      | 0 => return some acc.reverse
      | fuel + 1 =>
        let ch ← peek
        if ch == ' ' then
          forward
          more fuel acc
        else if isBreak ch then
          let b ← lineBreak
          if ← atDocumentMarker then return none
          more fuel (b :: acc)
        else return some acc.reverse
    match ← more ((← get).text.size + 1) [] with
    | none => return none
    | some breaks =>
      let first := if lb != "\n" then lb else if breaks.isEmpty then " " else ""
      return some (first ++ String.join breaks)
  else return some blanks

/-- Whether a plain scalar ends before the character `k` places ahead. -/
def plainEndsAt (flow : Bool) (k : Nat) : ScanM Bool := do
  let ch ← peekAt k
  if isBlankOrEnd ch then return true
  if ch == ':' then
    let next ← peekAt (k + 1)
    if isBlankOrEnd next || (flow && ",[]\x7b\x7d".toList.contains next) then return true
  return flow && ",?[]\x7b\x7d".toList.contains ch

/-- The length of the run of a plain scalar at the cursor. -/
def plainRunLength (flow : Bool) : Nat → Nat → ScanM Nat
  | 0, k => return k
  | fuel + 1, k => do
    if ← plainEndsAt flow k then return k else plainRunLength flow fuel (k + 1)

/-- Reads a plain scalar. -/
def scanPlain : ScanM Token := do
  let start ← here
  let indent : Int := (← get).indent + 1
  let size := (← get).text.size + 1
  let rec go (fuel : Nat) (text : String) (spaces : String) (stop : Mark) :
      ScanM (String × Mark) := do
    match fuel with
    | 0 => return (text, stop)
    | fuel + 1 =>
      if (← peek) == '#' then return (text, stop)
      let flow ← inFlow
      let n ← plainRunLength flow size 0
      if n == 0 then return (text, stop)
      modify fun c => { c with allowSimpleKey := false }
      let text := text ++ spaces ++ (← aheadText n)
      forward n
      let stop ← here
      match ← plainSpaces with
      | none => return (text, stop)
      | some more =>
        let c ← get
        if more.isEmpty || c.peekAt 0 == '#' || (c.flowLevel == 0 && (c.column : Int) < indent) then
          return (text, stop)
        go fuel text more stop
  let (text, stop) ← go size "" "" start
  return ⟨.scalar text .plain, start, stop⟩

end Autoresponder.Yaml
