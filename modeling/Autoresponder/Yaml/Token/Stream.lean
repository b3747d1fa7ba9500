import Autoresponder.Yaml.Token.Property
import Autoresponder.Yaml.Token.Scalar

/-!
# The token stream

Tokens are cut on demand, one step at a time, each step reading the next token after blanks,
comments and line breaks. What a step emits depends on the state the cursor keeps:

* Indentation. In block context a line that starts left of the current indentation closes
  block collections (each a block-end token); a `-`, `?` or `:` further right than the
  current indentation opens a block sequence or mapping.
* Simple keys. A scalar, property or flow collection may turn out to be a mapping key when a
  `:` follows it on the same line within 1024 characters. The place where such a key might
  have started is noted, and a key token (and perhaps a block-mapping start) is put before it
  once the `:` is seen. Where a block mapping requires a key and the `:` never comes, the text
  is refused.

The stream hands out one token at a time. Before it does, it cuts tokens until the first one
waiting can no longer become a simple key; a refusal therefore surfaces only when a token
behind it is asked for.
-/

namespace Autoresponder.Yaml

/-- Adds a token to the end of the queue. -/
def emit (t : Token) : ScanM Unit := modify fun c => { c with queue := c.queue ++ [t] }

/-- A list with an element put before position `i`, counted from the end when negative and
held to the list's bounds. -/
def insertAt {α : Type} (xs : List α) (i : Int) (x : α) : List α :=
  let n : Int := xs.length
  let j := if i < 0 then max 0 (i + n) else min i n
  xs.take j.toNat ++ x :: xs.drop j.toNat

/-- Whether a noted simple key can still be one: on the current line and at most 1024
characters back. -/
def SimpleKey.alive (c : Cursor) (key : SimpleKey) : Bool :=
  key.mark.line == c.line && c.index - key.mark.index ≤ 1024

/-- The refusal for a required key whose `:` was not found. -/
def missingColon (key : SimpleKey) (c : Cursor) : Failure :=
  scanProblem (some "while scanning a simple key") (some key.mark) "could not find expected ':'" c.mark

/-- Forgets the noted keys that can no longer be keys; a required one refuses the text. -/
def dropStaleKeys : ScanM Unit := do
  let c ← get
  for (_, key) in c.simpleKeys do
    if !key.alive c && key.required then throw (missingColon key c)
  set { c with simpleKeys := c.simpleKeys.filter fun (_, key) => key.alive c }

/-- Forgets the key noted at the current flow level; a required one refuses the text. -/
def dropKeyHere : ScanM Unit := do
  let c ← get
  match c.simpleKeys.lookup c.flowLevel with
  | some key =>
    if key.required then throw (missingColon key c)
    set { c with simpleKeys := c.simpleKeys.filter (·.1 != c.flowLevel) }
  | none => pure ()

/-- Notes that a simple key may start at the cursor, when one may. -/
def noteKeyHere : ScanM Unit := do
  let c ← get
  let required := c.flowLevel == 0 && c.indent == (c.column : Int)
  if c.allowSimpleKey then
    dropKeyHere
    let c ← get
    let key : SimpleKey := ⟨c.taken + c.queue.length, required, c.mark⟩
    set { c with simpleKeys := (c.simpleKeys.filter fun (p : Int × SimpleKey) => p.1 != c.flowLevel) ++ [(c.flowLevel, key)] }

/-- Sets whether a simple key may start next. -/
def allowKey (b : Bool) : ScanM Unit := modify fun c => { c with allowSimpleKey := b }

/-- Closes the block collections indented more than a column, each with a block-end token.
Nothing closes inside a flow collection. -/
def unwindIndent (column : Int) : ScanM Unit := do
  let c ← get
  if c.flowLevel != 0 then return
  let rec go : List Int → Int → List Token → List Int × Int × List Token
    | stack, indent, acc =>
      if indent > column then
        match stack with
        | top :: rest => go rest top (⟨.blockEnd, c.mark, c.mark⟩ :: acc)
        | [] => ([], indent, acc)
      else (stack, indent, acc)
  let (stack, indent, ends) := go c.indents c.indent []
  set { c with indents := stack, indent, queue := c.queue ++ ends.reverse }

/-- Opens an indentation level at a column when it is deeper than the current one. -/
def addIndent (column : Nat) : ScanM Bool := do
  let c ← get
  if c.indent < (column : Int) then
    set { c with indents := c.indent :: c.indents, indent := (column : Int) }
    return true
  else return false

/-- Emits a token for the indicator at the cursor, `n` characters long. -/
def emitIndicator (kind : TokenKind) (n : Nat := 1) : ScanM Unit := do
  let start ← here
  forward n
  emit ⟨kind, start, ← here⟩

/-- The end of the text: closes everything. -/
def fetchStreamEnd : ScanM Unit := do
  unwindIndent (-1)
  dropKeyHere
  modify fun c => { c with allowSimpleKey := false, simpleKeys := [] }
  let m ← here
  emit ⟨.streamEnd, m, m⟩
  modify fun c => { c with done := true }

/-- A directive, or a document marker `---` or `...`: these close every block collection. -/
def fetchAtColumnZero (read : ScanM Token) : ScanM Unit := do
  unwindIndent (-1)
  dropKeyHere
  allowKey false
  emit (← read)

/-- An opening bracket: a flow collection may be a simple key. -/
def fetchFlowStart (kind : TokenKind) : ScanM Unit := do
  noteKeyHere
  modify fun c => { c with flowLevel := c.flowLevel + 1 }
  allowKey true
  emitIndicator kind

/-- A closing bracket. -/
def fetchFlowEnd (kind : TokenKind) : ScanM Unit := do
  dropKeyHere
  modify fun c => { c with flowLevel := c.flowLevel - 1 }
  allowKey false
  emitIndicator kind

/-- A `-` entry, which in block context may open a block sequence. -/
def fetchBlockEntry : ScanM Unit := do
  let c ← get
  if c.flowLevel == 0 then
    if !c.allowSimpleKey then refuse none none "sequence entries are not allowed here"
    if ← addIndent c.column then
      let m ← here
      emit ⟨.blockSequenceStart, m, m⟩
  allowKey true
  dropKeyHere
  emitIndicator .blockEntry

/-- A `?` key indicator, which in block context may open a block mapping. -/
def fetchKey : ScanM Unit := do
  let c ← get
  if c.flowLevel == 0 then
    if !c.allowSimpleKey then refuse none none "mapping keys are not allowed here"
    if ← addIndent c.column then
      let m ← here
      emit ⟨.blockMappingStart, m, m⟩
  allowKey ((← get).flowLevel == 0)
  dropKeyHere
  emitIndicator .key

/-- A `:` value indicator. When a simple key was noted at this level, a key token goes before
it (and, in block context, perhaps a block-mapping start). -/
def fetchValue : ScanM Unit := do
  let c ← get
  match c.simpleKeys.lookup c.flowLevel with
  | some key =>
    let place : Int := (key.tokenNumber : Int) - c.taken
    let queue := insertAt c.queue place ⟨.key, key.mark, key.mark⟩
    set { c with simpleKeys := c.simpleKeys.filter (·.1 != c.flowLevel), queue }
    if c.flowLevel == 0 then
      if ← addIndent key.mark.column then
        modify fun c => { c with queue := insertAt c.queue place ⟨.blockMappingStart, key.mark, key.mark⟩ }
    allowKey false
  | none =>
    if c.flowLevel == 0 then
      if !c.allowSimpleKey then refuse none none "mapping values are not allowed here"
      if ← addIndent c.column then
        let m ← here
        emit ⟨.blockMappingStart, m, m⟩
    allowKey ((← get).flowLevel == 0)
    dropKeyHere
  emitIndicator .value

/-- A token that may start a simple key: a property or a flow scalar. -/
def fetchKeyable (read : ScanM Token) : ScanM Unit := do
  noteKeyHere
  allowKey false
  emit (← read)

/-- A block scalar. -/
def fetchBlockScalar (folded : Bool) : ScanM Unit := do
  allowKey true
  dropKeyHere
  emit (← scanBlockScalar folded)

/-- Whether the character at the cursor starts a plain scalar: it is no indicator, or it is
`-` (or in block context `?` or `:`) with something other than a blank after it. -/
def startsPlain : ScanM Bool := do
  let c ← get
  let ch := c.peekAt 0
  let indicator := isBlankOrEnd ch || "-?:,[]\x7b\x7d#&*!|>'\"%@`".toList.contains ch
  return !indicator ||
    (!isBlankOrEnd (c.peekAt 1) && (ch == '-' || (c.flowLevel == 0 && (ch == '?' || ch == ':'))))

/-- Skips blanks, comments and line breaks up to the next token. A line break in block context
allows a simple key. A byte order mark at the very start is skipped. -/
def skipToToken : ScanM Unit := do
  let c ← get
  if c.index == 0 && c.peekAt 0 == '\uFEFF' then forward
  let rec go : Nat → ScanM Unit
    | 0 => pure ()
    | fuel + 1 => do
      skipWhile (· == ' ')
      if (← peek) == '#' then skipWhile (!isBreakOrEnd ·)
      if (← lineBreak) != "" then
        if (← get).flowLevel == 0 then allowKey true
        go fuel
  go (c.text.size + 1)

/-- Cuts the next token, or the tokens it implies. -/
def fetchMore : ScanM Unit := do
  skipToToken
  dropStaleKeys
  unwindIndent (← get).column
  let c ← get
  let ch := c.peekAt 0
  let next := c.peekAt 1
  let flow := c.flowLevel != 0
  let marker (s : List Char) : Bool := c.column == 0 && c.ahead 3 == s && isBlankOrEnd (c.peekAt 3)
  if ch == '\x00' then fetchStreamEnd
  else if ch == '%' && c.column == 0 then fetchAtColumnZero scanDirective
  else if ch == '-' && marker ['-', '-', '-'] then fetchAtColumnZero (do
    let start ← here
    forward 3
    return ⟨.documentStart, start, ← here⟩)
  else if ch == '.' && marker ['.', '.', '.'] then fetchAtColumnZero (do
    let start ← here
    forward 3
    return ⟨.documentEnd, start, ← here⟩)
  else if ch == '[' then fetchFlowStart .flowSequenceStart
  else if ch == '\x7b' then fetchFlowStart .flowMappingStart
  else if ch == ']' then fetchFlowEnd .flowSequenceEnd
  else if ch == '\x7d' then fetchFlowEnd .flowMappingEnd
  else if ch == ',' then do
    allowKey true
    dropKeyHere
    emitIndicator .flowEntry
  else if ch == '-' && isBlankOrEnd next then fetchBlockEntry
  else if ch == '?' && (flow || isBlankOrEnd next) then fetchKey
  else if ch == ':' && (flow || isBlankOrEnd next) then fetchValue
  else if ch == '*' then fetchKeyable (scanAnchor true)
  else if ch == '&' then fetchKeyable (scanAnchor false)
  else if ch == '!' then fetchKeyable scanTag
  else if ch == '|' && !flow then fetchBlockScalar false
  else if ch == '>' && !flow then fetchBlockScalar true
  else if ch == '\'' then fetchKeyable (scanQuoted false)
  else if ch == '"' then fetchKeyable (scanQuoted true)
  else if ← startsPlain then fetchKeyable scanPlain
  else
    let problem := "found character " ++ shown ch ++ " that cannot start any token"
    refuse (some "while scanning for the next token") none problem

/-- Whether more tokens must be cut before the first waiting one can be handed out: none is
waiting, or the first one may still become a simple key. -/
def needMore : ScanM Bool := do
  let c ← get
  if c.done then return false
  if c.queue.isEmpty then return true
  dropStaleKeys
  let c ← get
  match (c.simpleKeys.map (·.2.tokenNumber)).min? with
  | some n => return n == c.taken
  | none => return false

/-- Cuts tokens until the first waiting one can be handed out. -/
def cutUntilReady : ScanM Unit := do
  let rec go : Nat → ScanM Unit
    | 0 => pure ()
    | fuel + 1 => do
      if ← needMore then
        fetchMore
        go fuel
  go ((← get).text.size + 2)

/-- The next token, without taking it; none after the end of the stream. -/
def nextToken : ScanM (Option Token) := do
  cutUntilReady
  return (← get).queue.head?

/-- Takes the next token. -/
def takeToken : ScanM (Option Token) := do
  cutUntilReady
  let c ← get
  match c.queue with
  | t :: rest =>
    set { c with queue := rest, taken := c.taken + 1 }
    return some t
  | [] => return none

/-- A cursor at the start of a text, with the stream-start token waiting. -/
def Cursor.start (text : Array Char) : Cursor :=
  let m : Mark := ⟨0, 0, 0⟩
  { text, queue := [⟨.streamStart, m, m⟩] }

end Autoresponder.Yaml
