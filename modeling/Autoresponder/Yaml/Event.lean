import Autoresponder.Yaml.Token.Stream

/-!
# YAML events

The parser turns tokens into events: the starts and ends of the stream, of documents and of
collections, scalars and aliases. It is a machine with a stack of states to return to, and
hands out one event at a time, cutting only the tokens that event needs.

A node's properties come before it: an anchor and a tag, in either order. A tag `!handle!suffix`
is expanded through the handles of its document: `!` and `!!` (standing for
`tag:yaml.org,2002:`) unless a `%TAG` directive names them otherwise. A scalar with no tag, or
with the non-specific tag `!`, is marked for its kind to be recognised from its text (plain
scalars, or any scalar under `!`); a quoted scalar without a tag is marked as a text. A node
whose content is missing after its properties is an empty scalar, and so is a missing key or
value.
-/

namespace Autoresponder.Yaml

/-- The properties of a node and how its tag is to be settled. -/
structure NodeHead where
  anchor : Option String
  tag : Option String
  deriving Inhabited

/-- What an event is. -/
inductive EventKind where
  | streamStart
  | streamEnd
  | documentStart (explicit : Bool)
  | documentEnd (explicit : Bool)
  | alias (anchor : String)
  /-- A scalar. `byText` asks for its kind to be recognised from its text, `asText` for it
  to be a text when it has no tag. -/
  | scalar (head : NodeHead) (byText asText : Bool) (value : String) (style : ScalarStyle)
  | sequenceStart (head : NodeHead) (flow : Bool)
  | sequenceEnd
  | mappingStart (head : NodeHead) (flow : Bool)
  | mappingEnd
  deriving Inhabited

/-- An event with the places where it starts and ends. -/
structure Event where
  kind : EventKind
  start : Mark
  stop : Mark
  deriving Inhabited

/-- Where the parser is. -/
inductive ParseState where
  | streamStart
  | implicitDocumentStart
  | documentStart
  | documentEnd
  | documentContent
  | blockNode
  | blockSequenceFirstEntry
  | blockSequenceEntry
  | indentlessSequenceEntry
  | blockMappingFirstKey
  | blockMappingKey
  | blockMappingValue
  | flowSequenceFirstEntry
  | flowSequenceEntry
  | flowSequenceEntryMappingKey
  | flowSequenceEntryMappingValue
  | flowSequenceEntryMappingEnd
  | flowMappingFirstKey
  | flowMappingKey
  | flowMappingValue
  | flowMappingEmptyValue
  deriving Inhabited

/-- The tag handles every document has unless its directives say otherwise. -/
def defaultHandles : List (String × String) := [("!", "!"), ("!!", "tag:yaml.org,2002:")]

/-- The state of parsing. -/
structure Parser where
  cursor : Cursor
  /-- The state to run next; none once the stream has ended. -/
  state : Option ParseState := some .streamStart
  states : List ParseState := []
  marks : List Mark := []
  handles : List (String × String) := []
  /-- An event produced but not yet taken. -/
  current : Option Event := none
  deriving Inhabited

/-- Parsing: a step on the parser that may refuse the text. -/
abbrev ParseM := StateT Parser (Except Failure)

/-- Runs a step of the token stream. -/
def scan {α : Type} (m : ScanM α) : ParseM α := do
  let p ← get
  match m.run p.cursor with
  | .ok (a, c) =>
    set { p with cursor := c }
    return a
  | .error e => throw e

/-- The next token, without taking it. -/
def peekToken : ParseM Token := do
  match ← scan nextToken with
  | some t => return t
  | none =>
    let m := (← get).cursor.mark
    return ⟨.streamEnd, m, m⟩

/-- Takes the next token. -/
def getToken : ParseM Token := do
  match ← scan takeToken with
  | some t => return t
  | none =>
    let m := (← get).cursor.mark
    return ⟨.streamEnd, m, m⟩

/-- Whether the next token is of one of some kinds, told by their names. -/
def nextIs (names : List String) : ParseM Bool := do
  return names.contains (← peekToken).kind.name

/-- Refuses the text while parsing. -/
def parseRefuse {α : Type} (context : Option String) (contextMark : Option Mark) (problem : String)
    (place : Mark) : ParseM α :=
  throw (.refused .parsing { context, contextMark, problem, problemMark := some place })

/-- Returns to the state on top of the stack. -/
def popState : ParseM Unit :=
  modify fun p => match p.states with
    | s :: rest => { p with state := some s, states := rest }
    | [] => { p with state := none }

/-- Continues in a state. -/
def goTo (s : ParseState) : ParseM Unit := modify fun p => { p with state := some s }

/-- Pushes a state to return to. -/
def pushState (s : ParseState) : ParseM Unit := modify fun p => { p with states := s :: p.states }

/-- Notes where a collection starts. -/
def pushMark (m : Mark) : ParseM Unit := modify fun p => { p with marks := m :: p.marks }

/-- Forgets where the innermost collection started. -/
def popMark : ParseM Unit := modify fun p => { p with marks := p.marks.drop 1 }

/-- Where the innermost collection started. -/
def topMark : ParseM Mark := return (← get).marks.headD default

/-- An empty scalar at a place. -/
def emptyScalar (m : Mark) : Event := ⟨.scalar ⟨none, none⟩ true false "" .plain, m, m⟩

/-- The full tag of a tag token, expanding its handle. -/
def expandTag (handle : Option String) (suffix : String) (start tagMark : Mark) :
    ParseM String := do
  match handle with
  | none => return suffix
  | some h =>
    match (← get).handles.lookup h with
    | some pre => return pre ++ suffix
    | none =>
      let problem := "found undefined tag handle " ++ quoteText h
      parseRefuse (some "while parsing a node") (some start) problem tagMark

/-- Parses a node: an alias, or properties followed by content. -/
def parseNode (block indentless : Bool) : ParseM Event := do
  let t ← peekToken
  if let .alias name := t.kind then
    let _ ← getToken
    popState
    return ⟨.alias name, t.start, t.stop⟩
  -- properties: an anchor and a tag, in either order
  let (anchor, tagParts, start, stop, tagMark) ← match t.kind with
    | .anchor name => do
      let _ ← getToken
      let t2 ← peekToken
      if let .tag h s := t2.kind then
        let _ ← getToken
        pure (some name, some (h, s), some t.start, some t2.stop, some t2.start)
      else pure (some name, none, some t.start, some t.stop, none)
    | .tag h s => do
      let _ ← getToken
      let t2 ← peekToken
      if let .anchor name := t2.kind then
        let _ ← getToken
        pure (some name, some (h, s), some t.start, some t2.stop, some t.start)
      else pure (none, some (h, s), some t.start, some t.stop, some t.start)
    | _ => pure (none, none, none, none, none)
  let tag ← match tagParts with
    | some (h, s) => some <$> expandTag h s (start.getD default) (tagMark.getD default)
    | none => pure none
  let (start, stop) ← match start, stop with
    | some a, some b => pure (a, b)
    | _, _ => do
      let m := (← peekToken).start
      pure (m, m)
  let head : NodeHead := ⟨anchor, tag⟩
  let byText := tag.isNone || tag == some "!"
  let next ← peekToken
  match next.kind with
  | .blockEntry =>
    if indentless then
      goTo .indentlessSequenceEntry
      return ⟨.sequenceStart head false, start, next.stop⟩
  | .scalar value style =>
    let _ ← getToken
    popState
    let plain := style == .plain
    let (recognise, asText) :=
      if (plain && tag.isNone) || tag == some "!" then (true, false)
      else if tag.isNone then (false, true) else (false, false)
    return ⟨.scalar head recognise asText value style, start, next.stop⟩
  | .flowSequenceStart =>
    goTo .flowSequenceFirstEntry
    return ⟨.sequenceStart head true, start, next.stop⟩
  | .flowMappingStart =>
    goTo .flowMappingFirstKey
    return ⟨.mappingStart head true, start, next.stop⟩
  | .blockSequenceStart =>
    if block then
      goTo .blockSequenceFirstEntry
      return ⟨.sequenceStart head false, start, next.start⟩
  | .blockMappingStart =>
    if block then
      goTo .blockMappingFirstKey
      return ⟨.mappingStart head false, start, next.start⟩
  | _ => pure ()
  if anchor.isSome || tag.isSome then
    popState
    return ⟨.scalar head byText false "" .plain, start, stop⟩
  let what := if block then "block" else "flow"
  parseRefuse (some ("while parsing a " ++ what ++ " node")) (some start)
    ("expected the node content, but found " ++ quoteText next.kind.name) next.start

/-- Reads the directives before an explicit document into the handles it uses. -/
def readDirectives : ParseM Unit := do
  modify fun p => { p with handles := [] }
  let rec go (fuel : Nat) (version : Bool) : ParseM Unit := do
    match fuel with
    | 0 => pure ()
    | fuel + 1 =>
      let t ← peekToken
      match t.kind with
      | .directive name value =>
        let _ ← getToken
        match name, value with
        | "YAML", .version major _ =>
          if version then parseRefuse none none "found duplicate YAML directive" t.start
          if major != 1 then
            parseRefuse none none "found incompatible YAML document (version 1.* is required)" t.start
          go fuel true
        | "TAG", .tagPrefix handle pre =>
          if ((← get).handles.lookup handle).isSome then
            parseRefuse none none ("duplicate tag handle " ++ quoteText handle) t.start
          modify fun p => { p with handles := p.handles ++ [(handle, pre)] }
          go fuel version
        | _, _ => go fuel version
      | _ => pure ()
  go ((← get).cursor.text.size + 1) false
  modify fun p =>
    { p with handles := p.handles ++ defaultHandles.filter fun (h, _) => (p.handles.lookup h).isNone }

/-- The start of a document after the first, or the end of the stream. -/
def documentStart : ParseM Event := do
  let rec skipEnds : Nat → ParseM Unit
    | 0 => pure ()
    | fuel + 1 => do
      if ← nextIs ["<document end>"] then
        let _ ← getToken
        skipEnds fuel
  skipEnds ((← get).cursor.text.size + 1)
  if ← nextIs ["<stream end>"] then
    let t ← getToken
    modify fun p => { p with state := none }
    return ⟨.streamEnd, t.start, t.stop⟩
  let start := (← peekToken).start
  readDirectives
  let t ← peekToken
  if !(t.kind matches .documentStart) then
    parseRefuse none none ("expected '<document start>', but found " ++ quoteText t.kind.name) t.start
  let t ← getToken
  pushState .documentEnd
  goTo .documentContent
  return ⟨.documentStart true, start, t.stop⟩

/-- A `-` entry of a block sequence, or its end. -/
def blockSequenceEntry : ParseM Event := do
  if ← nextIs ["-"] then
    let t ← getToken
    if !(← nextIs ["-", "<block end>"]) then
      pushState .blockSequenceEntry
      return ← parseNode true false
    goTo .blockSequenceEntry
    return emptyScalar t.stop
  let t ← peekToken
  if !(t.kind matches .blockEnd) then
    parseRefuse (some "while parsing a block collection") (some (← topMark))
      ("expected <block end>, but found " ++ quoteText t.kind.name) t.start
  let t ← getToken
  popState
  popMark
  return ⟨.sequenceEnd, t.start, t.stop⟩

/-- A key of a block mapping, or its end. -/
def blockMappingKey : ParseM Event := do
  if ← nextIs ["?"] then
    let t ← getToken
    if !(← nextIs ["?", ":", "<block end>"]) then
      pushState .blockMappingValue
      return ← parseNode true true
    goTo .blockMappingValue
    return emptyScalar t.stop
  let t ← peekToken
  if !(t.kind matches .blockEnd) then
    parseRefuse (some "while parsing a block mapping") (some (← topMark))
      ("expected <block end>, but found " ++ quoteText t.kind.name) t.start
  let t ← getToken
  popState
  popMark
  return ⟨.mappingEnd, t.start, t.stop⟩

/-- An entry of a flow sequence, or its end. -/
def flowSequenceEntry (first : Bool) : ParseM Event := do
  if !(← nextIs ["]"]) then
    if !first then
      if ← nextIs [","] then
        let _ ← getToken
      else
        let t ← peekToken
        parseRefuse (some "while parsing a flow sequence") (some (← topMark))
          ("expected ',' or ']', but got " ++ quoteText t.kind.name) t.start
    let t ← peekToken
    if t.kind matches .key then
      goTo .flowSequenceEntryMappingKey
      return ⟨.mappingStart ⟨none, none⟩ true, t.start, t.stop⟩
    if !(← nextIs ["]"]) then
      pushState .flowSequenceEntry
      return ← parseNode false false
  let t ← getToken
  popState
  popMark
  return ⟨.sequenceEnd, t.start, t.stop⟩

/-- A key of a flow mapping, or its end. -/
def flowMappingKey (first : Bool) : ParseM Event := do
  if !(← nextIs ["\x7d"]) then
    if !first then
      if ← nextIs [","] then
        let _ ← getToken
      else
        let t ← peekToken
        parseRefuse (some "while parsing a flow mapping") (some (← topMark))
          ("expected ',' or '\x7d', but got " ++ quoteText t.kind.name) t.start
    if ← nextIs ["?"] then
      let t ← getToken
      if !(← nextIs [":", ",", "\x7d"]) then
        pushState .flowMappingValue
        return ← parseNode false false
      goTo .flowMappingValue
      return emptyScalar t.stop
    if !(← nextIs ["\x7d"]) then
      pushState .flowMappingEmptyValue
      return ← parseNode false false
  let t ← getToken
  popState
  popMark
  return ⟨.mappingEnd, t.start, t.stop⟩

/-- A value after `:`, or an empty one: the node that follows unless one of `stops` does,
returning to `next` after it. -/
def valueOrEmpty (stops : List String) (next : ParseState) (block : Bool) : ParseM Event := do
  if ← nextIs [":"] then
    let t ← getToken
    if !(← nextIs stops) then
      pushState next
      return ← parseNode block block
    goTo next
    return emptyScalar t.stop
  goTo next
  return emptyScalar (← peekToken).start

/-- Runs one state of the parser, producing the next event. -/
def runState : ParseState → ParseM Event
  | .streamStart => do
    let t ← getToken
    goTo .implicitDocumentStart
    return ⟨.streamStart, t.start, t.stop⟩
  | .implicitDocumentStart => do
    if !(← nextIs ["<directive>", "<document start>", "<stream end>"]) then
      modify fun p => { p with handles := defaultHandles }
      let m := (← peekToken).start
      pushState .documentEnd
      goTo .blockNode
      return ⟨.documentStart false, m, m⟩
    documentStart
  | .documentStart => documentStart
  | .documentEnd => do
    let t ← peekToken
    let (stop, explicit) ← if t.kind matches .documentEnd then do
        let t ← getToken
        pure (t.stop, true)
      else pure (t.start, false)
    goTo .documentStart
    return ⟨.documentEnd explicit, t.start, stop⟩
  | .documentContent => do
    if ← nextIs ["<directive>", "<document start>", "<document end>", "<stream end>"] then
      let m := (← peekToken).start
      popState
      return emptyScalar m
    parseNode true false
  | .blockNode => parseNode true false
  | .blockSequenceFirstEntry => do
    let t ← getToken
    pushMark t.start
    blockSequenceEntry
  | .blockSequenceEntry => blockSequenceEntry
  | .indentlessSequenceEntry => do
    if ← nextIs ["-"] then
      let t ← getToken
      if !(← nextIs ["-", "?", ":", "<block end>"]) then
        pushState .indentlessSequenceEntry
        return ← parseNode true false
      goTo .indentlessSequenceEntry
      return emptyScalar t.stop
    let t ← peekToken
    popState
    return ⟨.sequenceEnd, t.start, t.start⟩
  | .blockMappingFirstKey => do
    let t ← getToken
    pushMark t.start
    blockMappingKey
  | .blockMappingKey => blockMappingKey
  | .blockMappingValue => valueOrEmpty ["?", ":", "<block end>"] .blockMappingKey true
  | .flowSequenceFirstEntry => do
    let t ← getToken
    pushMark t.start
    flowSequenceEntry true
  | .flowSequenceEntry => flowSequenceEntry false
  | .flowSequenceEntryMappingKey => do
    let t ← getToken
    if !(← nextIs [":", ",", "]"]) then
      pushState .flowSequenceEntryMappingValue
      return ← parseNode false false
    goTo .flowSequenceEntryMappingValue
    return emptyScalar t.stop
  | .flowSequenceEntryMappingValue =>
    valueOrEmpty [",", "]"] .flowSequenceEntryMappingEnd false
  | .flowSequenceEntryMappingEnd => do
    goTo .flowSequenceEntry
    let m := (← peekToken).start
    return ⟨.mappingEnd, m, m⟩
  | .flowMappingFirstKey => do
    let t ← getToken
    pushMark t.start
    flowMappingKey true
  | .flowMappingKey => flowMappingKey false
  | .flowMappingValue => valueOrEmpty [",", "\x7d"] .flowMappingKey false
  | .flowMappingEmptyValue => do
    goTo .flowMappingKey
    return emptyScalar (← peekToken).start

/-- The next event, without taking it; none after the end of the stream. -/
def peekEvent : ParseM (Option Event) := do
  let p ← get
  match p.current with
  | some e => return some e
  | none =>
    match p.state with
    | some s =>
      let e ← runState s
      modify fun p => { p with current := some e }
      return some e
    | none => return none

/-- Takes the next event. -/
def getEvent : ParseM (Option Event) := do
  let e ← peekEvent
  modify fun p => { p with current := none }
  return e

end Autoresponder.Yaml
