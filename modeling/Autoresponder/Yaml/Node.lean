import Autoresponder.Yaml.Event
import Autoresponder.Yaml.Node.Resolve

/-!
# YAML nodes

Composing turns the events of a document into a graph of nodes: scalars, sequences of nodes and
mappings of node pairs, each with a tag. Nodes live in an array and refer to each other by
index. An anchor names the node it stands on, and an alias later in the document is that same
node; since a collection's anchor is known before its content, an alias inside it makes the
graph cyclic.

A node with no tag, or the non-specific tag `!`, is tagged by its kind: a scalar marked for
recognition by its spelling (see `recognisedTag`), any other scalar as a text, a sequence as
`seq` and a mapping as `map`.

A stream for one document must hold at most one; a second document is refused as soon as it
starts.
-/

namespace Autoresponder.Yaml

/-- What a node holds: a scalar's text, a sequence's items, or a mapping's key and value
pairs, by index. -/
inductive NodeBody where
  | scalar (value : String)
  | sequence (items : List Nat)
  | mapping (pairs : List (Nat × Nat))
  deriving Inhabited

/-- A node: its tag, what it holds and where it starts. -/
structure Node where
  tag : String
  body : NodeBody
  start : Mark
  deriving Inhabited

/-- The name of a kind of node in messages. -/
def NodeBody.kindName : NodeBody → String
  | .scalar _ => "scalar"
  | .sequence _ => "sequence"
  | .mapping _ => "mapping"

/-- The full form of a tag under the standard prefix. -/
def standardTag (name : String) : String := "tag:yaml.org,2002:" ++ name

/-- The state of composing: the parser, the nodes so far and the anchors of the document. -/
structure Composer where
  parser : Parser
  nodes : Array Node := #[]
  anchors : List (String × Nat) := []
  deriving Inhabited

/-- Composing: a step that may refuse the text. -/
abbrev ComposeM := StateT Composer (Except Failure)

/-- Runs a step of the parser. -/
def parse {α : Type} (m : ParseM α) : ComposeM α := do
  let c ← get
  match m.run c.parser with
  | .ok (a, p) =>
    set { c with parser := p }
    return a
  | .error e => throw e

/-- Refuses the text while composing. -/
def composeRefuse {α : Type} (context : Option String) (contextMark : Option Mark)
    (problem : String) (place : Mark) : ComposeM α :=
  throw (.refused .composing { context, contextMark, problem, problemMark := some place })

/-- The next event, which a well-formed event stream always has here. -/
def nextEvent : ComposeM Event := do
  match ← parse peekEvent with
  | some e => return e
  | none => composeRefuse none none "expected an event" default

/-- Takes the next event. -/
def takeEvent : ComposeM Event := do
  let e ← nextEvent
  let _ ← parse getEvent
  return e

/-- Adds a node and gives its index. -/
def addNode (n : Node) : ComposeM Nat := do
  let c ← get
  set { c with nodes := c.nodes.push n }
  return c.nodes.size

/-- Names a node by an anchor. -/
def nameNode (anchor : Option String) (i : Nat) : ComposeM Unit :=
  match anchor with
  | some a => modify fun c => { c with anchors := c.anchors ++ [(a, i)] }
  | none => pure ()

/-- The tag of a collection node. -/
def collectionTag (tag : Option String) (default : String) : String :=
  match tag with
  | none => standardTag default
  | some "!" => standardTag default
  | some t => t

/-- The anchor an event puts on its node. -/
def EventKind.anchor? : EventKind → Option String
  | .scalar head .. => head.anchor
  | .sequenceStart head _ => head.anchor
  | .mappingStart head _ => head.anchor
  | _ => none

mutual

/-- Composes a node and gives its index. -/
def composeNode : Nat → ComposeM Nat
  | 0 => composeRefuse none none "nesting too deep" default
  | fuel + 1 => do
    let e ← nextEvent
    if let .alias name := e.kind then
      let _ ← takeEvent
      match (← get).anchors.lookup name with
      | some i => return i
      | none => composeRefuse none none ("found undefined alias " ++ quoteText name) e.start
    if let some a := e.kind.anchor? then
      if let some i := (← get).anchors.lookup a then
        let first := ((← get).nodes[i]?.map (·.start)).getD default
        composeRefuse (some ("found duplicate anchor " ++ quoteText a ++ "; first occurrence"))
          (some first) "second occurrence" e.start
    match e.kind with
    | .scalar head byText _ value _ =>
      let _ ← takeEvent
      let tag := match head.tag with
        | some t => if t == "!" then none else some t
        | none => none
      let tag := match tag with
        | some t => t
        | none => (if byText then recognisedTag value else none).getD (standardTag "str")
      let i ← addNode ⟨tag, .scalar value, e.start⟩
      nameNode head.anchor i
      return i
    | .sequenceStart head _ =>
      let _ ← takeEvent
      let i ← addNode ⟨collectionTag head.tag "seq", .sequence [], e.start⟩
      nameNode head.anchor i
      let items ← composeItems fuel []
      let _ ← takeEvent
      modify fun c => { c with nodes := c.nodes.modify i fun n => { n with body := .sequence items } }
      return i
    | .mappingStart head _ =>
      let _ ← takeEvent
      let i ← addNode ⟨collectionTag head.tag "map", .mapping [], e.start⟩
      nameNode head.anchor i
      let pairs ← composePairs fuel []
      let _ ← takeEvent
      modify fun c => { c with nodes := c.nodes.modify i fun n => { n with body := .mapping pairs } }
      return i
    | _ => composeRefuse none none "expected a node" e.start

/-- Composes the items of a sequence up to its end. -/
def composeItems : Nat → List Nat → ComposeM (List Nat)
  | 0, acc => return acc.reverse
  | fuel + 1, acc => do
    if (← nextEvent).kind matches .sequenceEnd then return acc.reverse
    let i ← composeNode fuel
    composeItems fuel (i :: acc)

/-- Composes the key and value pairs of a mapping up to its end. -/
def composePairs : Nat → List (Nat × Nat) → ComposeM (List (Nat × Nat))
  | 0, acc => return acc.reverse
  | fuel + 1, acc => do
    if (← nextEvent).kind matches .mappingEnd then return acc.reverse
    let k ← composeNode fuel
    let v ← composeNode fuel
    composePairs fuel ((k, v) :: acc)

end

/-- A document's graph: its nodes and the index of its root. -/
structure Graph where
  nodes : Array Node
  root : Nat
  deriving Inhabited

/-- Composes the only document of a stream; none for a stream without documents. A second
document is refused where it starts. -/
def composeSingle : ComposeM (Option Graph) := do
  let _ ← takeEvent
  let fuel := 8 * ((← get).parser.cursor.text.size + 4)
  let root ←
    if (← nextEvent).kind matches .streamEnd then pure none
    else do
      let _ ← takeEvent
      let r ← composeNode fuel
      let _ ← takeEvent
      modify fun c => { c with anchors := [] }
      pure (some r)
  let e ← nextEvent
  if !(e.kind matches .streamEnd) then
    let _ ← takeEvent
    let nodes := (← get).nodes
    let first := (root.bind fun r => nodes[r]?.map (·.start)).getD default
    composeRefuse (some "expected a single document in the stream") (some first)
      "but found another document" e.start
  let _ ← takeEvent
  let nodes := (← get).nodes
  return root.map fun r => ⟨nodes, r⟩

/-- The graph of the only document of a text's characters, if it has one. -/
def Graph.ofChars? (text : Array Char) : Except Failure (Option Graph) :=
  (composeSingle.run { parser := { cursor := Cursor.start text } }).map (·.1)

end Autoresponder.Yaml
