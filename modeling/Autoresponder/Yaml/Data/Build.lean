import Autoresponder.Yaml.Data.Scalar
import Autoresponder.Yaml.Node

/-!
# Building values from nodes

Each node of a document's graph becomes one object, made once however many aliases refer to
it. A scalar's object is made from its text under its tag (see `Yaml.Data.Scalar`); a
collection's object is made empty first and filled later, so that a collection may hold itself.
Fills wait in rounds: the fills a round makes wait for the next round. Inside a mapping key
everything is made at once instead, and there a collection that holds itself cannot be made.

A mapping first takes in its merge keys `<<`: the entries of the mapping (or, for a list of
mappings, of each, the first winning) under a merge key come before its own, so that its own
win; and a key `=` becomes a text. A mapping's keys must be atoms; of two keys that are the
same, the later value wins and the first key stays. A scalar read from a mapping is the
scalar under its `=` key.

Tags other than the standard ones for null, flags, integers, floats, binary data, dates,
texts, sequences, mappings, sets, ordered maps and pair lists cannot be built.
-/

namespace Autoresponder.Yaml

/-- An object made while building, with its parts by their places in the heap. -/
inductive Obj where
  | atom (a : Atom)
  | list (items : List Nat)
  | pairs (items : List (Nat × Nat))
  | dict (entries : List (Nat × Nat))
  | set (items : List Nat)
  deriving Inhabited

/-- How a collection object is filled from its node. -/
inductive FillKind where
  | seq
  | map
  | set
  | omap
  | pairs
  deriving Inhabited, BEq

/-- A fill still to be done: the node, the object it fills, and how. -/
structure Fill where
  node : Nat
  obj : Nat
  kind : FillKind
  deriving Inhabited

/-- The state of building. -/
structure Builder where
  nodes : Array Node
  heap : Array Obj := #[]
  /-- The object made for each node, once made. -/
  made : Array (Option Nat)
  /-- The nodes being made. -/
  active : Array Bool
  /-- Whether collections are filled as soon as they are made. -/
  deep : Bool := false
  pending : Array Fill := #[]
  /-- The object every `.nan` stands for, once made. -/
  sharedNaN : Option Nat := none
  deriving Inhabited

/-- Building: a step that may fail. -/
abbrev BuildM := StateT Builder (Except Failure)

/-- Refuses a node while building. -/
def buildRefuse {α : Type} (context : Option String) (contextMark : Option Mark)
    (problem : String) (place : Mark) : BuildM α :=
  throw (.refused .constructing { context, contextMark, problem, problemMark := some place })

/-- Lifts a failing computation. -/
def liftFailure {α : Type} (r : Except Failure α) : BuildM α :=
  match r with
  | .ok a => pure a
  | .error e => throw e

/-- A node by index. -/
def nodeAt (i : Nat) : BuildM Node := return (← get).nodes[i]?.getD default

/-- Replaces the pairs of a mapping node. -/
def setPairs (i : Nat) (pairs : List (Nat × Nat)) : BuildM Unit :=
  modify fun b => { b with nodes := b.nodes.modify i fun n => { n with body := .mapping pairs } }

/-- Adds an object to the heap and gives its place. -/
def alloc (o : Obj) : BuildM Nat := do
  let b ← get
  set { b with heap := b.heap.push o }
  return b.heap.size

/-- The object at a place. -/
def objAt (r : Nat) : BuildM Obj := return (← get).heap[r]?.getD default

/-- The text under a scalar node, or under the `=` key of a mapping node. -/
def scalarText : Nat → Nat → BuildM String
  | 0, _ => throw .endless
  | fuel + 1, i => do
    let n ← nodeAt i
    match n.body with
    | .scalar s => return s
    | .mapping pairs =>
      let mut under : Option Nat := none
      for (k, v) in pairs do
        if under.isNone && (← nodeAt k).tag == standardTag "value" then under := some v
      match under with
      | some v => scalarText fuel v
      | none => buildRefuse none none "expected a scalar node, but found mapping" n.start
    | body => buildRefuse none none ("expected a scalar node, but found " ++ body.kindName) n.start

mutual

/-- Takes the merge keys of a mapping node into it, and turns its `=` keys into texts. -/
def flatten : Nat → Nat → BuildM Unit
  | 0, _ => throw .endless
  | fuel + 1, i => do
    let merged ← flattenFrom fuel i 0 []
    if !merged.isEmpty then
      match (← nodeAt i).body with
      | .mapping pairs => setPairs i (merged ++ pairs)
      | _ => pure ()

/-- Goes through the pairs of a mapping node from one place on, gathering merged entries. -/
def flattenFrom : Nat → Nat → Nat → List (Nat × Nat) → BuildM (List (Nat × Nat))
  | 0, _, _, _ => throw .endless
  | fuel + 1, i, index, merged => do
    let n ← nodeAt i
    let pairs := match n.body with
      | .mapping ps => ps
      | _ => []
    match pairs[index]? with
    | none => return merged
    | some (k, v) =>
      let keyNode ← nodeAt k
      if keyNode.tag == standardTag "merge" then
        setPairs i (pairs.eraseIdx index)
        let valueNode ← nodeAt v
        match valueNode.body with
        | .mapping _ =>
          flatten fuel v
          let more := match (← nodeAt v).body with
            | .mapping ps => ps
            | _ => []
          flattenFrom fuel i index (merged ++ more)
        | .sequence subs =>
          let mut gathered : List (List (Nat × Nat)) := []
          for s in subs do
            let sub ← nodeAt s
            match sub.body with
            | .mapping _ =>
              flatten fuel s
              let ps := match (← nodeAt s).body with
                | .mapping ps => ps
                | _ => []
              gathered := ps :: gathered
            | body =>
              buildRefuse (some "while constructing a mapping") (some n.start)
                ("expected a mapping for merging, but found " ++ body.kindName) sub.start
          flattenFrom fuel i index (merged ++ gathered.flatten)
        | body =>
          buildRefuse (some "while constructing a mapping") (some n.start)
            ("expected a mapping or list of mappings for merging, but found " ++ body.kindName)
            valueNode.start
      else
        if keyNode.tag == standardTag "value" then
          modify fun b => { b with nodes := b.nodes.modify k fun n => { n with tag := standardTag "str" } }
        flattenFrom fuel i (index + 1) merged

end

/-- The fuel that bounds taking in merge keys. -/
def mergeFuel : Nat := 1000000

/-- The fuel that bounds making objects: every node made or referred to uses some. -/
def buildFuel : Nat := 1000000

/-- Whether an object can be a key: only atoms can. -/
def hashable (o : Obj) : Bool := o matches .atom _

/-- Whether two objects are the same key: the same object, or equal atoms. -/
def sameKey (r s : Nat) : BuildM Bool := do
  if r == s then return true
  match ← objAt r, ← objAt s with
  | .atom a, .atom b => return a.same b
  | _, _ => return false

/-- Puts a key and value into mapping entries: over the value of the same key when there is
one, else at the end. -/
def putEntry (entries : List (Nat × Nat)) (key value : Nat) : BuildM (List (Nat × Nat)) := do
  match entries with
  | [] => return [(key, value)]
  | (k, v) :: rest =>
    if ← sameKey k key then return (k, value) :: rest
    else return (k, v) :: (← putEntry rest key value)

/-- Puts a member into a set unless the same key is in it. -/
def putMember (items : List Nat) (key : Nat) : BuildM (List Nat) := do
  for r in items do
    if ← sameKey r key then return items
  return items ++ [key]

/-- Sets an object in the heap. -/
def setObj (r : Nat) (o : Obj) : BuildM Unit :=
  modify fun b => { b with heap := b.heap.modify r fun _ => o }

mutual

/-- The object for a node: made once; collections are filled now when building deeply, else
later. -/
def makeObject : Nat → Nat → Bool → BuildM Nat
  | 0, _, _ => throw .endless
  | fuel + 1, i, deep => do
    if let some r := (← get).made[i]?.getD none then return r
    let wasDeep := (← get).deep
    if deep then modify fun b => { b with deep := true }
    let n ← nodeAt i
    if (← get).active[i]?.getD false then
      buildRefuse none none "found unconstructable recursive node" n.start
    modify fun b => { b with active := b.active.modify i fun _ => true }
    let atomOf (a : Atom) : BuildM Nat := alloc (.atom a)
    let collection (o : Obj) (kind : FillKind) : BuildM Nat := do
      let r ← alloc o
      if (← get).deep then fillObject fuel ⟨i, r, kind⟩
      else modify fun b => { b with pending := b.pending.push ⟨i, r, kind⟩ }
      return r
    let tag := n.tag
    let textFuel := (← get).nodes.size + 2
    let r ←
      if tag == standardTag "null" then do
        let _ ← scalarText textFuel i
        atomOf .none
      else if tag == standardTag "bool" then do
        atomOf (← liftFailure (flagOf (← scalarText textFuel i)))
      else if tag == standardTag "int" then do
        atomOf (← liftFailure (intOf (← scalarText textFuel i)))
      else if tag == standardTag "float" then do
        let (a, shared) ← liftFailure (floatOf (← scalarText textFuel i))
        if shared then
          match (← get).sharedNaN with
          | some r => pure r
          | none =>
            let r ← atomOf a
            modify fun b => { b with sharedNaN := some r }
            pure r
        else atomOf a
      else if tag == standardTag "binary" then do
        match bytesOf (← scalarText textFuel i) with
        | .ok bs => atomOf (.bytes bs)
        | .error why => buildRefuse none none why n.start
      else if tag == standardTag "timestamp" then do
        let _ ← scalarText textFuel i
        match n.body with
        | .scalar s => atomOf (← liftFailure (timestampOf s))
        | _ => throw .notText
      else if tag == standardTag "str" then do
        atomOf (.str (← scalarText textFuel i))
      else if tag == standardTag "seq" then collection (.list []) .seq
      else if tag == standardTag "map" then collection (.dict []) .map
      else if tag == standardTag "set" then collection (.set []) .set
      else if tag == standardTag "omap" then collection (.list []) .omap
      else if tag == standardTag "pairs" then collection (.list []) .pairs
      else buildRefuse none none ("could not determine a constructor for the tag " ++ quoteText tag) n.start
    modify fun b =>
      { b with made := b.made.modify i (fun _ => some r), active := b.active.modify i fun _ => false }
    if deep then modify fun b => { b with deep := wasDeep }
    return r

/-- Fills a collection object from its node. -/
def fillObject : Nat → Fill → BuildM Unit
  | 0, _ => throw .endless
  | fuel + 1, f => do
    let n ← nodeAt f.node
    match f.kind with
    | .seq =>
      match n.body with
      | .sequence items =>
        let objs ← makeAll fuel items
        setObj f.obj (.list objs)
      | body => buildRefuse none none ("expected a sequence node, but found " ++ body.kindName) n.start
    | .map | .set =>
      let entries ← makeMapping fuel f.node
      if f.kind == .map then setObj f.obj (.dict entries)
      else
        let mut members : List Nat := []
        for (k, _) in entries do
          members ← putMember members k
        setObj f.obj (.set members)
    | .omap | .pairs =>
      let context := if f.kind == .omap then "while constructing an ordered map" else "while constructing pairs"
      match n.body with
      | .sequence subs =>
        let made ← makeSinglePairs fuel context n.start subs
        setObj f.obj (.pairs made)
      | body =>
        buildRefuse (some context) (some n.start) ("expected a sequence, but found " ++ body.kindName) n.start

/-- Makes the objects of a list of nodes, in order. -/
def makeAll : Nat → List Nat → BuildM (List Nat)
  | 0, _ => throw .endless
  | _, [] => return []
  | fuel + 1, i :: rest => do
    let r ← makeObject fuel i false
    return r :: (← makeAll fuel rest)

/-- Makes the entries of a mapping node after taking in its merge keys. -/
def makeMapping : Nat → Nat → BuildM (List (Nat × Nat))
  | 0, _ => throw .endless
  | fuel + 1, i => do
    if (← nodeAt i).body matches .mapping _ then flatten mergeFuel i
    let n ← nodeAt i
    match n.body with
    | .mapping pairs => makeEntries fuel n.start pairs []
    | body => buildRefuse none none ("expected a mapping node, but found " ++ body.kindName) n.start

/-- Makes the entries of a mapping from its pairs of nodes. -/
def makeEntries : Nat → Mark → List (Nat × Nat) → List (Nat × Nat) → BuildM (List (Nat × Nat))
  | 0, _, _, _ => throw .endless
  | _, _, [], acc => return acc
  | fuel + 1, start, (k, v) :: rest, acc => do
    let key ← makeObject fuel k false
    if !hashable (← objAt key) then
      buildRefuse (some "while constructing a mapping") (some start) "found unhashable key"
        (← nodeAt k).start
    let value ← makeObject fuel v false
    makeEntries fuel start rest (← putEntry acc key value)

/-- Makes the pairs of an ordered map or pair list: each item must be a mapping of one
entry. -/
def makeSinglePairs : Nat → String → Mark → List Nat → BuildM (List (Nat × Nat))
  | 0, _, _, _ => throw .endless
  | _, _, _, [] => return []
  | fuel + 1, context, start, s :: rest => do
    let sub ← nodeAt s
    match sub.body with
    | .mapping [(k, v)] =>
      let key ← makeObject fuel k false
      let value ← makeObject fuel v false
      return (key, value) :: (← makeSinglePairs fuel context start rest)
    | .mapping ps =>
      buildRefuse (some context) (some start)
        ("expected a single mapping item, but found " ++ toString ps.length ++ " items") sub.start
    | body =>
      buildRefuse (some context) (some start)
        ("expected a mapping of length 1, but found " ++ body.kindName) sub.start

end

/-- Runs the waiting fills, round after round, until none is left. -/
def fillRounds (fuel : Nat) : Nat → BuildM Unit
  | 0 => pure ()
  | rounds + 1 => do
    let batch := (← get).pending
    if batch.isEmpty then return
    modify fun b => { b with pending := #[] }
    for f in batch do
      fillObject fuel f
    fillRounds fuel rounds

/-- The atom at a place of the heap. -/
def atomAt (heap : Array Obj) (r : Nat) : Atom :=
  match heap[r]?.getD default with
  | .atom a => a
  | _ => .none

/-- The value of an object, unfolding the objects it holds; an object that holds itself has
no value. -/
def Obj.toData : Nat → Array Obj → Nat → Except Failure Data
  | 0, _, _ => .error .endless
  | fuel + 1, heap, r =>
    match heap[r]?.getD default with
    | .atom a => .ok (.atom a)
    | .list items => .list <$> items.mapM (Obj.toData fuel heap)
    | .pairs items => .pairs <$> items.mapM fun (k, v) => do
        return (← Obj.toData fuel heap k, ← Obj.toData fuel heap v)
    | .dict entries => .dict <$> entries.mapM fun (k, v) => do
        return (atomAt heap k, ← Obj.toData fuel heap v)
    | .set items => .ok (.set (items.map fun i => atomAt heap i))

/-- The value of a document's graph. -/
def Graph.build (g : Graph) : Except Failure Data := do
  let start : Builder :=
    { nodes := g.nodes, made := Array.replicate g.nodes.size none,
      active := Array.replicate g.nodes.size false }
  let fuel := buildFuel + g.nodes.size
  let run : BuildM Nat := do
    let root ← makeObject fuel g.root false
    fillRounds fuel (g.nodes.size + 1)
    return root
  let (root, b) ← run.run start
  Obj.toData (b.heap.size + 1) b.heap root

end Autoresponder.Yaml
