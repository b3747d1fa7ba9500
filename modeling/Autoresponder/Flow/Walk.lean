import Autoresponder.Flow.Graph
import Autoresponder.Inbound
import Autoresponder.Data.Access

/-!
# Walking a graph

A walk follows `next` pointers from a node until a node waits for a reply, the chain ends,
or a human must take over. Connector nodes are passed through without being sent; a
condition node goes to the `next` of its first child whose conditions all hold (a child
without conditions never matches), else to its own `next`.

A walk that meets a node twice, runs past its step limit or meets a key with no node hands
over to a human, with the reason as its error. The step limit counts distinct nodes
visited, so a walk never takes more steps than the graph has nodes.

Choosing where a reply leads: a picked button whose id is a node goes there; otherwise a
button is matched to a child of the waiting node by title. A text answer to a node with
children picks a child by its number (decimal digits of any script) or by title; a free
text answer to a node without children moves on to its `next`, or completes the flow.
-/

namespace Autoresponder.Flow

open Autoresponder.Text

/-- How a walk ends. -/
inductive Outcome where
  | waiting
  | completed
  | handoff
  deriving DecidableEq, Inhabited, Repr

/-- The name of an outcome. -/
def Outcome.name : Outcome → String
  | .waiting => "waiting"
  | .completed => "completed"
  | .handoff => "handoff"

/-- The result of a walk: how it ended, the nodes to send, the last node visited and the
reason for a forced handoff. -/
structure Traversal where
  outcome : Outcome
  emitted : List Node := []
  last : Option String := none
  error : String := ""
  deriving Inhabited

namespace Traversal

/-- The node the flow waits on, if it waits. -/
def waitingNode (t : Traversal) : Option String :=
  if t.outcome == .waiting then t.last else none

/-- A one-line summary: `<Traversal waiting at menu [2 emitted]>`. -/
def summary (t : Traversal) : String :=
  "<Traversal " ++ t.outcome.name ++ " at " ++ t.last.getD "None" ++ " [" ++
    Number.natText t.emitted.length ++ " emitted]>"

end Traversal

/-- The target of a condition node: the `next` of the first child whose conditions hold,
else the node's own `next`. A child without conditions is passed over. -/
def branch (n : Node) (context : Value) : Except Fault (Option String) := do
  let chosen ← n.children.findM? fun c =>
    if c.condition.isEmpty then pure false else allHold c.condition context
  match chosen with
  | some c => return c.next
  | none => return n.next

/-- The most nodes a walk may visit: a whole number, or a real number that the count of
visited nodes is compared with exactly. -/
inductive StepLimit where
  | whole (n : Int)
  | real (x : Float)
  deriving Inhabited

namespace StepLimit

/-- Whether `count` visited nodes reach the limit; no count reaches NaN. -/
def reached (l : StepLimit) (count : Nat) : Bool :=
  match l with
  | .whole n => decide ((count : Int) ≥ n)
  | .real x => match Number.cmpFloatInt x count with
    | some .gt => false
    | some _ => true
    | none => false

/-- The limit as written in a message. -/
def text : StepLimit → String
  | .whole n => Number.intText n
  | .real x => Number.floatText x

end StepLimit

/-- Walks from `start`. `seen` holds the keys visited so far, newest first. -/
def walkFrom (g : Graph) (context : Value) (maxSteps : StepLimit) :
    (fuel : Nat) → (key : Option String) → (seen : List String) → (emitted : List Node) →
    (last : Option String) → Except Fault Traversal
  | 0, _, _, emitted, last =>
    .ok ⟨.handoff, emitted.reverse, last, "exceeded " ++ maxSteps.text ++ " steps"⟩
  | _, none, _, emitted, last => .ok ⟨.completed, emitted.reverse, last, ""⟩
  | fuel + 1, some key, seen, emitted, last =>
    if seen.contains key then .ok ⟨.handoff, emitted.reverse, last, "cycle at node '" ++ key ++ "'"⟩
    else if maxSteps.reached seen.length then
      .ok ⟨.handoff, emitted.reverse, last, "exceeded " ++ maxSteps.text ++ " steps"⟩
    else match g.get? key with
      | none => .ok ⟨.handoff, emitted.reverse, last, "node '" ++ key ++ "' not found"⟩
      | some n =>
        let emitted := if n.kind.isConnector then emitted else n :: emitted
        if n.kind == .agent then .ok ⟨.handoff, emitted.reverse, some key, ""⟩
        else if n.waitsForReply then .ok ⟨.waiting, emitted.reverse, some key, ""⟩
        else do
          let nextKey ← if n.kind == .condition then branch n context else pure n.next
          walkFrom g context maxSteps fuel nextKey (key :: seen) emitted (some key)

/-- Walks the graph from a node, with at most `maxSteps` distinct nodes visited. It fails
only when a condition cannot be evaluated. -/
def walk (g : Graph) (start : String) (context : Value) (maxSteps : StepLimit := .whole 50) :
    Except Fault Traversal :=
  walkFrom g context maxSteps (g.size + 2) (some start) [] [] none

/-! ## Where a reply leads -/

/-- Where a reply leads: a node to go to, the end of the flow, or no match. -/
inductive Selection where
  | goTo (key : String)
  | complete
  | noMatch
  deriving DecidableEq, Inhabited, Repr

namespace Selection

/-- The node to go to, if any. -/
def target? : Selection → Option String
  | .goTo k => some k
  | _ => none

/-- Whether the reply matched. -/
def matched (s : Selection) : Bool := s != .noMatch

/-- A one-line summary: `<Selection menu>`, `<Selection complete>` or `<NoMatch>`. -/
def summary : Selection → String
  | .complete => "<Selection complete>"
  | .goTo k => if k.isEmpty then "<NoMatch>" else "<Selection " ++ k ++ ">"
  | .noMatch => "<NoMatch>"

end Selection

/-- The child of a node whose title equals `title`, ignoring case and outer blank space. -/
def childByTitle (n : Node) (title : String) : Option Node :=
  let wanted := lower (trim title)
  if wanted.isEmpty then none
  else n.children.find? fun c => lower (trim c.message) == wanted

/-- Where a chosen child leads: the child itself when it is a node of the graph, else its
`next`, else the end of the flow. -/
def childTarget (g : Graph) (c : Node) : Selection :=
  if !c.nodeId.isEmpty && g.has c.nodeId then .goTo c.nodeId
  else match c.next with
    | some nx => .goTo nx
    | none => .complete

/-- Where an inbound reply leads, given the node the flow waits on. A numbered answer of
more than `Number.maxWholeDigits` digits is refused, as whole-number reading refuses it. -/
def selectReply (g : Graph) (current : Option Node) (m : Inbound) : Except Fault Selection :=
  match m.pick with
  | some p =>
    if !p.id.isEmpty && g.has p.id then .ok (.goTo p.id)
    else match current.bind (childByTitle · p.title) with
      | some c => .ok (childTarget g c)
      | none => .ok .noMatch
  | none =>
    match current with
    | none => .ok .noMatch
    | some cur =>
      let text := trim m.text
      if !cur.children.isEmpty then
        if allDecimal text then
          if text.length > Number.maxWholeDigits then .error (Value.tooManyDigits text.length)
          else
            let index := (decimalNumber text)
            match cur.children[index - 1]? with
            | some c => .ok (if index ≥ 1 then childTarget g c else .noMatch)
            | none => .ok .noMatch
        else match childByTitle cur text with
          | some c => .ok (childTarget g c)
          | none => .ok .noMatch
      else if text.isEmpty then .ok .noMatch
      else match cur.next with
        | some nx => .ok (.goTo nx)
        | none => .ok .complete
where
  /-- The value of a text of decimal digits of any script. -/
  decimalNumber (s : String) : Nat :=
    s.toList.foldl (fun acc c => acc * 10 + (decimalValue? c).getD 0) 0

end Autoresponder.Flow
