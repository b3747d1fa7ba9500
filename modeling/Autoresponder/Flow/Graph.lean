import Autoresponder.Flow.Node
import Autoresponder.Data.Json

/-!
# Chatbot graphs

A graph maps node keys to nodes, in the order the document lists them, with one `start`
entry. Children that carry an id of their own and are not stored at the top level are
added after the top-level nodes, so they can be addressed too. A node without an id takes
its key as id.

A graph is sound when it has a start node and every `next` pointer, of a node or of one of
its children, names a node of the graph; `problems` lists every breach.
-/

namespace Autoresponder.Flow

/-- A chatbot graph: nodes by key, in document order. -/
structure Graph where
  nodes : List (String × Node)
  deriving Inhabited

namespace Graph

/-- The node under a key. -/
def get? (g : Graph) (key : String) : Option Node := g.nodes.lookup key

/-- Whether a key names a node. -/
def has (g : Graph) (key : String) : Bool := (g.get? key).isSome

/-- The number of nodes. -/
def size (g : Graph) : Nat := g.nodes.length

/-- Adds the children with ids of their own that no key names yet. -/
def withChildren (nodes : List (String × Node)) : List (String × Node) :=
  nodes.foldl (fun acc (_, n) =>
    n.children.foldl (fun acc c =>
      if !c.nodeId.isEmpty && !(acc.any (·.1 == c.nodeId)) then acc ++ [(c.nodeId, c)] else acc)
      acc) nodes

/-- Reads a graph from the members of its document. -/
def ofMembers (kvs : List (String × Value)) : Except Fault Graph := do
  let fuel := (Value.dict kvs).size + 1
  let rec go : List (String × Value) → List (String × Node) → Except Fault (List (String × Node))
    | [], acc => .ok acc.reverse
    | (key, raw) :: rest, acc =>
      match raw with
      | .dict fs =>
        match Node.check fuel fs with
        | .error f => .error f
        | .ok (.error es) =>
          .error (.badGraph ("Invalid chatbot node: " ++ ((es.head?.map (·.msg)).getD "")))
        | .ok (.ok n) =>
          let n := if n.nodeId.isEmpty then { n with nodeId := key } else n
          go rest ((key, n) :: acc)
      | _ => .error (.badGraph ("Node " ++ quoteText key ++ " is not an object"))
  let nodes ← go kvs []
  return ⟨withChildren nodes⟩

/-- Reads a graph from a chatbot's stored graph: an object, or JSON text of one. -/
def parse (blob : Value) : Except Fault Graph :=
  match blob with
  | .null | .str "" => .error (.badGraph "Chatbot has no graph")
  | .str s => match Json.read s with
    | .error (.tooDeep array) => .error (.recursion ((Json.ReadFailure.tooDeep array).text s))
    | .error f => .error (.badGraph ("Chatbot graph is not valid JSON: " ++ f.text s))
    | .ok (.dict kvs) => ofMembers kvs
    | .ok _ => .error (.badGraph "Chatbot graph must be an object keyed by nodeId")
  | .dict kvs => ofMembers kvs
  | _ => .error (.badGraph "Chatbot graph must be an object keyed by nodeId")

/-- Every breach of soundness, in node order. -/
def problems (g : Graph) : List String :=
  let missingStart := if g.has "start" then [] else ["missing 'start' node"]
  missingStart ++ g.nodes.flatMap fun (key, n) =>
    let own := match n.next with
      | some nx => if g.has nx then [] else ["node '" ++ key ++ "' next '" ++ nx ++ "' not found"]
      | none => []
    own ++ n.children.filterMap fun c => match c.next with
      | some nx => if g.has nx then none
        else some ("node '" ++ key ++ "' child '" ++ c.nodeId ++ "' next '" ++ nx ++ "' not found")
      | none => none

end Graph

end Autoresponder.Flow
