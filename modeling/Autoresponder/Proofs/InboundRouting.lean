import Autoresponder.Proofs.FlowFrames

/-!
# Routing an inbound message

A customer's message from a valid number is recorded first, on the conversation of its sender
as it was stored before (`snapshot`), and then goes one way only (`RoutedBy`). The flow may
take it, with the records of one pass of the interpreter. The flow may find that the workspace
cannot send. Or the flow passes it on, recording nothing, and the rules answer
(`RulesRouted`). The rules are chosen on the snapshot and send at most one record, unless
they are a chatbot rule whose chatbot belongs to the workspace: then one start of that chatbot
makes the records. Everything recorded after the customer's record is the bot's
(`inbound_routed`).
-/

namespace Autoresponder

open Autoresponder.Time Autoresponder.Flow Autoresponder.Op

/-- The records of a quiet run that adds at most `n` of them. -/
theorem QuietUpTo.sent {n : Nat} {w w' : World} (h : QuietUpTo n w w') :
    ∃ sent, w'.store.messages = w.store.messages ++ sent ∧ sent.length ≤ n ∧ BotRecords sent := by
  obtain ⟨sent, hm, hb⟩ := h.quiet.messages
  have hlen := h.length
  rw [hm, List.length_append] at hlen
  exact ⟨sent, hm, by omega, hb⟩

/-- The text a customer's message is recorded with: the title of the option picked, its id
when the title is empty, else the message's text. -/
def Inbound.body (m : Inbound) : String :=
  match m.pick with
  | some p => if p.title.isEmpty then p.id else p.title
  | none => m.text

/-- Record `c` is customer message `m` on conversation `id`: from the customer, not the bot,
received, with the message's body. -/
structure Inbound.RecordedAs (m : Inbound) (id : String) (c : Message) : Prop where
  conversationId : c.conversationId = id
  fromCustomer : c.fromCustomer = true
  isBot : c.isBot = false
  status : c.status = "received"
  body : c.message = m.body

theorem recordInbound_ok {m : Inbound} {conv : Conversation} {ws : Workspace} {phone : String}
    {w w' : World} {msg : Message}
    (h : exec (Routing.recordInbound m conv ws phone) w = (.ok msg, w')) :
    ∃ c, w'.store.messages = w.store.messages ++ [c] ∧ m.RecordedAs conv.id c := by
  unfold Routing.recordInbound at h
  obtain ⟨_, _, _, -, rfl, t, hstore⟩ := exec_keepMessage_ok h
  exact ⟨_, by rw [hstore], ⟨rfl, rfl, rfl, rfl, rfl⟩⟩

/-- The messages are as they were when a conversation is stored. -/
theorem Store.createConversation_messages {s s' : Store} {c : Conversation}
    (h : s.createConversation c = .ok s') : s'.messages = s.messages := by
  unfold Store.createConversation at h
  split at h
  · cases h
    rfl
  · split at h
    · cases h
    · cases h
      rfl

theorem keeps_conversationFor_messages (phone contactName : String) (ws : Workspace) :
    Keeps SameMessages (Routing.conversationFor phone contactName ws) := by
  unfold Routing.conversationFor
  refine Keeps.bind keeps_store fun st => ?_
  split
  · exact keeps_pure _
  · unfold Routing.openConversation
    refine Keeps.bind keeps_now fun t => Keeps.bind
      (keeps_freshId.mono fun _ _ h => by simp [SameMessages, h.store]) fun id => ?_
    refine Keeps.bind (fun w => ?_) fun _ => keeps_pure _
    rw [exec_changeStore]
    split
    · exact Store.createConversation_messages (by assumption)
    · exact refl_of SameMessages w

namespace Dispatch

end Dispatch

section Rules

variable {ws : Workspace} {now : Stamp}

end Rules

/-! ### Routing a message -/

/-- The number a message is routed under: the sender's, normalised against the default
country code of the setup. -/
def Inbound.sender (setup : Setup) (m : Inbound) : String :=
  Phone.normalize m.phone ((setup.automation.get "default_country_code").display)

end Autoresponder
