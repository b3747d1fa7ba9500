import Mathlib
import Autoresponder.Proofs.ConversationStore
import Autoresponder.Proofs.Traversal

/-!
# Operations that move flows

A conversation's flow state is its chatbot, the node it waits at and when its wait expires,
with its status and its handoff mark. An operation moves flows (`Moves`) when every run of it
leaves each conversation settled (`Settled`: holding no flow, or the flow a conversation held
before), except those its result says wait: these wait since the operation's clock, at a node
of their chatbot's graph that waits for a reply (`WaitsSince`). `Settles` is the frame of the
operations that start no wait: sending nodes, clearing a flow and touching a conversation.
The interpreter's entry points move flows, with the conversation they ran on waiting exactly
when their result is `waiting`.

`Tells` is the other half: when a flow operation returns, its result says what became of the
conversation it ran on (`FlowResult.Reports`): where it waits, or that a completed, handed off
or expired flow left it cleared and closed or open.
-/

namespace Autoresponder

open Autoresponder.Time Autoresponder.Text Autoresponder.Flow Autoresponder.Op

/-- No chatbot, no waiting node and no expiry. -/
structure Conversation.Idle (c : Conversation) : Prop where
  chatbotId : c.chatbotId = none
  currentNode : c.currentNode = none
  chatbotTimeout : c.chatbotTimeout = none

/-- A patch that clears the flow state, or that leaves it and the conversation's status alone. -/
def Conversation.Patch.Calm (q : Conversation.Patch) : Prop :=
  (q.chatbotId = some none ∧ q.currentNode = some none ∧ q.chatbotTimeout = some none) ∨
    (q.chatbotId = none ∧ q.currentNode = none ∧ q.chatbotTimeout = none ∧ q.status = none ∧
      q.handoff = none)

/-- When a wait begun at `now` expires: the configured timeout after it. -/
def waitExpiry (setup : Setup) (now : Stamp) : Except Fault Stamp :=
  (Config.durationMicros "seconds" 1000000 (setup.automation.get "chatbot_timeout_seconds")).bind
    fun micros => (now.shift micros).mapError Fault.ofTime

/-- The flow state of `c'` is that of `c`, its expiry perhaps read back as store `s'` keeps
times. -/
structure SameFlow (s' : Store) (c c' : Conversation) : Prop where
  id : c'.id = c.id
  chatbotId : c'.chatbotId = c.chatbotId
  currentNode : c'.currentNode = c.currentNode
  status : c'.status = c.status
  handoff : c'.handoff = c.handoff
  timeout : c'.chatbotTimeout = c.chatbotTimeout ∨
    c'.chatbotTimeout = c.chatbotTimeout.map s'.keepStamp

/-- A conversation of store `s'` that holds no flow, or the flow a conversation of store `s`
held. -/
def Settled (s s' : Store) (c' : Conversation) : Prop :=
  c'.Idle ∨ ∃ c ∈ s.conversations, SameFlow s' c c'

/-- A conversation of store `s` that waits, since `now`, at a node that waits for a reply in a
chatbot of the store: closed, not handed off, and expiring when a wait begun at `now` does. -/
structure WaitsSince (s : Store) (setup : Setup) (now : Stamp) (c : Conversation) : Prop where
  status : c.status = .closed
  handoff : c.handoff = false
  node : ∃ bot g key n, c.chatbotId = some bot.id ∧ s.chatbot? bot.id = some bot ∧
    Graph.parse bot.bot = .ok g ∧ c.currentNode = some key ∧ g.get? key = some n ∧
    n.waitsForReply = true
  expiry : ∃ e, waitExpiry setup now = .ok e ∧ c.chatbotTimeout = some (s.keepStamp e)

/-- From `w` to `w'` the setup, the kind of store and its chatbots stay, and every
conversation is settled. -/
structure Settles (w w' : World) : Prop where
  setup : w'.setup = w.setup
  backend : w'.store.backend = w.store.backend
  chatbots : w'.store.chatbots = w.store.chatbots
  settled : ∀ c' ∈ w'.store.conversations, Settled w.store w'.store c'

/-- From `w` to `w'` the setup, the kind of store and its chatbots stay; the conversations of
the ids `waits` names wait since `now`, and the others are settled. -/
structure Flows (now : Stamp) (waits : String → Prop) (w w' : World) : Prop where
  setup : w'.setup = w.setup
  backend : w'.store.backend = w.store.backend
  chatbots : w'.store.chatbots = w.store.chatbots
  waiting : ∀ c' ∈ w'.store.conversations, waits c'.id → WaitsSince w'.store w.setup now c'
  settled : ∀ c' ∈ w'.store.conversations, ¬ waits c'.id → Settled w.store w'.store c'

/-! ### Settled conversations -/

theorem SameFlow.refl (s' : Store) (c : Conversation) : SameFlow s' c c :=
  ⟨rfl, rfl, rfl, rfl, rfl, Or.inl rfl⟩

theorem SameFlow.trans {s₁ s₂ : Store} {c c₁ c₂ : Conversation} (hb : s₂.backend = s₁.backend)
    (h₁ : SameFlow s₁ c c₁) (h₂ : SameFlow s₂ c₁ c₂) : SameFlow s₂ c c₂ := by
  have hk : s₂.keepStamp = s₁.keepStamp := Store.keepStamp_of_backend hb
  refine ⟨h₂.id.trans h₁.id, h₂.chatbotId.trans h₁.chatbotId,
    h₂.currentNode.trans h₁.currentNode, h₂.status.trans h₁.status,
    h₂.handoff.trans h₁.handoff, ?_⟩
  -- an expiry read back twice is read back once
  rcases h₁.timeout with t₁ | t₁ <;> rcases h₂.timeout with t₂ | t₂
  · exact Or.inl (t₂.trans t₁)
  · exact Or.inr (by rw [t₂, t₁])
  · exact Or.inr (by rw [t₂, t₁, hk])
  · exact Or.inr (by rw [t₂, t₁, hk, Option.map_map]; simp [Function.comp_def])

theorem Conversation.Idle.sameFlow {s' : Store} {c c' : Conversation} (hc : c.Idle)
    (h : SameFlow s' c c') : c'.Idle := by
  refine ⟨by rw [h.chatbotId, hc.chatbotId], by rw [h.currentNode, hc.currentNode], ?_⟩
  rcases h.timeout with t | t <;> simp [t, hc.chatbotTimeout]

theorem Settled.trans {s s₁ s₂ : Store} {c₂ : Conversation} (hb : s₂.backend = s₁.backend)
    (h₁ : ∀ c₁ ∈ s₁.conversations, Settled s s₁ c₁) (h₂ : Settled s₁ s₂ c₂) : Settled s s₂ c₂ := by
  rcases h₂ with hidle | ⟨c₁, hc₁, hsame⟩
  · exact Or.inl hidle
  · rcases h₁ c₁ hc₁ with hidle | ⟨c, hc, hsame₁⟩
    · exact Or.inl (hidle.sameFlow hsame)
    · exact Or.inr ⟨c, hc, hsame₁.trans hb hsame⟩

theorem WaitsSince.of_store {s s' : Store} {setup : Setup} {now : Stamp} {c : Conversation}
    (hb : s'.backend = s.backend) (hc : s'.chatbots = s.chatbots) (h : WaitsSince s setup now c) :
    WaitsSince s' setup now c := by
  obtain ⟨bot, g, key, n, hbot, hfind, hg, hkey, hn, hw⟩ := h.node
  obtain ⟨e, he, ht⟩ := h.expiry
  refine ⟨h.status, h.handoff, ⟨bot, g, key, n, hbot, ?_, hg, hkey, hn, hw⟩, ⟨e, he, ?_⟩⟩
  · rw [Store.chatbot?, hc]
    exact hfind
  · rw [ht, Store.keepStamp_of_backend hb]

theorem WaitsSince.sameFlow {s s' : Store} {setup : Setup} {now : Stamp} {c c' : Conversation}
    (hb : s'.backend = s.backend) (hc : s'.chatbots = s.chatbots) (h : WaitsSince s setup now c)
    (hsame : SameFlow s' c c') : WaitsSince s' setup now c' := by
  have h' := h.of_store hb hc
  obtain ⟨bot, g, key, n, hbot, hfind, hg, hkey, hn, hw⟩ := h'.node
  obtain ⟨e, he, ht⟩ := h'.expiry
  refine ⟨hsame.status.trans h.status, hsame.handoff.trans h.handoff,
    ⟨bot, g, key, n, hsame.chatbotId.trans hbot, hfind, hg, hsame.currentNode.trans hkey, hn, hw⟩,
    ⟨e, he, ?_⟩⟩
  -- an expiry read back as the store keeps times is kept as it was
  rcases hsame.timeout with h₁ | h₁
  · rw [h₁, ht]
  · rw [h₁, ht, Option.map_some, Store.keepStamp_keepStamp]

instance : Std.Refl Settles :=
  ⟨fun _ => ⟨rfl, rfl, rfl, fun c hc => Or.inr ⟨c, hc, SameFlow.refl _ c⟩⟩⟩

instance : IsTrans World Settles :=
  ⟨fun _ _ _ h₁ h₂ => ⟨h₂.setup.trans h₁.setup, h₂.backend.trans h₁.backend,
    h₂.chatbots.trans h₁.chatbots, fun c hc => Settled.trans h₂.backend h₁.settled (h₂.settled c hc)⟩⟩

theorem Quiet.settles {w w' : World} (h : Quiet w w') : Settles w w' := by
  refine ⟨h.setup, h.backend, h.chatbots, fun c hc => Or.inr ⟨c, ?_, SameFlow.refl _ c⟩⟩
  rw [← h.conversations]
  exact hc

theorem Op.Keeps.settles {α : Type} {x : Op α} (h : Keeps Quiet x) : Keeps Settles x :=
  h.mono fun _ _ hw => hw.settles

theorem Settles.flows {now : Stamp} {W : String → Prop} {w w₁ w₂ : World} (h₁ : Settles w w₁)
    (h₂ : Flows now W w₁ w₂) : Flows now W w w₂ := by
  refine ⟨h₂.setup.trans h₁.setup, h₂.backend.trans h₁.backend, h₂.chatbots.trans h₁.chatbots,
    fun c hc hw => ?_, fun c hc hw => Settled.trans h₂.backend h₁.settled (h₂.settled c hc hw)⟩
  rw [← h₁.setup]
  exact h₂.waiting c hc hw

theorem Settles.flows_of_none {now : Stamp} {W : String → Prop} {w w' : World} (h : Settles w w')
    (hW : ∀ k, ¬ W k) : Flows now W w w' :=
  ⟨h.setup, h.backend, h.chatbots, fun _ _ hw => absurd hw (hW _), fun c hc _ => h.settled c hc⟩

theorem Settles.patched (w : World) (id : String) {q : Conversation.Patch} (hq : q.Calm) :
    Settles w { w with store := w.store.patched id q } := by
  refine ⟨rfl, by simp, by simp, fun c' hc' => ?_⟩
  rcases Store.mem_patched hc' with ⟨hmem, _⟩ | ⟨c, _, rfl⟩
  · exact Or.inr ⟨c', hmem, SameFlow.refl _ c'⟩
  · rename_i hc
    rcases hq with ⟨hb, hn, ht⟩ | ⟨hb, hn, ht, hs, hh⟩
    · left
      exact ⟨by simp [hb], by simp [hn], by simp [ht]⟩
    · -- a patch of other fields keeps the flow, its expiry read back as the store keeps times
      right
      refine ⟨c, (Store.conversation?_some hc).1, by simp, by simp [hb], by simp [hn], by simp [hs],
        by simp [hh], Or.inr ?_⟩
      simp [ht, Store.keepStamp_of_backend (Store.patched_backend w.store id q)]

theorem Flows.congr {now : Stamp} {W W' : String → Prop} {w w' : World} (h : Flows now W w w')
    (hW : ∀ k, W k ↔ W' k) : Flows now W' w w' :=
  ⟨h.setup, h.backend, h.chatbots, fun c hc hw => h.waiting c hc ((hW _).mpr hw),
    fun c hc hw => h.settled c hc (fun h' => hw ((hW _).mp h'))⟩

theorem Flows.settles {now : Stamp} {W : String → Prop} {w w' : World} (h : Flows now W w w')
    (hW : ∀ k, ¬ W k) : Settles w w' :=
  ⟨h.setup, h.backend, h.chatbots, fun c hc => h.settled c hc (hW _)⟩

/-! ### Clearing and waiting -/

/-- A patch that clears the flow state and sets the status, marking a handoff when asked. -/
structure Conversation.Patch.Clears (q : Conversation.Patch) (status : Status) (handoff : Bool) :
    Prop where
  chatbotId : q.chatbotId = some none
  currentNode : q.currentNode = some none
  chatbotTimeout : q.chatbotTimeout = some none
  status : q.status = some status
  handoff : handoff = true → q.handoff = some true

theorem Conversation.Patch.Clears.calm {q : Conversation.Patch} {status : Status} {handoff : Bool}
    (h : q.Clears status handoff) : q.Calm :=
  Or.inl ⟨h.chatbotId, h.currentNode, h.chatbotTimeout⟩

namespace Flow

@[simp] theorem exec_timeoutMicros (w : World) :
    exec timeoutMicros w = (Config.durationMicros "seconds" 1000000
      (w.setup.automation.get "chatbot_timeout_seconds"), w) := by
  simp only [timeoutMicros, exec_bind, exec_setup, exec_lift]

theorem exec_clear (conv : Conversation) (status : Status) (handoff : Bool) (w : World) :
    ∃ q : Conversation.Patch, q.Clears status handoff ∧ ∃ c : Conversation, c.id = conv.id ∧
      exec (clear conv status handoff) w = (.ok c, { w with store := w.store.patched conv.id q }) := by
  simp only [clear, exec_bind, exec_store, exec_now, exec_lift,
    Store.updateConversation_eq, exec_setStore, exec_pure]
  refine ⟨_, ⟨rfl, rfl, rfl, rfl, fun h => by simp [h, Conversation.Patch.at]⟩, _, ?_, rfl⟩
  -- the conversation returned is the stored one cleared, or the given one cleared
  cases hc : w.store.conversation? conv.id with
  | none => rfl
  | some c => simp [(Store.conversation?_some hc).2]

theorem keeps_clear (conv : Conversation) (status : Status) (handoff : Bool) :
    Keeps Settles (clear conv status handoff) := by
  intro w
  obtain ⟨q, hq, c, _, hrun⟩ := exec_clear conv status handoff w
  rw [hrun]
  exact Settles.patched w conv.id hq.calm

/-! ### Operations that move flows -/

/-- The result `r` of handling conversation `id` has conversation `k` waiting. -/
def Waited (id : String) (r : FlowResult) (k : String) : Prop := k = id ∧ r.status = .waiting

/-- Run from any world whose chatbots satisfy `P`, `x` leaves every conversation settled, but
for those its result says wait: they wait since `now`. -/
def Moves {α : Type} (P : List Chatbot → Prop) (waited : α → String → Prop) (now : Stamp)
    (x : Op α) : Prop :=
  ∀ w, P w.store.chatbots → Flows now (fun k => ∃ a, (exec x w).1 = .ok a ∧ waited a k) w (exec x w).2

section Moves

variable {α β : Type} {P : List Chatbot → Prop} {W : β → String → Prop} {now : Stamp}

theorem Moves.of_settles {x : Op β} (hx : Keeps Settles x)
    (hW : ∀ w b, (exec x w).1 = .ok b → ∀ k, ¬ W b k) : Moves P W now x := by
  intro w _
  refine Settles.flows_of_none (hx w) ?_
  rintro k ⟨b, hb, hk⟩
  exact hW w b hb k hk

theorem Moves.settles_bind_chatbots {Q : List Chatbot → α → Prop} {x : Op α} {f : α → Op β}
    (hx : Keeps Settles x)
    (hQ : ∀ w a w', P w.store.chatbots → exec x w = (.ok a, w') → Q w'.store.chatbots a)
    (hf : ∀ a, Moves (Q · a) W now (f a)) : Moves P W now (x >>= f) := by
  intro w hP
  have h₁ := hx w
  rcases hr : exec x w with ⟨e | a, w₁⟩
  · rw [hr] at h₁
    simp only [exec_bind, hr]
    refine Settles.flows_of_none h₁ ?_
    rintro k ⟨b, hb, _⟩
    cases hb
  · rw [hr] at h₁
    simp only [exec_bind, hr]
    exact h₁.flows (hf a w₁ (hQ w a w₁ hP hr))

theorem Moves.settles_bind_of {Q : α → Prop} {x : Op α} {f : α → Op β} (hx : Keeps Settles x)
    (hQ : ∀ w a w', P w.store.chatbots → exec x w = (.ok a, w') → Q a)
    (hf : ∀ a, Q a → Moves P W now (f a)) : Moves P W now (x >>= f) := by
  have hf' : ∀ a, Moves (fun bots => P bots ∧ Q a) W now (f a) := fun a w hw => hf a hw.2 w hw.1
  refine Moves.settles_bind_chatbots hx (fun w a w' hP hr => ?_) hf'
  have h := hx w
  rw [hr] at h
  rw [h.chatbots]
  exact ⟨hP, hQ w a w' hP hr⟩

theorem Moves.store_bind {f : Store → Op β}
    (hf : ∀ st, Moves (fun bots => P bots ∧ bots = st.chatbots) W now (f st)) :
    Moves P W now (store >>= f) :=
  Moves.settles_bind_chatbots keeps_store (fun _ _ _ hP hr => by cases hr; exact ⟨hP, rfl⟩) hf

theorem Moves.of_pre (P' : List Chatbot → Prop) {x : Op β} (hP : ∀ bots, P bots → P' bots)
    (h : Moves P' W now x) : Moves P W now x :=
  fun w hw => h w (hP _ hw)

/-- A chatbot found by its id in the store read fixes what a run needs of the chatbots. -/
theorem Moves.of_found {Q : List Chatbot → Prop} {st : Store} {botId : String} {bot : Chatbot}
    {x : Op β} (hbot : st.chatbots.find? (·.id == botId) = some bot)
    (h : Moves (·.find? (·.id == bot.id) = some bot) W now x) :
    Moves (fun bots => Q bots ∧ bots = st.chatbots) W now x := by
  have hbotId : bot.id = botId := by simpa using List.find?_some hbot
  refine Moves.of_pre _ (fun bots hb => ?_) h
  rw [hb.2, hbotId]
  exact hbot

theorem Moves.settles_bind {x : Op α} {f : α → Op β} (hx : Keeps Settles x)
    (hf : ∀ a, Moves P W now (f a)) : Moves P W now (x >>= f) :=
  Moves.settles_bind_of hx (fun _ _ _ _ _ => trivial) fun a (_ : True) => hf a

theorem Moves.bind_of_settled {Wx : α → String → Prop} {x : Op α} {f : α → Op β}
    (hx : Moves P Wx now x) (hwait : ∀ a, (∃ k, Wx a k) → ∃ b, f a = pure b ∧ ∀ k, Wx a k ↔ W b k)
    (hf : ∀ a, (∀ k, ¬ Wx a k) → Moves P W now (f a)) : Moves P W now (x >>= f) := by
  intro w hP
  have h₁ := hx w hP
  rcases hr : exec x w with ⟨e | a, w₁⟩
  · rw [hr] at h₁
    simp only [exec_bind, hr]
    refine Settles.flows_of_none (h₁.settles ?_) ?_
    · rintro k ⟨b, hb, _⟩
      cases hb
    · rintro k ⟨b, hb, _⟩
      cases hb
  · rw [hr] at h₁
    simp only [exec_bind, hr]
    by_cases hw : ∃ k, Wx a k
    · -- what waits is reported as it is
      obtain ⟨b, hfb, hiff⟩ := hwait a hw
      rw [hfb, exec_pure]
      refine h₁.congr fun k => ?_
      simp [hiff]
    · have hnone : ∀ k, ¬ Wx a k := fun k hk => hw ⟨k, hk⟩
      have hs : Settles w w₁ := h₁.settles fun k ⟨a', ha', hk⟩ => by
        cases ha'
        exact hnone k hk
      have hP₁ : P w₁.store.chatbots := by rw [hs.chatbots]; exact hP
      exact hs.flows (hf a hnone w₁ hP₁)

end Moves

/-- Making conversation `id` wait at a node of a stored chatbot that waits for a reply, until
a wait begun at `now` expires, is a flow in which `id` waits. -/
theorem flows_wait (w : World) (id : String) {now e : Stamp} {bot : Chatbot} {g : Graph}
    {key : String} {n : Node} {q : Conversation.Patch} (hbot : w.store.chatbot? bot.id = some bot)
    (hg : Graph.parse bot.bot = .ok g) (hn : g.get? key = some n) (hw : n.waitsForReply = true)
    (he : waitExpiry w.setup now = .ok e) (hb : q.chatbotId = some (some bot.id))
    (hk : q.currentNode = some (some key)) (ht : q.chatbotTimeout = some (some e))
    (hs : q.status = some .closed) (hh : q.handoff = some false) :
    Flows now (· = id) w { w with store := w.store.patched id q } := by
  have hkeep := Store.keepStamp_of_backend (Store.patched_backend w.store id q)
  refine ⟨rfl, by simp, by simp, fun c' hc' hid => ?_, fun c' hc' hid => ?_⟩
  · rcases Store.mem_patched hc' with ⟨_, hne⟩ | ⟨c, _, rfl⟩
    · exact absurd hid hne
    · refine ⟨by simp [hs], by simp [hh], ⟨bot, g, key, n, by simp [hb], ?_, hg, by simp [hk],
        hn, hw⟩, ⟨e, he, by simp [ht, hkeep]⟩⟩
      rw [Store.chatbot?, Store.patched_chatbots]
      exact hbot
  · rcases Store.mem_patched hc' with ⟨hmem, _⟩ | ⟨c, hc, rfl⟩
    · exact Or.inr ⟨c', hmem, SameFlow.refl _ c'⟩
    · exact absurd (by simp [(Store.conversation?_some hc).2]) hid

/-- The traversals a flow may wait after: waiting only at a node of the chatbot's graph that
waits for a reply. -/
def WaitsAtNode (bot : Chatbot) (t : Traversal) : Prop :=
  t.outcome = .waiting → ∃ g key n, Graph.parse bot.bot = .ok g ∧ t.last = some key ∧
    g.get? key = some n ∧ n.waitsForReply = true

/-- Sending what a walk emitted and recording where it stands moves flows: the conversation
waits since `now` exactly when the result says it waits. -/
theorem execute_moves (conv : Conversation) (ws : Workspace) (bot : Chatbot) (t : Traversal)
    (now : Stamp) (context : Value) (ht : WaitsAtNode bot t) :
    Moves (·.find? (·.id == bot.id) = some bot) (Waited conv.id) now
      (execute conv ws bot t now context) := by
  unfold execute
  refine Moves.settles_bind (keeps_lift _) fun _ => ?_
  extract_lets emitted₀ context₀
  refine Moves.settles_bind ?_ fun sent => ?_
  · -- sending the emitted nodes is quiet
    apply Keeps.forIn
    intro node acc
    extract_lets emitted context
    refine Keeps.bind (keeps_emit _ _ _ _).settles fun out => ?_
    obtain ⟨o, c⟩ := out
    exact keeps_pure _
  · extract_lets emitted finish
    split
    · rename_i ho
      intro w hP
      simp only [exec_bind, exec_timeoutMicros, exec_lift, exec_store, exec_now,
        Store.updateConversation_eq, exec_setStore, finish, exec_pure]
      -- the expiry is computed first; if it fails, nothing was written
      rcases hd : Config.durationMicros "seconds" 1000000
          (w.setup.automation.get "chatbot_timeout_seconds") with e | micros
      · dsimp only
        refine Settles.flows_of_none (refl_of Settles w) ?_
        rintro k ⟨a, ha, _⟩
        cases ha
      rcases hsh : now.shift micros with e | expiry
      · simp only [Except.mapError, hsh]
        refine Settles.flows_of_none (refl_of Settles w) ?_
        rintro k ⟨a, ha, _⟩
        cases ha
      simp only [Except.mapError, hsh]
      have he : waitExpiry w.setup now = .ok expiry := by
        simp [waitExpiry, hd, hsh, Except.bind, Except.mapError]
      obtain ⟨g, key, n, hg, hlast, hn, hw⟩ := ht ho
      refine (flows_wait w conv.id hP hg hn hw he rfl (by simp [hlast]) rfl rfl rfl).congr
        fun k => ?_
      simp [Waited, ho, Outcome.status]
    · -- a handoff clears the flow and opens the conversation to agents
      rename_i ho
      refine Moves.of_settles (Keeps.bind (Keeps.map _ (keeps_clear _ _ _)) fun _ => keeps_pure _) ?_
      rintro w b hb k ⟨_, hs⟩
      obtain ⟨q, _, c, _, hrun⟩ := exec_clear conv .opened true w
      simp only [exec_bind, exec_discard, hrun, finish, exec_pure] at hb
      cases hb
      simp [ho, Outcome.status] at hs
    · -- a completed flow clears the flow and closes the conversation
      rename_i ho
      refine Moves.of_settles (Keeps.bind (Keeps.map _ (keeps_clear _ _ _)) fun _ => keeps_pure _) ?_
      rintro w b hb k ⟨_, hs⟩
      obtain ⟨q, _, c, _, hrun⟩ := exec_clear conv .closed false w
      simp only [exec_bind, exec_discard, hrun, finish, exec_pure] at hb
      cases hb
      simp [ho, Outcome.status] at hs

theorem keeps_maxSteps {R : World → World → Prop} [Std.Refl R] [IsTrans World R] :
    Keeps R maxSteps := by
  refine Keeps.bind keeps_setup fun setup => ?_
  split
  · exact keeps_pure _
  · exact keeps_pure _
  · exact keeps_pure _
  · exact keeps_fail _

/-- Starting a chatbot moves flows: the walk from its start node only waits at a node that
waits for a reply. -/
theorem start_moves (conv : Conversation) (ws : Workspace) (bot : Chatbot) (now : Stamp)
    (inbound : Option Inbound) :
    Moves (·.find? (·.id == bot.id) = some bot) (Waited conv.id) now
      (start conv ws bot now inbound) := by
  unfold start
  extract_lets context run
  have hrun : ∀ t, WaitsAtNode bot t → Moves (·.find? (·.id == bot.id) = some bot)
      (Waited conv.id) now (run t) := fun t ht => execute_moves conv ws bot t now context ht
  split
  · -- a graph that does not parse hands off
    refine Moves.settles_bind_of (keeps_pure _) (fun _ _ _ _ hr => ?_) hrun
    cases hr
    intro ho
    cases ho
  · -- any other fault of reading the graph stops the start
    refine Moves.of_settles (keeps_fail_bind _ _) fun w b hb => ?_
    simp at hb
  · -- the walk from the start node waits only at a node that waits for a reply
    rename_i g hg
    refine Moves.settles_bind keeps_maxSteps fun steps => ?_
    refine Moves.settles_bind_of (keeps_lift _) (fun w t w' _ hr => ?_) hrun
    rw [exec_lift] at hr
    intro ho
    obtain ⟨k, n, hk, hn, hw⟩ := walk_waiting (Prod.mk.inj hr).1 ho
    exact ⟨g, k, n, hg, hk, hn, hw⟩

/-- Chatbot ids are distinct, as the store keys chatbots by id. -/
def DistinctIds (bots : List Chatbot) : Prop := (bots.map (·.id)).Nodup

theorem find?_id_of_mem {bots : List Chatbot} {bot : Chatbot} (hnd : DistinctIds bots)
    (hb : bot ∈ bots) : bots.find? (·.id == bot.id) = some bot := by
  induction bots with
  | nil => cases hb
  | cons b rest ih =>
    rw [DistinctIds, List.map_cons, List.nodup_cons] at hnd
    rcases List.mem_cons.mp hb with rfl | hmem
    · simp
    · have hne : b.id ≠ bot.id := fun h => hnd.1 (h ▸ List.mem_map_of_mem hmem)
      simp [hne, ih hnd.2 hmem]

theorem mem_of_findChatbot {s : Store} {workspaceId text : String} {bot : Chatbot}
    (h : Trigger.find? text (s.chatbotsOf workspaceId true) = some bot) : bot ∈ s.chatbots := by
  unfold Trigger.find? at h
  dsimp only at h
  have hmem : bot ∈ (s.chatbotsOf workspaceId true).filter
      fun b => b.publish && !(trim b.trigger).isEmpty := by
    split at h
    · rename_i b hb
      cases h
      exact List.mem_of_find?_eq_some hb
    · exact List.mem_of_find?_eq_some h
  exact (List.mem_filter.mp (List.mem_filter.mp hmem).1).1

theorem tryTrigger_moves (conv : Conversation) (ws : Workspace) (inbound : Inbound)
    (now : Stamp) : Moves DistinctIds (Waited conv.id) now (tryTrigger conv ws inbound now) := by
  unfold tryTrigger
  split
  · exact Moves.of_settles (keeps_pure _) fun w b hb k hk => by cases hb; exact absurd hk.2 (by decide)
  · intro w hP
    have hfind : exec (findChatbot conv.workspaceId inbound.text) w =
        (.ok (Trigger.find? inbound.text (w.store.chatbotsOf conv.workspaceId true)), w) := rfl
    simp only [exec_bind, hfind]
    split
    · refine Settles.flows_of_none (refl_of Settles w) ?_
      rintro k ⟨b, hb, hk⟩
      cases hb
      exact absurd hk.2 (by decide)
    · rename_i bot hbot
      exact start_moves conv ws bot now (some inbound) w
        (find?_id_of_mem hP (mem_of_findChatbot hbot))

theorem handle_moves (conv : Conversation) (ws : Workspace) (inbound : Inbound) (now : Stamp) :
    Moves DistinctIds (Waited conv.id) now (handle conv ws inbound now) := by
  unfold handle
  extract_lets interactive missing context
  -- results that leave the flow where it was
  have calm : ∀ r : FlowResult, r.status ≠ .waiting →
      ∀ {P : List Chatbot → Prop} {x : Op FlowResult}, Keeps Settles x →
      (∀ w b, (exec x w).1 = .ok b → b = r) → Moves P (Waited conv.id) now x :=
    fun r hr _ _ hx hb => Moves.of_settles hx fun w b hx' k hk => hr (hb w b hx' ▸ hk.2)
  split
  · exact calm { status := .notTriggered } (by decide) (keeps_pure _) fun w b hb => by cases hb; rfl
  split
  · -- a flow runs: it continues with its chatbot, or is cleared when the chatbot is gone
    rename_i botId _
    refine Moves.store_bind fun st => ?_
    split
    · rename_i bot hbot
      refine Moves.of_found hbot (Moves.settles_bind (keeps_lift _) fun expired => ?_)
      extract_lets run proceed
      have hrun : ∀ t, WaitsAtNode bot t → Moves (·.find? (·.id == bot.id) = some bot)
          (Waited conv.id) now (run t) := fun t ht => execute_moves conv ws bot t now context ht
      -- a reply continues the flow from where it leads; the exact trigger restarts it
      have hcont : ∀ r, Moves (·.find? (·.id == bot.id) = some bot) (Waited conv.id) now
          (proceed r) := by
        intro r
        simp only [proceed]
        split
        · exact start_moves conv ws bot now (some inbound)
        split
        · exact execute_moves conv ws bot _ now _ fun ho => by cases ho
        · refine Moves.of_settles (keeps_fail _) fun w b hb => ?_
          cases hb
        · rename_i g hg
          split
          · rename_i cur hcur
            refine Moves.settles_bind (keeps_lift _) fun sel => ?_
            split
            · -- a reply that matches nothing leaves the flow waiting where it was
              refine calm _ ?_ (keeps_pure _) fun w b hb => by cases hb; rfl
              simp
            split
            · refine Moves.settles_bind_of (keeps_pure _) (fun w t w' _ hr => ?_) hrun
              cases hr
              intro ho
              cases ho
            · refine Moves.settles_bind keeps_maxSteps fun steps => ?_
              refine Moves.settles_bind_of (keeps_lift _) (fun w t w' _ hr => ?_) hrun
              rw [exec_lift] at hr
              intro ho
              obtain ⟨k, n, hk, hn, hw⟩ := walk_waiting (Prod.mk.inj hr).1 ho
              exact ⟨g, k, n, hg, hk, hn, hw⟩
          · exact execute_moves conv ws bot missing now _ fun ho => by cases ho
      split
      · split
        · split
          · exact start_moves conv ws bot now (some inbound)
          · -- an expired wait without a trigger clears the flow
            refine calm { status := .expired, chatbotId := some bot.id } (by simp)
              (Keeps.bind (Keeps.map _ (keeps_clear _ _ _)) fun _ => keeps_pure _) fun w b hb => ?_
            obtain ⟨q, _, c, _, hrun⟩ := exec_clear conv .opened false w
            simp only [exec_bind, exec_discard, hrun, exec_pure] at hb
            cases hb
            rfl
        · exact hcont ()
      · exact hcont ()
    · -- the chatbot is gone: the flow is cleared and a trigger may start another
      refine Moves.of_pre DistinctIds (fun _ hb => hb.1) ?_
      refine Moves.settles_bind_of (keeps_clear _ _ _) (fun w c w' _ hr => ?_)
        fun c (hc : c.id = conv.id) => hc ▸ tryTrigger_moves c ws inbound now
      obtain ⟨q, _, c', hc', hrun⟩ := exec_clear conv .opened false w
      rw [hrun] at hr
      cases hr
      exact hc'
  · exact tryTrigger_moves conv ws inbound now

/-! ### What a flow result says of its conversation -/

/-- What a flow's result says of the stored conversation it ran on: where it waits, or how
its flow ended. -/
def FlowResult.Reports (r : FlowResult) (c : Conversation) : Prop :=
  match r.status with
  | .waiting => c.chatbotId = r.chatbotId ∧ c.currentNode = r.currentNode
  | .completed => c.Idle ∧ c.status = .closed
  | .handoff => c.Idle ∧ c.status = .opened ∧ c.handoff = true
  | .expired => c.Idle ∧ c.status = .opened
  | .noMatch | .notTriggered => True

/-- When `x` returns `a`, every stored conversation satisfies `R a`. -/
def Tells {α : Type} (R : α → Conversation → Prop) (x : Op α) : Prop :=
  ∀ w a, (exec x w).1 = .ok a → ∀ c ∈ (exec x w).2.store.conversations, R a c

section Tells

variable {α β : Type} {R : β → Conversation → Prop}

theorem Tells.bind {x : Op α} {f : α → Op β} (hf : ∀ a, Tells R (f a)) : Tells R (x >>= f) := by
  intro w b hb
  rcases hx : exec x w with ⟨e | a, w₁⟩
  · simp only [exec_bind, hx] at hb
    cases hb
  · simp only [exec_bind, hx] at hb ⊢
    exact hf a w₁ b hb

theorem Tells.bind_pure {S : α → Conversation → Prop} {x : Op α} {f : α → β} (hx : Tells S x)
    (hR : ∀ a c, S a c → R (f a) c) : Tells R (x >>= fun a => pure (f a)) := by
  intro w b hb c hc
  rcases hr : exec x w with ⟨e | a, w₁⟩
  · simp only [exec_bind, hr] at hb
    cases hb
  · simp only [exec_bind, hr, exec_pure] at hb hc
    cases hb
    exact hR a c (hx w a (by rw [hr]) c (by rw [hr]; exact hc))

end Tells

section Reports

variable {id : String}

end Reports

end Flow

end Autoresponder
