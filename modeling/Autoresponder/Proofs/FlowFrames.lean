import Autoresponder.Proofs.FlowMoves

/-!
# What the interpreter keeps

The interpreter changes the world in two ways only: by quiet steps, which send nodes and add
the bot's records, and by patches of one stored conversation, which make it wait or clear its
flow. So a frame that both keep (`FlowFrame`) is kept by every run of the interpreter's entry
points; the records they add are the bot's (`BotAppends`).

What a run returns narrows what it did (`Op.KeepsOn`). Only a walk sends, and a walk always
ends taking the message (`FlowResult.handled`); so a result that does not take it (no trigger,
no match, an expired wait) comes from a run that recorded nothing.
-/

namespace Autoresponder

open Autoresponder.Flow Autoresponder.Op

namespace Op

variable {α β : Type}

/-! ### Results and the runs that return them -/

/-- Every run of `x` that succeeds returns a result satisfying `P`. -/
def Returns (P : α → Prop) (x : Op α) : Prop := ∀ w a, (exec x w).1 = .ok a → P a

theorem returns_pure {P : α → Prop} {a : α} (h : P a) : Returns P (pure a) := by
  intro w b hb
  cases hb
  exact h

theorem Returns.mono {P Q : α → Prop} {x : Op α} (hx : Returns P x) (h : ∀ a, P a → Q a) :
    Returns Q x :=
  fun w a ha => h a (hx w a ha)

theorem Returns.of_run {P : α → Prop} {x : Op α} {w w' : World} {a : α} (hx : Returns P x)
    (h : exec x w = (.ok a, w')) : P a :=
  hx w a (by rw [h])

theorem Returns.bind {P : β → Prop} {x : Op α} {f : α → Op β} (hf : ∀ a, Returns P (f a)) :
    Returns P (x >>= f) := by
  intro w b hb
  rw [exec_bind] at hb
  rcases hr : exec x w with ⟨_ | a, w'⟩
  · rw [hr] at hb
    cases hb
  · rw [hr] at hb
    exact hf a w' b hb

/-- A loop whose steps keep a property of its state returns a state with the property. -/
theorem Returns.forIn {γ σ : Type} {xs : List γ} {init : σ} {f : γ → σ → Op (ForInStep σ)}
    {P : σ → Prop} (hinit : P init)
    (hf : ∀ x ∈ xs, ∀ s, P s → Returns (fun r : ForInStep σ => P r.value) (f x s)) :
    Returns P (forIn xs init f) := by
  induction xs generalizing init with
  | nil => exact returns_pure hinit
  | cons x xs ih =>
    rw [List.forIn_cons]
    intro w b hb
    rw [exec_bind] at hb
    rcases hx : exec (f x init) w with ⟨_ | step, w₁⟩
    · rw [hx] at hb
      cases hb
    rw [hx] at hb
    have hstep : P step.value := hf x List.mem_cons_self init hinit w step (by rw [hx])
    cases step with
    | done s => exact returns_pure hstep w₁ b hb
    | yield s =>
      exact ih hstep (fun y hy => hf y (List.mem_cons_of_mem x hy)) w₁ b hb

/-- Every run of `x` whose outcome satisfies `Q` ends in a world that `R` relates to the one it
started from. -/
def KeepsOn (Q : Except Fault α → Prop) (R : World → World → Prop) (x : Op α) : Prop :=
  ∀ w, Q (exec x w).1 → R w (exec x w).2

section KeepsOn

variable {R : World → World → Prop} {Q : Except Fault β → Prop}

theorem Keeps.keepsOn {x : Op β} (h : Keeps R x) : KeepsOn Q R x := fun w _ => h w

theorem KeepsOn.keeps {x : Op β} (h : KeepsOn (fun _ => True) R x) : Keeps R x :=
  fun w => h w trivial

theorem KeepsOn.bind [IsTrans World R] {x : Op α} {f : α → Op β} (hx : Keeps R x)
    (hf : ∀ a, KeepsOn Q R (f a)) : KeepsOn Q R (x >>= f) := by
  intro w hq
  have h₁ := hx w
  rw [exec_bind] at hq ⊢
  rcases hr : exec x w with ⟨_ | a, w'⟩
  · rw [hr] at h₁
    exact h₁
  · rw [hr] at h₁ hq
    exact trans_of R h₁ (hf a w' hq)

end KeepsOn

end Op

/-! ### The interpreter's entry points -/

/-- A frame kept by quiet steps and by a patch of one stored conversation that leaves its
number alone. -/
structure FlowFrame (R : World → World → Prop) : Prop where
  quiet : ∀ w w', Quiet w w' → R w w'
  patched : ∀ (w : World) (id : String) (q : Conversation.Patch), q.phone = none →
    R w { w with store := w.store.patched id q }

namespace Flow

section Frames

variable {R : World → World → Prop} {Q : Except Fault FlowResult → Prop}

/-- Clearing a flow patches the conversation and leaves its number alone. -/
theorem exec_clear_keepsNumber (conv : Conversation) (status : Status) (handoff : Bool)
    (w : World) : ∃ q : Conversation.Patch, q.phone = none ∧ ∃ c : Conversation,
      exec (clear conv status handoff) w = (.ok c, { w with store := w.store.patched conv.id q }) := by
  simp only [clear, exec_bind, exec_store, exec_now, exec_lift,
    Store.updateConversation_eq, exec_setStore, exec_pure]
  exact ⟨_, rfl, _, rfl⟩

theorem keeps_clear_of_patched
    (hp : ∀ (w : World) (id : String) (q : Conversation.Patch), q.phone = none →
      R w { w with store := w.store.patched id q })
    (conv : Conversation) (status : Status) (handoff : Bool) :
    Keeps R (clear conv status handoff) := by
  intro w
  obtain ⟨q, hq, c, hrun⟩ := exec_clear_keepsNumber conv status handoff w
  rw [hrun]
  exact hp w conv.id q hq

variable [Std.Refl R] [IsTrans World R]

theorem keeps_findChatbot (workspaceId text : String) : Keeps R (findChatbot workspaceId text) :=
  Keeps.bind keeps_store fun _ => keeps_pure _

theorem keeps_execute (hR : FlowFrame R) (conv : Conversation) (ws : Workspace) (bot : Chatbot)
    (t : Traversal) (now : Time.Stamp) (context : Value) :
    Keeps R (execute conv ws bot t now context) := by
  unfold execute
  refine Keeps.bind (keeps_lift _) fun _ => ?_
  extract_lets emitted₀ context₀
  refine Keeps.bind ?_ fun sent => ?_
  · apply Keeps.forIn
    intro node acc
    extract_lets emitted context
    refine Keeps.bind ((keeps_emit _ _ _ _).mono hR.quiet) fun out => ?_
    obtain ⟨o, c⟩ := out
    exact keeps_pure _
  · extract_lets emitted finish
    split
    · -- waiting: the conversation is patched, once its expiry is known
      intro w
      simp only [exec_bind, exec_timeoutMicros, exec_lift, exec_store, exec_now,
        Store.updateConversation_eq, exec_setStore, finish, exec_pure]
      rcases Config.durationMicros "seconds" 1000000
          (w.setup.automation.get "chatbot_timeout_seconds") with e | micros
      · exact refl_of R w
      dsimp only
      rcases now.shift micros with e | expiry
      · simp only [Except.mapError]
        exact refl_of R w
      · simp only [Except.mapError]
        exact hR.patched w conv.id _ rfl
    · exact Keeps.bind (Keeps.map _ (keeps_clear_of_patched hR.patched _ _ _)) fun _ => keeps_pure _
    · exact Keeps.bind (Keeps.map _ (keeps_clear_of_patched hR.patched _ _ _)) fun _ => keeps_pure _

variable (hp : ∀ (w : World) (id : String) (q : Conversation.Patch), q.phone = none →
    R w { w with store := w.store.patched id q })
  (hexec : ∀ conv ws bot t now context, KeepsOn Q R (execute conv ws bot t now context))

include hexec in
theorem keepsOn_start (conv : Conversation) (ws : Workspace) (bot : Chatbot) (now : Time.Stamp)
    (inbound : Option Inbound) : KeepsOn Q R (start conv ws bot now inbound) := by
  unfold start
  extract_lets context run
  have hrun : ∀ t, KeepsOn Q R (run t) := fun t => hexec conv ws bot t now context
  split
  · exact KeepsOn.bind (keeps_pure _) hrun
  · exact KeepsOn.bind (keeps_fail _) hrun
  · exact KeepsOn.bind keeps_maxSteps fun _ => KeepsOn.bind (keeps_lift _) hrun

include hexec in
theorem keepsOn_tryTrigger (conv : Conversation) (ws : Workspace) (inbound : Inbound)
    (now : Time.Stamp) : KeepsOn Q R (tryTrigger conv ws inbound now) := by
  unfold tryTrigger
  split
  · exact (keeps_pure _).keepsOn
  · refine KeepsOn.bind (keeps_findChatbot _ _) fun found => ?_
    split
    · exact (keeps_pure _).keepsOn
    · exact keepsOn_start hexec _ _ _ _ _

include hp hexec in
/-- What every walk returning `Q` keeps, and every patch of a conversation that keeps its
number, the interpreter's runs returning `Q` keep. -/
theorem keepsOn_handle (conv : Conversation) (ws : Workspace) (inbound : Inbound)
    (now : Time.Stamp) : KeepsOn Q R (handle conv ws inbound now) := by
  unfold handle
  extract_lets interactive missing context
  split
  · exact (keeps_pure _).keepsOn
  split
  · refine KeepsOn.bind keeps_store fun st => ?_
    split
    · rename_i bot _
      refine KeepsOn.bind (keeps_lift _) fun expired => ?_
      extract_lets run proceed
      have hrun : ∀ t, KeepsOn Q R (run t) := fun t => hexec conv ws bot t now context
      have hcont : ∀ r, KeepsOn Q R (proceed r) := by
        intro r
        simp only [proceed]
        split
        · exact keepsOn_start hexec _ _ _ _ _
        split
        · exact hexec _ _ _ _ _ _
        · exact (keeps_fail _).keepsOn
        · split
          · refine KeepsOn.bind (keeps_lift _) fun sel => ?_
            split
            · exact (keeps_pure _).keepsOn
            split
            · exact KeepsOn.bind (keeps_pure _) hrun
            · exact KeepsOn.bind keeps_maxSteps fun _ => KeepsOn.bind (keeps_lift _) hrun
          · exact hexec _ _ _ _ _ _
      split
      · split
        · split
          · exact keepsOn_start hexec _ _ _ _ _
          · exact KeepsOn.bind (Keeps.map _ (keeps_clear_of_patched hp _ _ _))
              fun _ => (keeps_pure _).keepsOn
        · exact hcont ()
      · exact hcont ()
    · exact KeepsOn.bind (keeps_clear_of_patched hp _ _ _)
        fun c => keepsOn_tryTrigger hexec c ws inbound now
  · exact keepsOn_tryTrigger hexec conv ws inbound now

end Frames

variable {R : World → World → Prop} [Std.Refl R] [IsTrans World R]

theorem keeps_start (hR : FlowFrame R) (conv : Conversation) (ws : Workspace) (bot : Chatbot)
    (now : Time.Stamp) (inbound : Option Inbound) : Keeps R (start conv ws bot now inbound) :=
  KeepsOn.keeps (keepsOn_start (fun _ _ _ _ _ _ => (keeps_execute hR _ _ _ _ _ _).keepsOn)
    conv ws bot now inbound)

theorem keeps_handle (hR : FlowFrame R) (conv : Conversation) (ws : Workspace) (inbound : Inbound)
    (now : Time.Stamp) : Keeps R (handle conv ws inbound now) :=
  KeepsOn.keeps (keepsOn_handle hR.patched (fun _ _ _ _ _ _ => (keeps_execute hR _ _ _ _ _ _).keepsOn)
    conv ws inbound now)

end Flow

/-! ### Records of the interpreter -/

theorem flowFrame_botAppends : FlowFrame BotAppends :=
  ⟨fun _ _ h => h.messages, fun w _ _ _ => ⟨[], by simp, by simp [BotRecords]⟩⟩

/-- The messages are as they were. -/
def SameMessages (w w' : World) : Prop := w'.store.messages = w.store.messages

instance : Std.Refl SameMessages := ⟨fun _ => rfl⟩

instance : IsTrans World SameMessages := ⟨fun _ _ _ h₁ h₂ => h₂.trans h₁⟩

end Autoresponder
