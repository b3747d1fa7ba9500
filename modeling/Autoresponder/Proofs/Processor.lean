import Mathlib.Logic.Relation
import Autoresponder.Proofs.SerialLocks
import Autoresponder.Proofs.InboundRouting
import Autoresponder.Proofs.FlowState
import Autoresponder.Proofs.StoreBackends
import Autoresponder.Proofs.DispatchRecords

/-!
# The inbound processor, handler by handler

The processor handles the messages that arrive concurrently, one handler for each, as tasks of
one event loop. A handler normalises the sender's number and works under the lock of its
customer's key (`Serial`): it looks the customer's conversation up, creates it when there is
none, records the message on it, and then does the rest of its work (`respond`): it touches the
conversation and lets the flow answer, or the rules.

`Step` is what may run between two switches of the loop: a lock event, or one piece of the
locked work of a handler that holds its lock. The look-up, the creation and the record are
pieces of their own. The rest is made of many pieces, and any change of the world that `Kept`
allows is one: the stored conversations keep their ids, workspaces and numbers, the phone index
stays, the messages recorded so far stay, and ids are only made. Every operation of the rest
keeps `Kept` (`keeps_respond`), so each of its pieces is such a step; and a routing of a message
run alone is a run of its handler (`routeInbound_runs`).
-/

namespace Autoresponder.Processor

open Autoresponder.Time Autoresponder.Op

/-- A message arriving at the processor, for a workspace, to be handled at a time. -/
structure Arrival where
  inbound : Inbound
  workspace : Workspace
  now : Stamp

namespace Arrival

/-- The number the handler of an arrival works for. -/
def sender (setup : Setup) (a : Arrival) : String := a.inbound.sender setup

/-- The customer of an arrival: its workspace and the sender's number. -/
def customer (setup : Setup) (a : Arrival) : String × String := (a.workspace.id, a.sender setup)

/-- The key of the lock the handler of an arrival works under. -/
def key (setup : Setup) (a : Arrival) : String := Serial.key a.workspace.id (a.sender setup)

end Arrival

/-- How far a handler's locked work has come. -/
inductive Stage where
  /-- It is to look its customer's conversation up. -/
  | looking
  /-- It found none, and is to create it. -/
  | creating
  /-- It has conversation `c`, and is to record the message on it. -/
  | recording (c : Conversation)
  /-- It recorded message `m` on conversation `c`, and does the rest of its work. -/
  | working (c : Conversation) (m : Message)
  /-- A step of its work failed. -/
  | failed

/-- The stage a step that returns `r` leads to: the one `next` makes of its value, or failed. -/
def Stage.after {α : Type} (r : Except Fault α) (next : α → Stage) : Stage :=
  match r with
  | .ok a => next a
  | .error _ => .failed

@[simp] theorem Stage.after_ok {α : Type} (a : α) (next : α → Stage) :
    Stage.after (.ok a) next = next a := rfl

@[simp] theorem Stage.after_error {α : Type} (e : Fault) (next : α → Stage) :
    Stage.after (.error e) next = .failed := rfl

/-! ### What the rest of a handler's work keeps -/

/-- What the rest of a handler's work leaves: the setup, the kind of store, the ids, workspaces
and numbers of the stored conversations in order (while their ids are distinct), the phone
index and the messages recorded so far; ids are only made. -/
structure Kept (w w' : World) : Prop where
  setup : w'.setup = w.setup
  backend : w'.store.backend = w.store.backend
  conversations : (w.store.conversations.map (·.id)).Nodup →
    w'.store.conversations.map Conversation.keys = w.store.conversations.map Conversation.keys
  phoneIndex : w'.store.phoneIndex = w.store.phoneIndex
  messages : w.store.messages <+: w'.store.messages
  issued : w.issued ≤ w'.issued

namespace Kept

variable {w w' : World}

theorem ids_eq (h : Kept w w') (hids : (w.store.conversations.map (·.id)).Nodup) :
    w'.store.conversations.map (·.id) = w.store.conversations.map (·.id) := by
  simpa [List.map_map, Function.comp_def, Conversation.keys] using
    congrArg (List.map Prod.fst) (h.conversations hids)

instance : Std.Refl Kept := ⟨fun _ => ⟨rfl, rfl, fun _ => rfl, rfl, List.prefix_refl _, Nat.le_refl _⟩⟩

instance : IsTrans World Kept := by
  refine ⟨fun _ _ _ h₁ h₂ => ⟨h₂.setup.trans h₁.setup, h₂.backend.trans h₁.backend, fun hids => ?_,
    h₂.phoneIndex.trans h₁.phoneIndex, h₁.messages.trans h₂.messages,
    Nat.le_trans h₁.issued h₂.issued⟩⟩
  have hids₁ := h₁.ids_eq hids
  rw [← hids₁] at hids
  exact (h₂.conversations hids).trans (h₁.conversations (hids₁ ▸ hids))

theorem of_untouched (h : Untouched w w') : Kept w w' := by
  refine ⟨h.setup, ?_, fun _ => ?_, ?_, ?_, h.issued⟩ <;> rw [h.store]

theorem of_quiet (h : Quiet w w') : Kept w w' := by
  obtain ⟨sent, hm, -⟩ := h.messages
  refine ⟨h.setup, h.backend, fun _ => by rw [h.conversations], h.phoneIndex, ?_, h.issued⟩
  rw [hm]
  exact List.prefix_append _ _

/-- A patch of a conversation that leaves its number alone keeps its keys. -/
theorem patched (w : World) (id : String) {q : Conversation.Patch} (hq : q.phone = none) :
    Kept w { w with store := w.store.patched id q } where
  setup := rfl
  backend := Store.patched_backend _ _ _
  conversations hids := Store.map_keys_patched hids fun _ _ ph hph => by simp [hq] at hph
  phoneIndex := Store.patched_phoneIndex _ _
  messages := by rw [Store.patched_messages]
  issued := Nat.le_refl _

theorem flowFrame : FlowFrame Kept := ⟨fun _ _ => of_quiet, fun w id _ hq => patched w id hq⟩

end Kept

theorem keeps_createMessage (m : Message) : Keeps Kept (changeStore (·.createMessage m)) := by
  intro w
  rw [exec_changeStore]
  rcases hs : w.store.createMessage m with e | s'
  · exact refl_of Kept w
  · obtain ⟨t, rfl⟩ := Store.createMessage_ok hs
    exact ⟨rfl, rfl, fun _ => rfl, rfl, List.prefix_append _ _, Nat.le_refl _⟩

theorem keeps_keepMessage (conversationId workspaceId phone kind body : String) (providerId : Value)
    (link fileType : String) (fromCustomer isBot : Bool) (status : String) :
    Keeps Kept (keepMessage conversationId workspaceId phone kind body providerId link fileType
      fromCustomer isBot status) := by
  unfold keepMessage
  refine Keeps.bind (keeps_freshId.mono fun _ _ => Kept.of_untouched) fun id => ?_
  -- the provider's id is checked by a branch that both continue from
  extract_lets finish
  have hfinish : ∀ messageId, Keeps Kept (finish messageId) := fun messageId =>
    Keeps.bind keeps_now fun _ => (keeps_createMessage _).bind_pure _
  split
  · exact Keeps.bind (keeps_pure _) hfinish
  · exact Keeps.bind (keeps_fail _) hfinish

theorem keeps_recordInbound (m : Inbound) (conv : Conversation) (ws : Workspace) (phone : String) :
    Keeps Kept (Routing.recordInbound m conv ws phone) := by
  unfold Routing.recordInbound
  exact keeps_keepMessage _ _ _ _ _ _ _ _ _ _ _

/-- What a handler does after recording the message: it touches the conversation, taking the
sender's profile name, and lets the flow answer, or the rules when the flow passes it on. -/
def respond (m : Inbound) (snapshot : Conversation) (ws : Workspace) (now : Stamp) :
    Op Routed := do
  let patch : Conversation.Patch :=
    if m.contactName.isEmpty then {} else { contactName := some m.contactName }
  let (updated, s) ← Op.lift ((← Op.store).updateConversation snapshot.id patch (← Op.now))
  Op.setStore s
  let conv := updated.getD snapshot
  let r : Routed := { conversationId := conv.id, route := "none" }
  let flow ← match ← Routing.unlessUnconfigured (Flow.handle conv ws m now) with
    | .ok f => pure f
    | .error e => return { r with error := e }
  if flow.handled then return { r with route := "chatbot", flow := some flow }
  let store ← Op.store
  let conv := if flow.chatbotId.any (!·.isEmpty) then (store.conversation? conv.id).getD conv else conv
  Routing.automate r snapshot conv ws now

/-- Routing a message is finding or creating the conversation of its sender, recording the
message on it, and responding. -/
theorem routeInbound_eq (m : Inbound) (ws : Workspace) (now : Stamp) :
    routeInbound m ws now = (do
      let cc := ((← Op.setup).automation.get "default_country_code").display
      let phone := Phone.normalize m.phone cc
      if phone.isEmpty then return { route := "none", error := "invalid phone number" }
      let snapshot ← Routing.conversationFor phone m.contactName ws
      discard (Routing.recordInbound m snapshot ws phone)
      respond m snapshot ws now) := rfl

/-- A message whose number normalises to nothing is refused, with the world left alone. -/
theorem exec_routeInbound_of_invalid {m : Inbound} {ws : Workspace} {now : Stamp} {w : World}
    (hphone : m.sender w.setup = "") :
    exec (routeInbound m ws now) w = (.ok { route := "none", error := "invalid phone number" }, w) := by
  have hsender : Phone.normalize m.phone
      ((w.setup.automation.get "default_country_code").display) = m.sender w.setup := rfl
  rw [routeInbound_eq, exec_setup_bind]
  simp only [hsender]
  rw [if_pos (by simpa using hphone)]
  rfl

/-- For a sender whose number normalises to something, routing finds or creates the sender's
conversation, records the message on it and responds. -/
theorem exec_routeInbound_of_sender {m : Inbound} {ws : Workspace} {now : Stamp} {w : World}
    (hphone : m.sender w.setup ≠ "") :
    exec (routeInbound m ws now) w = exec (do
      let snapshot ← Routing.conversationFor (m.sender w.setup) m.contactName ws
      discard (Routing.recordInbound m snapshot ws (m.sender w.setup))
      respond m snapshot ws now) w := by
  have hsender : Phone.normalize m.phone
      ((w.setup.automation.get "default_country_code").display) = m.sender w.setup := rfl
  rw [routeInbound_eq, exec_setup_bind]
  simp only [hsender]
  rw [if_neg (by simpa using hphone)]

section Frames

variable {R : World → World → Prop} [Std.Refl R] [IsTrans World R]

theorem keeps_automate (hR : FlowFrame R) (r : Routed) (snapshot conv : Conversation)
    (ws : Workspace) (now : Stamp) : Keeps R (Routing.automate r snapshot conv ws now) := by
  have quiet : ∀ {α : Type} {x : Op α}, Keeps Quiet x → Keeps R x := fun hx => hx.mono hR.quiet
  unfold Routing.automate
  refine Keeps.bind (quiet (Rule.keeps_settingsOrDefaults _).toQuiet) fun settings => ?_
  refine Keeps.bind keeps_setup fun setup => Keeps.bind (keeps_lift _) fun working => ?_
  refine Keeps.bind keeps_store fun st => ?_
  refine Keeps.bind (Keeps.bind keeps_setup fun _ => keeps_lift _) fun window => ?_
  refine Keeps.bind (keeps_lift _) fun choice => ?_
  split
  · refine Keeps.bind (Keeps.unlessUnconfigured (quiet (keeps_dispatch _ _ _ _).toQuiet))
      fun sent => ?_
    split
    · refine Keeps.bind (keeps_pure _) fun outcome => ?_
      split
      · exact keeps_pure _
      refine Keeps.bind keeps_store fun st' => ?_
      simp only []
      split
      · split
        · exact keeps_pure _
        -- the chatbot of a chatbot rule starts
        refine Keeps.bind (Keeps.unlessUnconfigured (Flow.keeps_start hR _ _ _ _ _))
          fun started => ?_
        split <;> exact keeps_pure _
      · exact keeps_pure _
    · exact keeps_pure _
  · exact keeps_pure _

/-- The rest of a handler's work keeps every frame that the interpreter keeps. -/
theorem keeps_respond (hR : FlowFrame R) (m : Inbound) (snapshot : Conversation) (ws : Workspace)
    (now : Stamp) : Keeps R (respond m snapshot ws now) := by
  unfold respond
  extract_lets patch
  have hpatch : patch.unknown = [] ∧ patch.phone = none := by
    simp only [patch]
    split <;> exact ⟨rfl, rfl⟩
  intro w
  rw [exec_store_bind, exec_now_bind, Store.updateConversation_eq _ _ _ _ hpatch.1, exec_bind,
    exec_lift]
  dsimp only
  rw [exec_bind, exec_setStore]
  dsimp only
  -- touching the conversation patches it and leaves its number alone
  refine Keeps.after (hR.patched w _ _ (by simpa [Conversation.Patch.at] using hpatch.2)) ?_
  refine Keeps.bind (Keeps.unlessUnconfigured (Flow.keeps_handle hR _ _ _ _)) fun res => ?_
  split
  · refine Keeps.bind (keeps_pure _) fun flow => ?_
    split
    · exact keeps_pure _
    · exact Keeps.bind keeps_store fun _ => keeps_automate hR _ _ _ _ _
  · exact keeps_pure _

end Frames

/-- The id made from a count of ids: `f00d` and the last twelve of sixteen hexadecimal digits. -/
def freshText (n : Nat) : String := "f00d" ++ String.ofList ((hex16 n).toList.drop 4)

/-- The conversation a handler creates in world `w`. -/
def newConversation (phone contactName : String) (ws : Workspace) (w : World) : Conversation :=
  { id := freshText (w.issued + 1), workspaceId := ws.id, phone, contactName,
    createdAt := w.clock, updatedAt := w.clock }

theorem exec_openConversation (phone contactName : String) (ws : Workspace) (w : World) :
    exec (Routing.openConversation phone contactName ws) w =
      match w.store.createConversation (newConversation phone contactName ws w) with
      | .ok s => (.ok (newConversation phone contactName ws w),
          { w with issued := w.issued + 1, store := s })
      | .error e => (.error e, { w with issued := w.issued + 1 }) := by
  unfold Routing.openConversation
  simp only [exec_bind, exec_now, exec_freshId, exec_changeStore]
  rcases hs : w.store.createConversation (newConversation phone contactName ws w) with e | s
  · unfold newConversation freshText at hs
    simp only [hs]
  · unfold newConversation freshText at hs
    simp only [hs, exec_pure]
    rfl

/-! ### The processor -/

/-- The processor: its lock tables and handlers, the world, and how far each handler's locked
work has come. -/
structure State where
  locks : Serial.State
  world : World
  stages : Nat → Stage

/-- The processor before any handler ran: one handler for each arrival, under its key, none
entered, each yet to look its conversation up. -/
def start (arrivals : List Arrival) (w : World) : State where
  locks := Serial.State.init (arrivals.map (Arrival.key w.setup))
  world := w
  stages := fun _ => .looking

namespace State

/-- Handler `t` holds the lock of its key. -/
def Holding (S : State) (t : Nat) : Prop := ∃ k l, S.locks.handlers[t]? = some ⟨k, .holding l⟩

/-- Handler `t` moves to stage `s`. -/
def moveTo (S : State) (t : Nat) (s : Stage) : State := { S with stages := Serial.put S.stages t s }

/-- Handler `t` runs `x`: the world as `x` leaves it, and the handler at the stage `next` makes
of what `x` returns, or failed. -/
def after {α : Type} (S : State) (t : Nat) (x : Op α) (next : α → Stage) : State :=
  { S.moveTo t (Stage.after (exec x S.world).1 next) with world := (exec x S.world).2 }

section Fields

variable {S : State} {t : Nat} {s : Stage} {α : Type} {x : Op α} {next : α → Stage}

@[simp] theorem moveTo_locks : (S.moveTo t s).locks = S.locks := rfl
@[simp] theorem moveTo_world : (S.moveTo t s).world = S.world := rfl
@[simp] theorem moveTo_stages : (S.moveTo t s).stages = Serial.put S.stages t s := rfl
@[simp] theorem after_locks : (S.after t x next).locks = S.locks := rfl
@[simp] theorem after_world : (S.after t x next).world = (exec x S.world).2 := rfl
@[simp] theorem after_stages :
    (S.after t x next).stages = Serial.put S.stages t (Stage.after (exec x S.world).1 next) := rfl

theorem after_eq : S.after t x next =
    ({ S with world := (exec x S.world).2 } : State).moveTo t (Stage.after (exec x S.world).1 next) :=
  rfl

@[simp] theorem holding_moveTo {u : Nat} : (S.moveTo t s).Holding u ↔ S.Holding u := Iff.rfl

end Fields

end State

/-- What may run between two switches of the loop: a lock event, or a piece of the locked work
of a handler that holds its lock. -/
inductive Step (arrivals : List Arrival) : State → State → Prop
  /-- A handler enters, queues, resumes, is cancelled, or leaves. -/
  | lock {S : State} {e : Serial.Event} {locks : Serial.State} :
      Serial.step S.locks e = some locks → Step arrivals S { S with locks }
  /-- The handler looks its customer's conversation up. -/
  | find {S : State} {t : Nat} {a : Arrival} : arrivals[t]? = some a → S.Holding t →
      S.stages t = .looking → a.sender S.world.setup ≠ "" →
      Step arrivals S (S.moveTo t
        ((S.world.store.findConversation? (a.sender S.world.setup) a.workspace.id).elim
          .creating .recording))
  /-- Having found none, it creates the conversation. -/
  | create {S : State} {t : Nat} {a : Arrival} : arrivals[t]? = some a → S.Holding t →
      S.stages t = .creating →
      Step arrivals S (S.after t (Routing.openConversation (a.sender S.world.setup)
        a.inbound.contactName a.workspace) .recording)
  /-- It records the message on its conversation. -/
  | record {S : State} {t : Nat} {a : Arrival} {c : Conversation} : arrivals[t]? = some a →
      S.Holding t → S.stages t = .recording c →
      Step arrivals S (S.after t (Routing.recordInbound a.inbound c a.workspace
        (a.sender S.world.setup)) (.working c))
  /-- It does a piece of the rest of its work. -/
  | work {S : State} {t : Nat} {c : Conversation} {m : Message} {w : World} : S.Holding t →
      S.stages t = .working c m → Kept S.world w → Step arrivals S { S with world := w }

/-! ### Runs on a schedule -/

/-- A piece of the processor's work named by a schedule: a lock event, or the look-up, the
creation or the record of a handler. -/
inductive Action where
  | lock (e : Serial.Event)
  | find (t : Nat)
  | create (t : Nat)
  | record (t : Nat)

namespace State

/-- Whether handler `t` holds its lock. -/
def holds (S : State) (t : Nat) : Bool :=
  match S.locks.handlers[t]? with
  | some ⟨_, .holding _⟩ => true
  | _ => false

theorem holding_of_holds {S : State} {t : Nat} (h : S.holds t = true) : S.Holding t := by
  unfold holds at h
  split at h
  · exact ⟨_, _, ‹_›⟩
  · cases h

/-- Carries out a scheduled action, where the handler is at the stage the action needs. -/
def perform (arrivals : List Arrival) (S : State) : Action → Option State
  | .lock e => (Serial.step S.locks e).map fun locks => { S with locks }
  | .find t =>
    match arrivals[t]?, S.stages t with
    | some a, .looking =>
      if S.holds t && !(a.sender S.world.setup).isEmpty then
        some (S.moveTo t ((S.world.store.findConversation? (a.sender S.world.setup)
          a.workspace.id).elim .creating .recording))
      else none
    | _, _ => none
  | .create t =>
    match arrivals[t]?, S.stages t with
    | some a, .creating =>
      if S.holds t then
        some (S.after t (Routing.openConversation (a.sender S.world.setup) a.inbound.contactName
          a.workspace) .recording)
      else none
    | _, _ => none
  | .record t =>
    match arrivals[t]?, S.stages t with
    | some a, .recording c =>
      if S.holds t then
        some (S.after t (Routing.recordInbound a.inbound c a.workspace (a.sender S.world.setup))
          (.working c))
      else none
    | _, _ => none

/-- Carries out the actions of a schedule in turn. -/
def performAll (arrivals : List Arrival) : State → List Action → Option State
  | S, [] => some S
  | S, act :: acts => (S.perform arrivals act).bind fun S' => S'.performAll arrivals acts

end State

section Schedule

variable {arrivals : List Arrival} {S S' : State}

/-- A scheduled action that can happen is a step. -/
theorem Step.of_perform {act : Action} (h : S.perform arrivals act = some S') :
    Step arrivals S S' := by
  cases act with
  | lock e =>
    obtain ⟨locks, he, rfl⟩ := Option.map_eq_some_iff.mp h
    exact .lock he
  | find t =>
    simp only [State.perform] at h
    split at h
    · rename_i a _ ha hst
      split at h
      · rename_i hok
        cases h
        simp only [Bool.and_eq_true, Bool.not_eq_true'] at hok
        exact .find ha (State.holding_of_holds hok.1) hst fun he => by simp [he] at hok
      · cases h
    · cases h
  | create t =>
    simp only [State.perform] at h
    split at h
    · rename_i a _ ha hst
      split at h
      · cases h
        exact .create ha (State.holding_of_holds ‹_›) hst
      · cases h
    · cases h
  | record t =>
    simp only [State.perform] at h
    split at h
    · rename_i a _ c ha hst
      split at h
      · cases h
        exact .record ha (State.holding_of_holds ‹_›) hst
      · cases h
    · cases h

/-- A schedule that can be carried out is a run. -/
theorem run_of_performAll {acts : List Action} (h : S.performAll arrivals acts = some S') :
    Relation.ReflTransGen (Step arrivals) S S' := by
  induction acts generalizing S with
  | nil =>
    cases h
    exact .refl
  | cons act acts ih =>
    obtain ⟨S₁, h₁, h₂⟩ := Option.bind_eq_some_iff.mp h
    exact .head (Step.of_perform h₁) (ih h₂)

end Schedule

/-! ### A routing is a run of its handler -/

section Alone

variable {arrivals : List Arrival} {S : State} {t : Nat} {a : Arrival}

/-- A handler that recorded its message does the rest of its work as steps of its own. -/
theorem runs_of_recording {c : Conversation} (ha : arrivals[t]? = some a) (hold : S.Holding t)
    (hstage : S.stages t = .recording c) {r : Except Fault Routed} {w' : World}
    (h : exec (discard (Routing.recordInbound a.inbound c a.workspace (a.sender S.world.setup)) >>=
      fun _ => respond a.inbound c a.workspace a.now) S.world = (r, w')) :
    ∃ S', Relation.ReflTransGen (Step arrivals) S S' ∧ S'.world = w' := by
  have hrecord := Step.record ha hold hstage
  rw [exec_bind, exec_discard] at h
  rcases hrec : exec (Routing.recordInbound a.inbound c a.workspace (a.sender S.world.setup))
      S.world with ⟨_ | msg, w₂⟩
  · -- the record failed, and the routing with it
    rw [hrec] at h
    cases h
    exact ⟨_, .single hrecord, by simp [State.after, hrec]⟩
  · rw [hrec] at h
    have hkept : Kept w₂ w' := (keeps_respond Kept.flowFrame _ _ _ _).of_run h
    refine ⟨_, .tail (.single hrecord) (.work (t := t) (c := c) (m := msg) ?_ ?_ ?_), rfl⟩
    · exact hold
    · simp [State.after, hrec]
    · simpa [State.after, hrec] using hkept

/-- A routing of a message from a valid number, run alone, is a run of the processor with that
one arrival: its handler takes the lock, finds or creates the conversation, records the message
and does the rest, and the run ends in the world the routing leaves. -/
theorem routeInbound_runs {w w' : World} {r : Except Fault Routed} (hphone : a.sender w.setup ≠ "")
    (h : exec (routeInbound a.inbound a.workspace a.now) w = (r, w')) :
    ∃ S, Relation.ReflTransGen (Step [a]) (start [a] w) S ∧ S.world = w' := by
  -- the handler enters and takes the new lock of its key
  set S₁ : State := { start [a] w with locks := (start [a] w).locks.enter 0 (a.key w.setup) }
  have henter : Step [a] (start [a] w) S₁ := .lock (e := .enter 0) rfl
  have hold : S₁.Holding 0 := ⟨_, _, rfl⟩
  have hw₁ : S₁.world = w := rfl
  have hfind : Step [a] S₁ (S₁.moveTo 0
      ((w.store.findConversation? (a.sender w.setup) a.workspace.id).elim .creating .recording)) :=
    .find rfl hold rfl hphone
  have hsender : a.inbound.sender w.setup = a.sender w.setup := rfl
  rw [exec_routeInbound_of_sender hphone, hsender, exec_bind] at h
  unfold Routing.conversationFor at h
  rw [exec_store_bind] at h
  cases hc : w.store.findConversation? (a.sender w.setup) a.workspace.id with
  | some c =>
    -- the conversation is there: the handler records on it
    rw [hc] at hfind h
    simp only [exec_pure] at h
    obtain ⟨S', hrun, hw'⟩ := @runs_of_recording [a] (S₁.moveTo 0 (.recording c)) 0 a c rfl hold
      (by simp) r w' h
    exact ⟨S', .head henter (.head hfind hrun), hw'⟩
  | none =>
    -- there is none: the handler creates it
    rw [hc] at hfind h
    simp only [] at h
    set S₂ := (S₁.moveTo 0 .creating).after 0
      (Routing.openConversation (a.sender w.setup) a.inbound.contactName a.workspace) .recording
    have hcreate : Step [a] (S₁.moveTo 0 .creating) S₂ := .create rfl hold (by simp)
    rw [exec_openConversation] at h
    cases hs : w.store.createConversation (newConversation (a.sender w.setup) a.inbound.contactName
        a.workspace w) with
    | error e =>
      rw [hs] at h
      cases h
      exact ⟨S₂, .head henter (.head hfind (.single hcreate)),
        by simp [S₂, hw₁, exec_openConversation, hs]⟩
    | ok s =>
      rw [hs] at h
      have hw₂ : S₂.world = { w with issued := w.issued + 1, store := s } := by
        simp [S₂, hw₁, exec_openConversation, hs]
      obtain ⟨S', hrun, hw'⟩ := @runs_of_recording [a] S₂ 0 a
        (newConversation (a.sender w.setup) a.inbound.contactName a.workspace w) rfl hold
        (by simp [S₂, hw₁, exec_openConversation, hs]) r w' (by rw [hw₂]; exact h)
      exact ⟨S', .head henter (.head hfind (.head hcreate hrun)), hw'⟩

end Alone

end Autoresponder.Processor
