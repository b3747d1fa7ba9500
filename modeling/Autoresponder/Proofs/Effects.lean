import Mathlib.Order.Defs.Unbundled
import Autoresponder.Routing

/-!
# Running operations, and what they leave alone

`Op.exec x w` runs an operation on a world and gives its result or its fault, with the world
after it; a fault keeps the changes made before it. The equations of `exec` are simp lemmas, so
a run is computed symbolically, never by unfolding the monad.

`Op.Keeps R x` says that every run of `x`, failed or not, ends in a world that `R` relates to
the one it started from. For a reflexive and transitive `R` it is closed under the ways
operations are put together (`Keeps.bind`, `Keeps.tryCatch`, `Keeps.forIn`), so the frame of
an operation follows from the frames of its parts. Two frames are used here:

* `Untouched`: the setup and the store stay as they are, and the count of ids made only grows.
  Provider requests, endpoint calls, fresh ids and text generation are untouched.
* `Quiet`: the setup, the kind of store, the chatbots, the conversations and the phone index
  stay as they are, and only messages sent by the bot are added. Sending a node (`Flow.emit`)
  is quiet.
-/

namespace Autoresponder

open Autoresponder.Text Autoresponder.Channel

theorem Except.eq_ok_of_toOption {ε α : Type} {e : Except ε α} {a : α}
    (h : e.toOption = some a) : e = .ok a := by
  cases e <;> simp_all [Except.toOption]

namespace Op

variable {α β : Type}

/-- Runs an operation on a world. -/
def exec (x : Op α) (w : World) : Except Fault α × World := x.run.run w

/-! ### The equations of a run -/

@[simp] theorem exec_pure (a : α) (w : World) : exec (pure a) w = (.ok a, w) := rfl

@[simp] theorem exec_bind (x : Op α) (f : α → Op β) (w : World) :
    exec (x >>= f) w = match exec x w with
      | (.ok a, w') => exec (f a) w'
      | (.error e, w') => (.error e, w') := by
  simp only [exec, bind, ExceptT.bind, ExceptT.run, ExceptT.mk, StateT.run, StateT.bind]
  generalize x w = r
  rcases r with ⟨_ | a, w'⟩ <;> rfl

@[simp] theorem exec_map (f : α → β) (x : Op α) (w : World) :
    exec (f <$> x) w = match exec x w with
      | (.ok a, w') => (.ok (f a), w')
      | (.error e, w') => (.error e, w') := by
  simp only [exec, Functor.map, ExceptT.map, ExceptT.run, ExceptT.mk, StateT.run, StateT.bind,
    bind]
  generalize x w = r
  rcases r with ⟨_ | a, w'⟩ <;> rfl

@[simp] theorem exec_discard (x : Op α) (w : World) :
    exec (discard x) w = match exec x w with
      | (.ok _, w') => (.ok (), w')
      | (.error e, w') => (.error e, w') := by
  simp only [discard, Functor.mapConst, Function.comp_apply, exec, ExceptT.map, ExceptT.run,
    ExceptT.mk, StateT.run, bind, StateT.bind]
  generalize x w = r
  rcases r with ⟨_ | a, w'⟩ <;> rfl

@[simp] theorem exec_tryCatch (x : Op α) (h : Fault → Op α) (w : World) :
    exec (tryCatch x h) w = match exec x w with
      | (.ok a, w') => (.ok a, w')
      | (.error e, w') => exec (h e) w' := by
  simp only [exec, tryCatch, MonadExcept.tryCatch, tryCatchThe, MonadExceptOf.tryCatch,
    ExceptT.tryCatch, ExceptT.run, ExceptT.mk, StateT.run, bind, StateT.bind]
  generalize x w = r
  rcases r with ⟨_ | a, w'⟩ <;> rfl

@[simp] theorem exec_get (w : World) : exec (get : Op World) w = (.ok w, w) := rfl

@[simp] theorem exec_set (w w' : World) : exec (set w' : Op Unit) w = (.ok (), w') := rfl

@[simp] theorem exec_throw (e : Fault) (w : World) : exec (throw e : Op α) w = (.error e, w) :=
  rfl

@[simp] theorem exec_fail (e : Fault) (w : World) : exec (fail e : Op α) w = (.error e, w) := rfl

@[simp] theorem exec_lift (r : Except Fault α) (w : World) : exec (lift r) w = (r, w) := by
  cases r <;> rfl

@[simp] theorem exec_now (w : World) : exec now w = (.ok w.clock, w) := rfl

@[simp] theorem exec_setup (w : World) : exec Op.setup w = (.ok w.setup, w) := rfl

@[simp] theorem exec_store (w : World) : exec store w = (.ok w.store, w) := rfl

@[simp] theorem exec_setStore (s : Store) (w : World) :
    exec (setStore s) w = (.ok (), { w with store := s }) := rfl

@[simp] theorem exec_changeStore (f : Store → Except Fault Store) (w : World) :
    exec (changeStore f) w = match f w.store with
      | .ok s => (.ok (), { w with store := s })
      | .error e => (.error e, w) := by
  simp only [changeStore, exec_bind, exec_store, exec_lift]
  cases f w.store <;> rfl

/-- A run of a bind that succeeds ran both parts. -/
theorem exec_bind_ok {x : Op α} {f : α → Op β} {w w' : World} {b : β}
    (h : exec (x >>= f) w = (.ok b, w')) :
    ∃ a w₁, exec x w = (.ok a, w₁) ∧ exec (f a) w₁ = (.ok b, w') := by
  rw [exec_bind] at h
  rcases hx : exec x w with ⟨_ | a, w₁⟩
  · rw [hx] at h
    cases h
  · rw [hx] at h
    exact ⟨a, w₁, rfl, h⟩

theorem exec_setup_bind (f : Setup → Op β) (w : World) :
    exec (Op.setup >>= f) w = exec (f w.setup) w := by
  simp only [exec_bind, exec_setup]

theorem exec_store_bind (f : Store → Op β) (w : World) :
    exec (store >>= f) w = exec (f w.store) w := by
  simp only [exec_bind, exec_store]

theorem exec_now_bind (f : Time.Stamp → Op β) (w : World) :
    exec (now >>= f) w = exec (f w.clock) w := by
  simp only [exec_bind, exec_now]

/-- A run that goes on past a lifted result had a value there. -/
theorem exec_lift_bind_ok {r : Except Fault α} {f : α → Op β} {w w' : World} {b : β}
    (h : exec (lift r >>= f) w = (.ok b, w')) : ∃ a, r = .ok a ∧ exec (f a) w = (.ok b, w') := by
  obtain ⟨a, w₁, h₁, h₂⟩ := exec_bind_ok h
  rw [exec_lift, Prod.mk.injEq] at h₁
  obtain ⟨rfl, rfl⟩ := h₁
  exact ⟨a, rfl, h₂⟩

theorem exec_pure_ok {a b : α} {w w' : World} (h : exec (pure a) w = (.ok b, w')) :
    b = a ∧ w' = w := by
  rw [exec_pure, Prod.mk.injEq, Except.ok.injEq] at h
  exact ⟨h.1.symm, h.2.symm⟩

theorem exec_discard_ok {x : Op α} {w w' : World} {u : Unit}
    (h : exec (discard x) w = (.ok u, w')) : ∃ a, exec x w = (.ok a, w') := by
  rw [exec_discard] at h
  rcases hx : exec x w with ⟨_ | a, w₁⟩
  · rw [hx] at h
    cases h
  · rw [hx] at h
    cases h
    exact ⟨a, rfl⟩

/-! ### Frames -/

/-- Every run of `x` ends in a world that `R` relates to the one it started from. -/
def Keeps (R : World → World → Prop) (x : Op α) : Prop := ∀ w, R w (exec x w).2

section Rules

variable {R : World → World → Prop}

theorem keeps_pure [Std.Refl R] (a : α) : Keeps R (pure a) := fun w => refl_of R w

theorem keeps_fail [Std.Refl R] (e : Fault) : Keeps R (fail e : Op α) := fun w => refl_of R w

theorem keeps_throw [Std.Refl R] (e : Fault) : Keeps R (throw e : Op α) := fun w => refl_of R w

theorem keeps_lift [Std.Refl R] (r : Except Fault α) : Keeps R (lift r) := by
  intro w
  rw [exec_lift]
  exact refl_of R w

theorem keeps_get [Std.Refl R] : Keeps R (get : Op World) := fun w => refl_of R w

theorem keeps_store [Std.Refl R] : Keeps R store := fun w => refl_of R w

theorem keeps_setup [Std.Refl R] : Keeps R Op.setup := fun w => refl_of R w

theorem keeps_now [Std.Refl R] : Keeps R now := fun w => refl_of R w

/-- What follows a failure never runs. -/
theorem keeps_fail_bind [Std.Refl R] (e : Fault) (f : α → Op β) : Keeps R (fail e >>= f) := by
  intro w
  simp only [exec_bind, exec_fail]
  exact refl_of R w

theorem Keeps.bind [IsTrans World R] {x : Op α} {f : α → Op β} (hx : Keeps R x) (hf : ∀ a, Keeps R (f a)) :
    Keeps R (x >>= f) := by
  intro w
  have h₁ := hx w
  rw [exec_bind]
  rcases hr : exec x w with ⟨_ | a, w'⟩
  · rw [hr] at h₁
    exact h₁
  · rw [hr] at h₁
    exact trans_of R h₁ (hf a w')

theorem Keeps.map {x : Op α} (f : α → β) (hx : Keeps R x) : Keeps R (f <$> x) := by
  intro w
  have h₁ := hx w
  rw [exec_map]
  rcases hr : exec x w with ⟨_ | a, w'⟩
  · rw [hr] at h₁
    exact h₁
  · rw [hr] at h₁
    exact h₁

theorem Keeps.tryCatch [IsTrans World R] {x : Op α} {h : Fault → Op α} (hx : Keeps R x) (hh : ∀ e, Keeps R (h e)) :
    Keeps R (tryCatch x h) := by
  intro w
  have h₁ := hx w
  rw [exec_tryCatch]
  rcases hr : exec x w with ⟨e | a, w'⟩
  · rw [hr] at h₁
    exact trans_of R h₁ (hh e w')
  · rw [hr] at h₁
    exact h₁

/-- A loop keeps what each of its steps keeps. -/
theorem Keeps.forIn [Std.Refl R] [IsTrans World R] {γ σ : Type} (xs : List γ) (init : σ) {f : γ → σ → Op (ForInStep σ)}
    (hf : ∀ a b, Keeps R (f a b)) : Keeps R (forIn xs init f) := by
  induction xs generalizing init with
  | nil => exact keeps_pure init
  | cons a as ih =>
    rw [List.forIn_cons]
    refine Keeps.bind (hf a init) fun step => ?_
    cases step with
    | done b => exact keeps_pure b
    | yield b => exact ih b

theorem Keeps.mapM [Std.Refl R] [IsTrans World R] {γ : Type} {f : γ → Op β} (xs : List γ)
    (hf : ∀ a, Keeps R (f a)) : Keeps R (xs.mapM f) := by
  induction xs with
  | nil => exact keeps_pure _
  | cons a as ih =>
    rw [List.mapM_cons]
    exact Keeps.bind (hf a) fun _ => Keeps.bind ih fun _ => keeps_pure _

/-- A run from a world related to `w`, by an operation that keeps `R`, ends related to `w`. -/
theorem Keeps.after [IsTrans World R] {y : Op α} {w w' : World} (hw : R w w') (hy : Keeps R y) :
    R w (exec y w').2 := trans_of R hw (hy w')

theorem Keeps.mono {S : World → World → Prop} {x : Op α} (hRS : ∀ w w', R w w' → S w w')
    (hx : Keeps R x) : Keeps S x := fun w => hRS _ _ (hx w)

/-- Returning a value after a run keeps what the run keeps. -/
theorem Keeps.bind_pure {x : Op α} (g : α → β) (hx : Keeps R x) :
    Keeps R (x >>= fun a => pure (g a)) := by
  intro w
  have h₁ := hx w
  rw [exec_bind]
  rcases hr : exec x w with ⟨_ | a, w'⟩
  · rw [hr] at h₁
    exact h₁
  · rw [hr] at h₁
    exact h₁

theorem Keeps.of_run {R : World → World → Prop} {x : Op α} {w w' : World} {r : Except Fault α}
    (hx : Keeps R x) (h : exec x w = (r, w')) : R w w' := by
  have h₁ := hx w
  rw [h] at h₁
  exact h₁

end Rules

end Op

/-! ### Untouched and quiet worlds -/

/-- The setup and the store are as they were, and no fewer ids have been made. -/
structure Untouched (w w' : World) : Prop where
  setup : w'.setup = w.setup
  store : w'.store = w.store
  issued : w.issued ≤ w'.issued

instance : Std.Refl Untouched := ⟨fun _ => ⟨rfl, rfl, Nat.le_refl _⟩⟩

instance : IsTrans World Untouched :=
  ⟨fun _ _ _ h₁ h₂ => ⟨h₂.setup.trans h₁.setup, h₂.store.trans h₁.store,
    Nat.le_trans h₁.issued h₂.issued⟩⟩

/-- Records the bot made: none is from the customer, all are from the bot. -/
def BotRecords (ms : List Message) : Prop := ∀ m ∈ ms, m.fromCustomer = false ∧ m.isBot = true

/-- The messages only grew, by records the bot made. -/
def BotAppends (w w' : World) : Prop :=
  ∃ sent, w'.store.messages = w.store.messages ++ sent ∧ BotRecords sent

instance : Std.Refl BotAppends := ⟨fun _ => ⟨[], by simp, by simp [BotRecords]⟩⟩

instance : IsTrans World BotAppends := by
  refine ⟨fun _ _ _ h₁ h₂ => ?_⟩
  obtain ⟨s₁, hm₁, hb₁⟩ := h₁
  obtain ⟨s₂, hm₂, hb₂⟩ := h₂
  refine ⟨s₁ ++ s₂, by simp [hm₂, hm₁], fun m hm => ?_⟩
  rcases List.mem_append.mp hm with h | h
  · exact hb₁ m h
  · exact hb₂ m h

/-- The setup, the kind of store, the chatbots, the conversations and the phone index are as
they were, no fewer ids have been made, and the messages only grew by records the bot made. -/
structure Quiet (w w' : World) : Prop where
  setup : w'.setup = w.setup
  backend : w'.store.backend = w.store.backend
  chatbots : w'.store.chatbots = w.store.chatbots
  conversations : w'.store.conversations = w.store.conversations
  phoneIndex : w'.store.phoneIndex = w.store.phoneIndex
  issued : w.issued ≤ w'.issued
  messages : ∃ sent, w'.store.messages = w.store.messages ++ sent ∧ BotRecords sent

instance : Std.Refl Quiet := ⟨fun w => ⟨rfl, rfl, rfl, rfl, rfl, Nat.le_refl _, refl_of BotAppends w⟩⟩

instance : IsTrans World Quiet :=
  ⟨fun _ _ _ h₁ h₂ => ⟨h₂.setup.trans h₁.setup, h₂.backend.trans h₁.backend,
    h₂.chatbots.trans h₁.chatbots, h₂.conversations.trans h₁.conversations,
    h₂.phoneIndex.trans h₁.phoneIndex, Nat.le_trans h₁.issued h₂.issued,
    trans_of BotAppends h₁.messages h₂.messages⟩⟩

theorem Untouched.quiet {w w' : World} (h : Untouched w w') : Quiet w w' := by
  refine ⟨h.setup, by rw [h.store], by rw [h.store], by rw [h.store], by rw [h.store], h.issued,
    [], by simp [h.store], ?_⟩
  simp [BotRecords]

theorem Op.Keeps.quiet {α : Type} {x : Op α} (h : Op.Keeps Untouched x) : Op.Keeps Quiet x :=
  h.mono fun _ _ hw => hw.quiet

/-- Quiet, adding at most `n` messages. -/
structure QuietUpTo (n : Nat) (w w' : World) : Prop where
  quiet : Quiet w w'
  length : w'.store.messages.length ≤ w.store.messages.length + n

instance (n : Nat) : Std.Refl (QuietUpTo n) := ⟨fun w => ⟨refl_of Quiet w, Nat.le_add_right _ _⟩⟩

theorem QuietUpTo.trans {a b : Nat} {w w₁ w₂ : World} (h₁ : QuietUpTo a w w₁)
    (h₂ : QuietUpTo b w₁ w₂) : QuietUpTo (a + b) w w₂ := by
  have l₁ := h₁.length
  have l₂ := h₂.length
  exact ⟨trans_of Quiet h₁.quiet h₂.quiet, by omega⟩

instance : IsTrans World (QuietUpTo 0) := ⟨fun _ _ _ h₁ h₂ => h₁.trans h₂⟩

theorem Untouched.quietUpTo {w w' : World} (h : Untouched w w') (n : Nat) : QuietUpTo n w w' :=
  ⟨h.quiet, by rw [h.store]; omega⟩

/-- World `v` is world `w` after requests to the remote services: the setup, the store and the
count of ids made are as they were, and so are the provider's answers by message type, while its
scripted answers are what is left of those of `w`. -/
structure AfterRequests (w v : World) : Prop where
  setup : v.setup = w.setup
  store : v.store = w.store
  issued : v.issued = w.issued
  byType : v.providerByType = w.providerByType
  script : ∃ k, v.provider = w.provider.drop k

instance : Std.Refl AfterRequests := ⟨fun _ => ⟨rfl, rfl, rfl, rfl, 0, rfl⟩⟩

instance : IsTrans World AfterRequests := by
  refine ⟨fun _ _ _ h₁ h₂ => ⟨h₂.setup.trans h₁.setup, h₂.store.trans h₁.store,
    h₂.issued.trans h₁.issued, h₂.byType.trans h₁.byType, ?_⟩⟩
  obtain ⟨k, hk⟩ := h₁.script
  obtain ⟨j, hj⟩ := h₂.script
  exact ⟨k + j, by rw [hj, hk, List.drop_drop]⟩

theorem AfterRequests.untouched {w v : World} (h : AfterRequests w v) : Untouched w v :=
  ⟨h.setup, h.store, Nat.le_of_eq h.issued.symm⟩

namespace Op

variable {α β : Type}

theorem Keeps.quietUpTo {x : Op α} (h : Keeps Untouched x) (n : Nat) : Keeps (QuietUpTo n) x :=
  fun w => (h w).quietUpTo n

theorem Keeps.toQuiet {n : Nat} {x : Op α} (h : Keeps (QuietUpTo n) x) : Keeps Quiet x :=
  h.mono fun _ _ hw => hw.quiet

/-- The records of two runs in a row add up. -/
theorem Keeps.bind_upTo {a b : Nat} {x : Op α} {f : α → Op β} (hx : Keeps (QuietUpTo a) x)
    (hf : ∀ v, Keeps (QuietUpTo b) (f v)) : Keeps (QuietUpTo (a + b)) (x >>= f) := by
  intro w
  have h₁ := hx w
  rw [exec_bind]
  rcases hr : exec x w with ⟨_ | v, w'⟩
  · rw [hr] at h₁
    have l₁ : w'.store.messages.length ≤ w.store.messages.length + a := h₁.length
    exact (show QuietUpTo (a + b) w w' from ⟨h₁.quiet, by omega⟩)
  · rw [hr] at h₁
    exact h₁.trans (hf v w')

theorem Keeps.untouched_bind {n : Nat} {x : Op α} {f : α → Op β} (hx : Keeps Untouched x)
    (hf : ∀ v, Keeps (QuietUpTo n) (f v)) : Keeps (QuietUpTo n) (x >>= f) := by
  simpa using Keeps.bind_upTo (hx.quietUpTo 0) hf

end Op


/-! ### Stores that only gain a message -/

/-- Storing a message adds it at the end, its time as the store keeps times. -/
theorem Store.createMessage_ok {s s' : Store} {m : Message} (h : s.createMessage m = .ok s') :
    ∃ t, s' = { s with messages := s.messages ++ [{ m with createdAt := t }] } := by
  unfold Store.createMessage at h
  split at h
  · cases h
    exact ⟨m.createdAt, rfl⟩
  · split at h
    · cases h
    · cases h
      exact ⟨_, rfl⟩

namespace Op

theorem keeps_freshId : Keeps Untouched freshId := fun _ => ⟨rfl, rfl, Nat.le_succ _⟩

/-- Storing a record the bot made is quiet and adds that one record. -/
theorem keeps_createMessage {m : Message} (hm : m.fromCustomer = false ∧ m.isBot = true) :
    Keeps (QuietUpTo 1) (changeStore (·.createMessage m)) := by
  intro w
  rw [exec_changeStore]
  rcases hs : w.store.createMessage m with e | s'
  · exact refl_of (QuietUpTo 1) w
  · obtain ⟨t, rfl⟩ := Store.createMessage_ok hs
    refine ⟨⟨rfl, rfl, rfl, rfl, rfl, Nat.le_refl _, [{ m with createdAt := t }], rfl, ?_⟩,
      by simp⟩
    intro m' hm'
    rw [List.mem_singleton] at hm'
    subst hm'
    exact hm

/-- Recording a message the bot sent is quiet and adds at most that record. -/
theorem keeps_keepMessage (conversationId workspaceId phone kind body : String) (providerId : Value)
    (link fileType status : String) :
    Keeps (QuietUpTo 1) (keepMessage conversationId workspaceId phone kind body providerId link
      fileType false true status) := by
  unfold keepMessage
  refine Keeps.untouched_bind keeps_freshId fun id => ?_
  -- the provider's id is checked by a branch that both continue from
  extract_lets finish
  have hfinish : ∀ messageId, Keeps (QuietUpTo 1) (finish messageId) := fun messageId =>
    Keeps.untouched_bind keeps_now fun _ => (keeps_createMessage ⟨rfl, rfl⟩).bind_pure _
  split
  · exact Keeps.untouched_bind (keeps_pure _) hfinish
  · exact Keeps.untouched_bind (keeps_fail _) hfinish

/-- A record that was kept is the message returned, stored at the end under a fresh id and with
its time as the store keeps times; the provider's id was a text, and became the record's. -/
theorem exec_keepMessage_ok {conversationId workspaceId phone kind body : String}
    {providerId : Value} {link fileType : String} {fromCustomer isBot : Bool} {status : String}
    {w w' : World} {m : Message}
    (h : exec (keepMessage conversationId workspaceId phone kind body providerId link fileType
      fromCustomer isBot status) w = (.ok m, w')) :
    ∃ id messageId createdAt, providerId = .str messageId ∧
      m = { id := id, conversationId, workspaceId, phone, kind, message := body, link, fileType,
            fromCustomer, isBot, messageId, status, createdAt } ∧
      ∃ t, w'.store = { w.store with messages := w.store.messages ++ [{ m with createdAt := t }] } := by
  unfold keepMessage at h
  obtain ⟨id, w₁, hid, h⟩ := exec_bind_ok h
  have hw₁ := keeps_freshId.of_run hid
  -- the provider's id is a text, or the run fails before the record
  split at h
  · rename_i messageId _
    rw [pure_bind, exec_now_bind] at h
    obtain ⟨_, w₂, hstore, hpure⟩ := exec_bind_ok h
    obtain ⟨rfl, rfl⟩ := exec_pure_ok hpure
    rw [exec_changeStore] at hstore
    split at hstore
    · rename_i s hs
      rw [Prod.mk.injEq] at hstore
      obtain ⟨-, rfl⟩ := hstore
      obtain ⟨t, rfl⟩ := Store.createMessage_ok hs
      exact ⟨id, messageId, w₁.clock, rfl, rfl, t, by rw [hw₁.store]⟩
    · simp at hstore
  · rw [exec_bind, exec_fail] at h
    cases h

end Op

/-! ### Requests to the provider, to endpoints and to the generator -/

namespace Channel

open Op

/-- A workspace that can send passes the credentials check. -/
theorem ensureCredentials_of_hasCredentials {ws : Workspace}
    (h : ws.hasCredentials = true) : ensureCredentials ws = .ok () := by
  simp only [Workspace.hasCredentials, Bool.and_eq_true, Bool.not_eq_true'] at h
  simp [ensureCredentials, h.1, h.2]

/-- A workspace that cannot send fails the credentials check with a configuration fault. -/
theorem ensureCredentials_of_not_hasCredentials {ws : Workspace}
    (h : ws.hasCredentials = false) :
    ∃ msg, ensureCredentials ws = .error (.notConfigured msg) := by
  unfold ensureCredentials
  split
  · exact ⟨_, rfl⟩
  · rename_i hphone
    simp only [Workspace.hasCredentials, hphone, Bool.not_false, Bool.true_and,
      Bool.not_eq_false'] at h
    simp [h]

/-- A request takes the next scripted answer, unless one is fixed for its message type. -/
theorem afterRequests_nextAnswer (kind : String) : Keeps AfterRequests (nextAnswer kind) := by
  intro w
  simp only [nextAnswer, exec_bind, exec_get]
  split
  · exact refl_of AfterRequests w
  · split
    · exact refl_of AfterRequests w
    · rename_i hscript
      exact ⟨rfl, rfl, rfl, rfl, 1, by simp [hscript]⟩

theorem afterRequests_post (url auth : String) (payload : Value) (kind : String) :
    Keeps AfterRequests (post url auth payload kind) := by
  unfold post
  refine Keeps.bind (afterRequests_nextAnswer kind) fun answer => ?_
  intro w
  simp only [exec_bind, exec_get, exec_set]
  split <;> simp only [exec_pure, exec_lift] <;> exact ⟨rfl, rfl, rfl, rfl, 0, rfl⟩

theorem afterRequests_postTrying (url auth : String) (payload : Value) (kind : String) (k : Nat) :
    Keeps AfterRequests (postTrying url auth payload kind k) := by
  induction k with
  | zero => exact keeps_fail _
  | succ k ih =>
    unfold postTrying
    refine Keeps.bind (afterRequests_post url auth payload kind) fun answer => ?_
    split
    · exact keeps_pure _
    · split
      · exact ih
      · exact keeps_fail _

theorem afterRequests_deliver (w : Workspace) (recipient : String) (m : Outbound) :
    Keeps AfterRequests (deliver w recipient m) := by
  unfold deliver
  simp only [pure_bind]
  refine Keeps.bind (keeps_lift _) fun _ => Keeps.bind keeps_setup fun setup => ?_
  split
  · refine Keeps.bind (keeps_lift _) fun attempts => ?_
    split
    · split
      · exact keeps_fail_bind _ _
      · split
        · exact keeps_fail_bind _ _
        · exact afterRequests_postTrying _ _ _ _ _
    · exact keeps_fail_bind _ _
  · exact keeps_fail_bind _ _

theorem afterRequests_sendText (w : Workspace) (recipient body : String) :
    Keeps AfterRequests (sendText w recipient body) := afterRequests_deliver _ _ _

theorem afterRequests_sendTemplate (w : Workspace) (recipient name language : String) :
    Keeps AfterRequests (sendTemplate w recipient name language) :=
  Keeps.bind keeps_setup fun _ => afterRequests_deliver _ _ _

theorem keeps_nextAnswer (kind : String) : Keeps Untouched (nextAnswer kind) :=
  (afterRequests_nextAnswer kind).mono fun _ _ h => h.untouched

theorem keeps_post (url auth : String) (payload : Value) (kind : String) :
    Keeps Untouched (post url auth payload kind) :=
  (afterRequests_post url auth payload kind).mono fun _ _ h => h.untouched

theorem keeps_postTrying (url auth : String) (payload : Value) (kind : String) (k : Nat) :
    Keeps Untouched (postTrying url auth payload kind k) :=
  (afterRequests_postTrying url auth payload kind k).mono fun _ _ h => h.untouched

theorem keeps_deliver (w : Workspace) (recipient : String) (m : Outbound) :
    Keeps Untouched (deliver w recipient m) :=
  (afterRequests_deliver w recipient m).mono fun _ _ h => h.untouched

theorem keeps_sendText (w : Workspace) (recipient body : String) :
    Keeps Untouched (sendText w recipient body) := keeps_deliver _ _ _

theorem keeps_sendTemplate (w : Workspace) (recipient name language : String) :
    Keeps Untouched (sendTemplate w recipient name language) :=
  Keeps.bind keeps_setup fun _ => keeps_deliver _ _ _

theorem keeps_sendChoices (w : Workspace) (recipient body : String) (options : List Choice) :
    Keeps Untouched (sendChoices w recipient body options) := keeps_deliver _ _ _

theorem keeps_sendMedia (w : Workspace) (recipient fileType link caption : String) :
    Keeps Untouched (sendMedia w recipient fileType link caption) :=
  Keeps.bind keeps_setup fun _ => Keeps.bind (keeps_lift _) fun _ => keeps_deliver _ _ _

theorem keeps_sendLocation (w : Workspace) (recipient : String) (place : Flow.Location) :
    Keeps Untouched (sendLocation w recipient place) := keeps_deliver _ _ _

theorem keeps_sendCta (w : Workspace) (recipient body : String) (button : Flow.CallToAction) :
    Keeps Untouched (sendCta w recipient body button) := keeps_deliver _ _ _

/-- Catching a provider failure keeps what the send keeps. -/
theorem Keeps.attempt {R : World → World → Prop} [Std.Refl R] [IsTrans World R] {α : Type}
    {x : Op α} (hx : Keeps R x) : Keeps R (attempt x) := by
  refine Keeps.tryCatch (Keeps.map _ hx) fun f => ?_
  split
  · exact keeps_pure _
  · exact keeps_throw _

end Channel

namespace Flow

open Op

theorem keeps_nextApiAnswer : Keeps Untouched nextApiAnswer := by
  intro w
  simp only [nextApiAnswer, exec_bind, exec_get]
  split
  · exact refl_of Untouched w
  · exact ⟨rfl, rfl, Nat.le_refl _⟩

theorem keeps_request (record : Value) (k : Nat) : Keeps Untouched (request record k) := by
  induction k with
  | zero => exact keeps_pure _
  | succ k ih =>
    unfold request
    refine Keeps.bind (fun w => ⟨rfl, rfl, Nat.le_refl _⟩) fun _ =>
      Keeps.bind keeps_nextApiAnswer fun answer => ?_
    split
    · split
      · exact ih
      · exact keeps_pure _
    · exact keeps_pure _

theorem keeps_apiRun (api : ApiCall) (vars : Value) : Keeps Untouched (api.run vars) := by
  unfold ApiCall.run
  extract_lets vars method url headers payload bodyText withUrl
  clear_value vars method url headers payload bodyText
  have hUrl : ∀ u, Keeps Untouched (withUrl u) := by
    intro u
    dsimp -zeta only [withUrl]
    refine Keeps.bind ?_ fun _ => ?_
    · -- every header name and value is checked before the body
      apply Keeps.forIn
      rintro ⟨k, v⟩ _
      extract_lets checkValue
      have hValue : ∀ r, Keeps Untouched (checkValue r) := by
        intro r
        simp only [checkValue]
        split
        · exact keeps_fail_bind _ _
        · exact keeps_pure _
      split
      · exact keeps_fail_bind _ _
      · exact hValue ()
    · extract_lets send check
      have hSend : ∀ r, Keeps Untouched (send r) := fun _ =>
        Keeps.bind (keeps_request _ _) fun _ => by split <;> exact keeps_pure _
      have hCheck : ∀ r, Keeps Untouched (check r) := by
        intro r
        simp only [check]
        split
        · exact keeps_fail_bind _ _
        · exact hSend ()
      split
      · split
        · exact keeps_fail_bind _ _
        · exact hCheck ()
      · exact hCheck ()
  split
  · exact keeps_pure _
  · split
    · exact Keeps.bind (keeps_pure _) hUrl
    · exact keeps_fail_bind _ _

/-- Sending one message of a node and recording it is quiet. -/
theorem keeps_deliver (node : Node) (conv : Conversation) (ws : Workspace) (kind text : String)
    {send : Op Value} (hsend : Keeps Untouched send) (link fileType : String) :
    Keeps Quiet (deliver node conv ws kind text send link fileType) := by
  unfold deliver
  refine Keeps.bind (Channel.Keeps.attempt hsend).quiet fun r => ?_
  extract_lets record
  have hRecord : ∀ x, Keeps Quiet (record x) := by
    rintro ⟨receipt, error⟩
    exact Keeps.bind (keeps_keepMessage _ _ _ _ _ _ _ _ _).toQuiet fun _ => keeps_pure _
  split <;> exact Keeps.bind (keeps_pure _) hRecord

/-- Sending a node is quiet: its sends and its API call only add bot messages. -/
theorem keeps_emit (node : Node) (conv : Conversation) (ws : Workspace) (context : Value) :
    Keeps Quiet (emit node conv ws context) := by
  unfold emit
  extract_lets phone body out consumed interactive vars finish withApi withLocation withText
    withCta name options text unconsumed
  have hFinish : ∀ r o c, Keeps Quiet (finish r o c) := fun _ _ _ => keeps_pure _
  have hApi : ∀ r o, Keeps Quiet (withApi r o) := by
    intro r o
    simp only [withApi]
    split
    · exact Keeps.bind (keeps_apiRun _ _).quiet fun _ => hFinish () _ _
    · exact hFinish () _ _
  have hLocation : ∀ r o, Keeps Quiet (withLocation r o) := by
    intro r o
    simp only [withLocation]
    split
    · exact Keeps.bind (keeps_deliver _ _ _ _ _ (keeps_sendLocation _ _ _) _ _) fun _ => hApi () _
    · exact hApi () _
  have hText : ∀ r o c, Keeps Quiet (withText r o c) := by
    intro r o c
    simp only [withText]
    split
    · exact Keeps.bind (keeps_deliver _ _ _ _ _ (keeps_sendText _ _ _) _ _) fun _ => hLocation () _
    · exact hLocation () _
  have hCta : ∀ r o c, Keeps Quiet (withCta r o c) := by
    intro r o c
    simp only [withCta]
    split
    · exact Keeps.bind (keeps_deliver _ _ _ _ _ (keeps_sendCta _ _ _ _) _ _) fun _ => hText () _ _
    · exact hText () _ _
  -- the first send: a template, options, a numbered menu, media, or nothing
  split
  · exact Keeps.bind (keeps_deliver _ _ _ _ _ (keeps_sendTemplate _ _ _ _) _ _) fun _ => hCta () _ _
  · split
    · exact Keeps.bind (keeps_deliver _ _ _ _ _ (keeps_sendChoices _ _ _ _) _ _) fun _ => hCta () _ _
    · split
      · exact Keeps.bind (keeps_deliver _ _ _ _ _ (keeps_sendText _ _ _) _ _) fun _ => hCta () _ _
      · split
        · exact Keeps.bind (keeps_deliver _ _ _ _ _ (keeps_sendMedia _ _ _ _ _) _ _) fun _ =>
            hCta () _ _
        · exact hCta () _ _

end Flow

/-! ### Generated text, rules and settings -/

open Op

theorem afterRequests_callScript (prompt : String) : Keeps AfterRequests (callScript prompt) := by
  intro w
  simp only [callScript, exec_bind, exec_get, exec_set]
  split <;> exact ⟨rfl, rfl, rfl, rfl, 0, rfl⟩

theorem afterRequests_callModel (cfg : Config.Section) (prompt : String) :
    Keeps AfterRequests (callModel cfg prompt) := by
  unfold callModel
  extract_lets openAi key user record
  split
  · exact keeps_pure _
  · split
    · exact keeps_pure _
    · -- the one request: its answer is taken from the script and the request logged
      intro w
      simp only [exec_bind, exec_get, exec_set]
      refine Keeps.after ⟨rfl, rfl, rfl, rfl, 0, rfl⟩ ?_
      split
      · split <;> exact keeps_pure _
      · exact keeps_pure _
      · exact keeps_pure _
      · split <;> exact keeps_pure _

/-- Generating text makes requests only: to the scripted generator or to the model endpoint. -/
theorem afterRequests_generate (prompt : String) : Keeps AfterRequests (generate prompt) := by
  unfold generate
  split
  · exact keeps_pure _
  · refine Keeps.bind keeps_get fun w => ?_
    extract_lets finish
    have hFinish : ∀ reply, Keeps AfterRequests (finish reply) := by
      intro reply
      simp only [finish]
      split
      · exact keeps_pure _
      · refine Keeps.bind (keeps_lift _) fun text => ?_
        split <;> exact keeps_pure _
    split
    · exact Keeps.bind (afterRequests_callScript _) hFinish
    · exact Keeps.bind (afterRequests_callModel _ _) hFinish

theorem keeps_generate (prompt : String) : Keeps Untouched (generate prompt) :=
  (afterRequests_generate prompt).mono fun _ _ h => h.untouched

namespace Dispatch

theorem keeps_sendText (rule : Rule) (phone : String) (conv : Conversation) (ws : Workspace)
    (body : String) (status : DispatchStatus) (error : String) :
    Keeps (QuietUpTo 1) (sendText rule phone conv ws body status error) := by
  unfold sendText
  refine Keeps.untouched_bind (Channel.Keeps.attempt (Channel.keeps_sendText _ _ _)) fun r => ?_
  split
  · exact keeps_pure _
  · exact (keeps_keepMessage _ _ _ _ _ _ _ _ _).bind_pure _

theorem keeps_materialContent (workspaceId materialId : String) :
    Keeps Untouched (materialContent workspaceId materialId) :=
  Keeps.bind keeps_store fun _ => by split <;> exact keeps_pure _

theorem keeps_viaText (rule : Rule) (phone : String) (conv : Conversation) (ws : Workspace) :
    Keeps (QuietUpTo 1) (viaText rule phone conv ws) := by
  unfold viaText
  extract_lets body send
  have hSend : ∀ r b, Keeps (QuietUpTo 1) (send r b) := by
    intro r b
    simp only [send]
    split
    · exact keeps_pure _
    · exact keeps_sendText _ _ _ _ _ _ _
  -- the prompt, else the canned response it names
  split
  · split
    · split
      · exact Keeps.untouched_bind (keeps_materialContent _ _) (hSend ())
      · exact hSend () _
    · exact hSend () _
  · exact hSend () _

theorem keeps_viaAi (rule : Rule) (phone : String) (conv : Conversation) (ws : Workspace) :
    Keeps (QuietUpTo 1) (viaAi rule phone conv ws) := by
  unfold viaAi
  extract_lets prompt
  split
  · exact keeps_pure _
  · refine Keeps.untouched_bind (keeps_generate _) fun text => ?_
    split
    · exact keeps_sendText _ _ _ _ _ _ _
    · refine Keeps.untouched_bind (Channel.Keeps.attempt (Channel.keeps_sendText _ _ _)) fun r => ?_
      split
      · exact keeps_sendText _ _ _ _ _ _ _
      · exact (keeps_keepMessage _ _ _ _ _ _ _ _ _).bind_pure _

theorem keeps_viaTemplate (rule : Rule) (phone : String) (conv : Conversation) (ws : Workspace) :
    Keeps (QuietUpTo 1) (viaTemplate rule phone conv ws) := by
  unfold viaTemplate
  extract_lets fallback name
  split
  · split
    · exact keeps_pure _
    · exact keeps_sendText _ _ _ _ _ _ _
  · refine Keeps.untouched_bind keeps_setup fun setup => ?_
    extract_lets lang
    refine Keeps.untouched_bind (Channel.Keeps.attempt (Channel.keeps_sendTemplate _ _ _ _))
      fun r => ?_
    split
    · split
      · exact keeps_pure _
      · exact keeps_sendText _ _ _ _ _ _ _
    · exact (keeps_keepMessage _ _ _ _ _ _ _ _ _).bind_pure _

end Dispatch

/-- Carrying out a rule is quiet: it sends at most its reply and records it as the bot's. -/
theorem keeps_dispatch (rule : Rule) (phone : String) (conv : Conversation) (ws : Workspace) :
    Keeps (QuietUpTo 1) (dispatch rule phone conv ws) := by
  unfold dispatch
  split
  · exact keeps_pure _
  · refine Keeps.untouched_bind (keeps_lift _) fun _ => ?_
    split
    · exact Dispatch.keeps_viaAi _ _ _ _
    · exact Dispatch.keeps_viaTemplate _ _ _ _
    · exact Dispatch.keeps_viaText _ _ _ _

/-- Two stores of the same kind with the same chatbots, conversations, phone index and
messages. -/
structure Store.SameRecords (s s' : Store) : Prop where
  backend : s'.backend = s.backend
  chatbots : s'.chatbots = s.chatbots
  conversations : s'.conversations = s.conversations
  phoneIndex : s'.phoneIndex = s.phoneIndex
  messages : s'.messages = s.messages

theorem QuietUpTo.of_sameRecords {w : World} {s : Store} (h : w.store.SameRecords s) :
    QuietUpTo 0 w { w with store := s } := by
  refine ⟨⟨rfl, h.backend, h.chatbots, h.conversations, h.phoneIndex, Nat.le_refl _, [],
    by simpa using h.messages, ?_⟩, ?_⟩
  · simp [BotRecords]
  · simp [h.messages]

namespace Rule

theorem keeps_loadSettings (workspaceId : String) : Keeps Untouched (loadSettings workspaceId) := by
  refine Keeps.bind keeps_store fun st => ?_
  split
  · exact keeps_pure _
  · exact keeps_pure _
  · split
    · exact keeps_pure _
    · exact keeps_fail _
    · exact keeps_fail _

theorem keeps_saveSettings (workspaceId : String) (doc : Value) :
    Keeps (QuietUpTo 0) (saveSettings workspaceId doc) := by
  refine Keeps.bind (keeps_lift _) fun settings => ?_
  intro w
  simp only [exec_bind, exec_store, exec_setStore, exec_pure]
  apply QuietUpTo.of_sameRecords
  unfold Store.saveSettings
  dsimp only
  split
  · split
    · exact ⟨rfl, rfl, rfl, rfl, rfl⟩
    · exact ⟨rfl, rfl, rfl, rfl, rfl⟩
  · exact ⟨rfl, rfl, rfl, rfl, rfl⟩

theorem keeps_defaultMaterialsOf (workspaceId : String) :
    Keeps (QuietUpTo 0) (defaultMaterialsOf workspaceId) := by
  refine Keeps.bind keeps_store fun st => ?_
  apply Keeps.mapM
  rintro ⟨name, kind, content⟩
  dsimp only
  split
  · exact keeps_pure _
  · refine Keeps.bind (keeps_freshId.quietUpTo 0) fun id => ?_
    intro w
    simp only [exec_bind, exec_store, exec_setStore, exec_pure]
    apply QuietUpTo.of_sameRecords
    unfold Store.putMaterial
    split <;> exact ⟨rfl, rfl, rfl, rfl, rfl⟩

/-- Reading the settings, made from the defaults on first use, is quiet and records nothing. -/
theorem keeps_settingsOrDefaults (workspaceId : String) :
    Keeps (QuietUpTo 0) (settingsOrDefaults workspaceId) := by
  refine Keeps.bind ((keeps_loadSettings _).quietUpTo 0) fun loaded => ?_
  split
  · exact keeps_pure _
  · refine Keeps.bind (keeps_defaultMaterialsOf _) fun materials => ?_
    exact keeps_saveSettings _ _

end Rule

end Autoresponder
