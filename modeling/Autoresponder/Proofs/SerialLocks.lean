import Autoresponder.Serial

/-!
# One handler at a time for each customer

Over every order in which the event loop may run the handlers, cancel them or let them fail
(`run`), the processor's tables and locks keep one invariant (`Inv`): the count of a key is
the number of its handlers that have entered and not yet left, a key is in either table just
when that number is positive, every such handler uses the lock the table gives the key, and
each lock is held by as many handlers as its flag says, with only its first queued future
ever woken, and then only while it is not held. From it: at most one handler of a key is inside
the locked body, the key's lock does not change while the key stays in use, and with no
handler in use both tables are empty (`serialised_per_key`).
-/

namespace Autoresponder.Serial

/-! ### A lock and the handlers holding it -/

namespace Lock

/-- Lock `lk` agrees with the `n` handlers holding it: it is held just when one does, no
queued future after the first is woken, and a woken first future means it is not held. -/
structure Sound (lk : Lock) (n : Nat) : Prop where
  holders : n = if lk.held then 1 else 0
  tail : ∀ e ∈ lk.waiters.tail, e.2 ≠ .woken
  head : ∀ t, lk.waiters.head? = some (t, .woken) → lk.held = false

variable {lk : Lock} {n : Nat} {t : Nat}

theorem sound_new : Sound {} 0 := ⟨rfl, fun _ h => (nomatch h), fun _ _ => rfl⟩

theorem Sound.le_one (h : Sound lk n) : n ≤ 1 := by
  rw [h.holders]
  split <;> decide

theorem Sound.eq_zero_of_free (h : Sound lk n) (hf : lk.free = true) : n = 0 := by
  simp only [free, Bool.and_eq_true, Bool.not_eq_true'] at hf
  rw [h.holders, hf.1]
  rfl

/-- A free lock taken at once: no queued future is live, so none is woken. -/
theorem Sound.take (h : Sound lk n) (hf : lk.free = true) : Sound { lk with held := true } (n + 1) := by
  have hn := h.eq_zero_of_free hf
  simp only [free, Bool.and_eq_true, List.all_eq_true, beq_iff_eq] at hf
  refine ⟨by simp [hn], h.tail, fun u hu => ?_⟩
  have hc := hf.2 _ (List.mem_of_mem_head? hu)
  simp at hc

theorem Sound.enqueue (h : Sound lk n) : Sound (lk.enqueue t) n := by
  refine ⟨h.holders, fun e he => ?_, fun u hu => ?_⟩
  · cases hw : lk.waiters with
    | nil => simp [Lock.enqueue, hw] at he
    | cons x xs =>
      simp only [Lock.enqueue, hw, List.cons_append, List.tail_cons, List.mem_append,
        List.mem_singleton] at he
      rcases he with he | rfl
      · exact h.tail e (by simpa [hw] using he)
      · simp
  · cases hw : lk.waiters with
    | nil => simp [Lock.enqueue, hw] at hu
    | cons x xs => exact h.head u (by simpa [Lock.enqueue, hw] using hu)

/-- A queued task's woken future is the first in the queue. -/
theorem Sound.head_of_woken (h : Sound lk n) (hw : lk.future? t = some .woken) :
    lk.waiters.head? = some (t, .woken) := by
  obtain ⟨l₁, l₂, hl, -⟩ := List.lookup_eq_some_iff.mp hw
  cases l₁ with
  | nil => simp [hl]
  | cons x xs =>
    have hnot := h.tail (t, .woken) (by simp [hl])
    exact absurd rfl hnot

theorem Sound.cancel (h : Sound lk n) : Sound (lk.cancel t) n := by
  -- cancelling turns pending futures into cancelled ones, so a woken future was woken before
  have hkeep : ∀ e : Nat × Wake,
      (if e.1 = t ∧ e.2 = .pending then (e.1, .cancelled) else e).2 = .woken →
        (if e.1 = t ∧ e.2 = .pending then (e.1, .cancelled) else e) = e := by
    intro e he
    split at he
    · simp at he
    · simp_all
  refine ⟨h.holders, fun e he => ?_, fun u hu => ?_⟩
  · simp only [Lock.cancel, ← List.map_tail, List.mem_map] at he
    obtain ⟨a, ha, rfl⟩ := he
    intro hw
    rw [hkeep a hw] at hw
    exact h.tail a ha hw
  · simp only [Lock.cancel, List.head?_map, Option.map_eq_some_iff] at hu
    obtain ⟨a, ha, hfa⟩ := hu
    have hw : (if a.1 = t ∧ a.2 = .pending then (a.1, .cancelled) else a).2 = .woken := by
      rw [hfa]
    rw [hkeep a hw] at hfa
    exact h.head u (hfa ▸ ha)

theorem Sound.dequeue (h : Sound lk n) : Sound (lk.dequeue t) n := by
  cases hw : lk.waiters with
  | nil =>
    refine ⟨h.holders, fun e he => ?_, fun u hu => ?_⟩
    · simp [Lock.dequeue, hw] at he
    · simp [Lock.dequeue, hw] at hu
  | cons x xs =>
    have htail : ∀ e ∈ xs, e.2 ≠ .woken := fun e he => h.tail e (by simp [hw, he])
    cases hx : x.1 == t with
    | true =>
      -- the first future goes and the rest move up: none of them is woken
      refine ⟨h.holders, fun e he => ?_, fun u hu => ?_⟩
      · simp only [Lock.dequeue, hw, List.eraseP_cons, hx, cond_true] at he
        exact htail e (List.mem_of_mem_tail he)
      · simp only [Lock.dequeue, hw, List.eraseP_cons, hx, cond_true] at hu
        exact absurd rfl (htail _ (List.mem_of_mem_head? hu))
    | false =>
      refine ⟨h.holders, fun e he => ?_, fun u hu => ?_⟩
      · simp only [Lock.dequeue, hw, List.eraseP_cons, hx, cond_false, List.tail_cons] at he
        exact htail e (List.mem_of_mem_eraseP he)
      · simp only [Lock.dequeue, hw, List.eraseP_cons, hx, cond_false, List.head?_cons] at hu
        exact h.head u (by simpa [hw] using hu)

/-- Waking the first future of a lock that is not held keeps it sound. -/
theorem Sound.wakeFirst (h : Sound lk n) (hfree : lk.held = false) : Sound lk.wakeFirst n := by
  unfold Lock.wakeFirst
  split
  · rename_i u rest hw
    refine ⟨h.holders, fun e he => ?_, fun _ _ => hfree⟩
    exact h.tail e (by simpa [hw] using he)
  · exact h

theorem Sound.wakeIfFree (h : Sound lk n) : Sound lk.wakeIfFree n := by
  unfold Lock.wakeIfFree
  split
  · exact h
  · exact h.wakeFirst (by simpa using ‹¬lk.held = true›)

/-- A release by the one holder leaves the lock with none. -/
theorem Sound.release (h : Sound lk (n + 1)) : Sound lk.release n := by
  have hheld : lk.held = true ∧ n = 0 := by
    have hn := h.holders
    split at hn
    · exact ⟨‹_›, by omega⟩
    · omega
  have hfree : Sound { lk with held := false } n :=
    ⟨by simp [hheld.2], h.tail, fun _ _ => rfl⟩
  exact hfree.wakeFirst rfl

/-- The task whose future was woken takes the lock, which no one held. -/
theorem Sound.resume (h : Sound lk n) (hw : lk.future? t = some .woken) :
    Sound { lk.dequeue t with held := true } (n + 1) := by
  have hhead := h.head_of_woken hw
  have hn : n = 0 := by rw [h.holders, h.head t hhead]; rfl
  cases hq : lk.waiters with
  | nil => simp [hq] at hhead
  | cons x xs =>
    simp only [hq, List.head?_cons, Option.some.injEq] at hhead
    have htail : ∀ e ∈ xs, e.2 ≠ .woken := fun e he => h.tail e (by simp [hq, he])
    have hdeq : (lk.dequeue t).waiters = xs := by simp [Lock.dequeue, hq, hhead]
    refine ⟨by simp [hn], fun e he => ?_, fun u hu => ?_⟩
    · rw [hdeq] at he
      exact htail e (List.mem_of_mem_tail he)
    · rw [hdeq] at hu
      exact absurd rfl (htail _ (List.mem_of_mem_head? hu))

end Lock

/-! ### What the events do to the handlers and the tables -/

namespace State

variable {s : State} {t l : Nat} {k : String} {h : Handler}

/-- Changing handler `t` changes a count over the handlers by what it counted before and after. -/
theorem countP_setHandler (hs : s.handlers[t]? = some h) (h' : Handler) (p : Handler → Bool) :
    (s.setHandler t h').handlers.countP p =
      s.handlers.countP p - (if p h then 1 else 0) + (if p h' then 1 else 0) := by
  obtain ⟨ht, hget⟩ := List.getElem?_eq_some_iff.mp hs
  simp only [setHandler]
  rw [List.countP_set ht, hget]

theorem countP_setHandler_of_eq (hs : s.handlers[t]? = some h) {h' : Handler}
    {p : Handler → Bool} (hp : p h' = p h) :
    (s.setHandler t h').handlers.countP p = s.handlers.countP p := by
  obtain ⟨ht, hget⟩ := List.getElem?_eq_some_iff.mp hs
  have hle := List.boole_getElem_le_countP (p := p) ht
  rw [countP_setHandler hs, hp]
  rw [hget] at hle
  omega

theorem mem_setHandler {x h' : Handler} (hx : x ∈ (s.setHandler t h').handlers) :
    x ∈ s.handlers ∨ x = h' :=
  List.mem_or_eq_of_mem_set hx

/-- Entering puts a lock for its key where there was none, and changes no other. -/
theorem enter_locks (t : Nat) (k₀ k : String) :
    (s.enter t k₀).locks k = s.locks k ∨ s.locks k = none := by
  have hl : (s.enter t k₀).locks k = (s.withLock k₀).locks k := by
    unfold enter
    dsimp only
    split <;> rfl
  rw [hl]
  unfold withLock
  split
  · exact .inl rfl
  · rename_i hnone
    simp only [put_apply]
    split
    · subst k
      exact .inr hnone
    · exact .inl rfl

/-- Counting off a key leaves a lock or drops it. -/
theorem countOff_locks_or (k₀ k : String) :
    (s.countOff k₀).locks k = s.locks k ∨ (s.countOff k₀).locks k = none := by
  rw [countOff_locks]
  split <;> simp

end State

/-! ### What one event can do -/

/-- What one event can do to the state: `step` does one of these, with the handler where the
event needs it. -/
inductive Turn (s : State) : State → Prop
  | enter {t : Nat} {k : String} : s.handlers[t]? = some ⟨k, .ready⟩ → Turn s (s.enter t k)
  | cancel {t l : Nat} {k : String} : s.handlers[t]? = some ⟨k, .queued l⟩ →
      (s.pool l).future? t = some .pending → Turn s (s.setLock l ((s.pool l).cancel t))
  | resume {t l : Nat} {k : String} : s.handlers[t]? = some ⟨k, .queued l⟩ →
      (s.pool l).future? t = some .woken →
      Turn s ((s.setLock l { (s.pool l).dequeue t with held := true }).setHandler t
        ⟨k, .holding l⟩)
  | abandon {t l : Nat} {k : String} : s.handlers[t]? = some ⟨k, .queued l⟩ →
      (s.pool l).future? t = some .cancelled ∨ (s.pool l).future? t = some .woken →
      Turn s
        (((s.setLock l ((s.pool l).dequeue t).wakeIfFree).setHandler t ⟨k, .done⟩).countOff k)
  | leave {t l : Nat} {k : String} : s.handlers[t]? = some ⟨k, .holding l⟩ →
      Turn s (((s.setLock l (s.pool l).release).setHandler t ⟨k, .done⟩).countOff k)

theorem Turn.of_step {s s' : State} {e : Event} (h : step s e = some s') : Turn s s' := by
  cases e with
  | enter t =>
    simp only [step] at h
    split at h
    · cases h
      exact .enter ‹_›
    · cases h
  | cancel t =>
    simp only [step] at h
    split at h
    · split at h
      · cases h
        exact .cancel ‹_› ‹_›
      · cases h
    · cases h
  | resume t =>
    simp only [step] at h
    split at h
    · split at h
      · cases h
        exact .resume ‹_› ‹_›
      · cases h
    · cases h
  | abandon t =>
    simp only [step] at h
    split at h
    · split at h
      · cases h
        exact .abandon ‹_› (.inl ‹_›)
      · cases h
        exact .abandon ‹_› (.inr ‹_›)
      · cases h
    · cases h
  | leave t =>
    simp only [step] at h
    split at h
    · cases h
      exact .leave ‹_›
    · cases h

/-! ### The invariant -/

open State in
/-- The tables and the locks agree with the handlers. -/
structure Inv (s : State) : Prop where
  /-- A key's count is the number of its handlers in use, present just when positive. -/
  users : ∀ k, s.users k = if s.active k = 0 then none else some (s.active k)
  /-- A key has a lock in the table just when it is in use. -/
  locks : ∀ k, s.locks k = none ↔ s.active k = 0
  /-- A handler in use uses the lock the table gives its key. -/
  same : ∀ h ∈ s.handlers, ∀ l, h.phase.lock? = some l → s.locks h.key = some l
  /-- The table's locks have all been made. -/
  below : ∀ k l, s.locks k = some l → l < s.fresh
  /-- Each lock agrees with the handlers holding it. -/
  sound : ∀ l, (s.pool l).Sound (s.holders l)

theorem inv_init (keys : List String) : Inv (State.init keys) := by
  have hidle : ∀ h ∈ (State.init keys).handlers, h.phase = .ready := by
    simp [State.init]
  have hunused : ∀ k, (State.init keys).active k = 0 := fun k =>
    List.countP_eq_zero.mpr fun h hh => by simp [hidle h hh, Phase.live, Phase.lock?]
  refine ⟨fun k => ?_, fun k => ?_, fun h hh l hl => ?_, fun k l hl => ?_, fun l => ?_⟩
  · rw [hunused k]
    rfl
  · rw [hunused k]
    exact iff_of_true rfl rfl
  · simp [hidle h hh, Phase.lock?] at hl
  · simp [State.init] at hl
  · have : (State.init keys).holders l = 0 :=
      List.countP_eq_zero.mpr fun h hh => by simp [hidle h hh]
    rw [this]
    exact Lock.sound_new

namespace State

variable {s : State} {t l : Nat} {k : String} {p : Phase}

/-- Moving handler `t` changes the holders of a lock by what it held before and after. -/
theorem holders_setHandler (hs : s.handlers[t]? = some ⟨k, p⟩) (p' : Phase) (l : Nat) :
    (s.setHandler t ⟨k, p'⟩).holders l =
      s.holders l - (if p = .holding l then 1 else 0) + (if p' = .holding l then 1 else 0) := by
  simp [holders, countP_setHandler hs]

/-- A handler that stays in use, or stays out of it, leaves every key's count as it was. -/
theorem active_setHandler_of_live (hs : s.handlers[t]? = some ⟨k, p⟩) {p' : Phase}
    (hp : p'.live = p.live) (k' : String) : (s.setHandler t ⟨k, p'⟩).active k' = s.active k' :=
  countP_setHandler_of_eq hs (by simp [hp])

/-- A handler that leaves takes one off its key's count. -/
theorem active_setHandler_done (hs : s.handlers[t]? = some ⟨k, p⟩) (hp : p.live = true)
    (k' : String) :
    (s.setHandler t ⟨k, .done⟩).active k' = s.active k' - (if k = k' then 1 else 0) := by
  simp [active, countP_setHandler hs, hp]

/-- A handler that enters adds one to its key's count. -/
theorem active_setHandler_enter (hs : s.handlers[t]? = some ⟨k, .ready⟩) {p' : Phase}
    (hp : p'.live = true) (k' : String) :
    (s.setHandler t ⟨k, p'⟩).active k' = s.active k' + (if k = k' then 1 else 0) := by
  simp [active, countP_setHandler hs, hp]

theorem active_pos_of_mem {h : Handler} (hh : h ∈ s.handlers) (hp : h.phase.live = true) :
    0 < s.active h.key :=
  List.countP_pos_iff.mpr ⟨h, hh, by simp [hp]⟩

/-- Moving handler `t` between phases that use no lock but `l`, with lock `l` set to one that
agrees with its holders after and the other locks agreeing with theirs before: every lock
agrees with its holders after. -/
theorem sound_setHandler (hs : s.handlers[t]? = some ⟨k, p⟩) (p' : Phase)
    (hp : ∀ l', p.lock? = some l' → l' = l) (hp' : ∀ l', p'.lock? = some l' → l' = l)
    {pool : Nat → Lock} (hother : ∀ l', l' ≠ l → (pool l').Sound (s.holders l'))
    (hl : (pool l).Sound ((s.setHandler t ⟨k, p'⟩).holders l)) (l' : Nat) :
    (pool l').Sound ((s.setHandler t ⟨k, p'⟩).holders l') := by
  by_cases hl' : l' = l
  · subst hl'
    exact hl
  · -- neither phase holds `l'`, so its holders are as they were
    have hnot : ∀ q : Phase, (∀ l'', q.lock? = some l'' → l'' = l) → q ≠ .holding l' :=
      fun q hq hq' => hl' (hq l' (by simp [hq', Phase.lock?]))
    rw [holders_setHandler hs]
    simpa [hnot p hp, hnot p' hp'] using hother l' hl'

end State

namespace Inv

variable {s : State} {t l : Nat} {k : String} {p : Phase}

theorem users_getD (hi : Inv s) (k : String) : (s.users k).getD 0 = s.active k := by
  rw [hi.users k]
  split <;> simp_all

/-- No handler holds the next new lock. -/
theorem holders_fresh (hi : Inv s) : s.holders s.fresh = 0 :=
  List.countP_eq_zero.mpr fun h hh hp => by
    have hl : h.phase.lock? = some s.fresh := by
      simp only [beq_iff_eq] at hp
      simp [hp, Phase.lock?]
    exact Nat.lt_irrefl _ (hi.below _ _ (hi.same h hh _ hl))

/-- Setting a lock to one that agrees with its holders keeps the invariant. -/
theorem setLock (hi : Inv s) {lk : Lock} (hlk : lk.Sound (s.holders l)) : Inv (s.setLock l lk) := by
  refine ⟨hi.users, hi.locks, hi.same, hi.below, fun l' => ?_⟩
  simp only [State.setLock_pool, put_apply]
  split
  · subst l'
    exact hlk
  · exact hi.sound l'

theorem cancel (hi : Inv s) : Inv (s.setLock l ((s.pool l).cancel t)) :=
  hi.setLock (hi.sound l).cancel

/-- The handler whose future was woken holds its lock. -/
theorem resume (hi : Inv s) (hs : s.handlers[t]? = some ⟨k, .queued l⟩)
    (hw : (s.pool l).future? t = some .woken) :
    Inv ((s.setLock l { (s.pool l).dequeue t with held := true }).setHandler t ⟨k, .holding l⟩) := by
  have hs' : (s.setLock l { (s.pool l).dequeue t with held := true }).handlers[t]? =
      some ⟨k, .queued l⟩ := hs
  have hactive := State.active_setHandler_of_live hs'
    (show (Phase.holding l).live = (Phase.queued l).live from rfl)
  have hold : s.locks k = some l := hi.same _ (List.mem_of_getElem? hs) l rfl
  refine ⟨fun k' => ?_, fun k' => ?_, fun x hx l' hl' => ?_, hi.below, fun l' => ?_⟩
  · simpa [hactive] using hi.users k'
  · simpa [hactive] using hi.locks k'
  · rcases State.mem_setHandler hx with hx | rfl
    · exact hi.same x hx l' hl'
    · simp only [Phase.lock?, Option.some.injEq] at hl'
      subst hl'
      exact hold
  · exact State.sound_setHandler hs' (.holding l) (fun _ h => (Option.some.inj h).symm)
      (fun _ h => (Option.some.inj h).symm) (fun l' hne => by simpa [hne] using hi.sound l')
      (by simpa [State.holders_setHandler hs'] using (hi.sound l).resume hw) l'

/-- A handler in use leaves, its lock set to one that agrees with the holders left: once its
key is counted off, the invariant holds again. -/
theorem exit (hi : Inv s) (hs : s.handlers[t]? = some ⟨k, p⟩) (hl : p.lock? = some l)
    {lk : Lock} (hlk : lk.Sound (s.holders l - (if p = .holding l then 1 else 0))) :
    Inv (((s.setLock l lk).setHandler t ⟨k, .done⟩).countOff k) := by
  have hs' : (s.setLock l lk).handlers[t]? = some ⟨k, p⟩ := hs
  have hlive : p.live = true := by simp [Phase.live, hl]
  have hpos : 0 < s.active k := State.active_pos_of_mem (List.mem_of_getElem? hs) hlive
  have hactive : ∀ k', ((s.setLock l lk).setHandler t ⟨k, .done⟩).active k' =
      s.active k' - (if k = k' then 1 else 0) := fun k' => by
    rw [State.active_setHandler_done hs' hlive, State.active_setLock]
  have hcount := hi.users_getD k
  refine ⟨fun k' => ?_, fun k' => ?_, fun x hx l' hl' => ?_, fun k' l' hk => ?_, fun l' => ?_⟩
  · -- the count of the key goes down by one, and goes with the last user
    rw [State.countOff_users, State.active_countOff, hactive, State.setHandler_users,
      State.setLock_users, hcount]
    by_cases hk : k' = k
    · subst hk
      simp
    · simp [hk, Ne.symm hk, hi.users k']
  · rw [State.countOff_locks, State.active_countOff, hactive, State.setHandler_users,
      State.setLock_users, hcount]
    by_cases hk : k' = k
    · subst hk
      have hne : s.locks k' ≠ none := fun h => by
        have := (hi.locks k').mp h
        omega
      by_cases h0 : s.active k' - 1 = 0 <;> simp [h0, hne]
    · simp [hk, Ne.symm hk, hi.locks k']
  · -- a handler still in use keeps its key in use, so its key keeps its lock
    rw [State.countOff_handlers] at hx
    have hxlive : x.phase.live = true := by simp [Phase.live, hl']
    have hxpos := State.active_pos_of_mem hx hxlive
    rcases State.mem_setHandler hx with hold | rfl
    · rw [State.countOff_locks, State.setHandler_users, State.setLock_users, hcount]
      rw [hactive] at hxpos
      split
      · rename_i hgone
        obtain ⟨hkey, h0⟩ := hgone
        rw [hkey] at hxpos
        simp at hxpos
        omega
      · exact hi.same x hold l' hl'
    · simp [Phase.lock?] at hl'
  · rw [State.countOff_locks] at hk
    rw [State.countOff_fresh]
    split at hk
    · cases hk
    · exact hi.below k' l' hk
  · rw [State.countOff_pool, State.holders_countOff]
    exact State.sound_setHandler hs' .done
      (fun _ h => by rw [hl] at h; exact (Option.some.inj h).symm)
      (fun _ h => by cases h) (fun l' hne => by simpa [hne] using hi.sound l')
      (by simpa [State.holders_setHandler hs'] using hlk) l'

/-- A queued handler that resumes cancelled leaves the queue and its key. -/
theorem abandon (hi : Inv s) (hs : s.handlers[t]? = some ⟨k, .queued l⟩) :
    Inv (((s.setLock l ((s.pool l).dequeue t).wakeIfFree).setHandler t ⟨k, .done⟩).countOff k) :=
  hi.exit hs rfl (by simpa using (hi.sound l).dequeue.wakeIfFree)

/-- A handler leaving the body releases its lock and leaves its key. -/
theorem leave (hi : Inv s) (hs : s.handlers[t]? = some ⟨k, .holding l⟩) :
    Inv (((s.setLock l (s.pool l).release).setHandler t ⟨k, .done⟩).countOff k) := by
  have hpos : 0 < s.holders l :=
    List.countP_pos_iff.mpr ⟨_, List.mem_of_getElem? hs, by simp⟩
  have hsound : (s.pool l).Sound (s.holders l - 1 + 1) := by
    rw [Nat.sub_add_cancel hpos]
    exact hi.sound l
  exact hi.exit hs rfl (by simpa using hsound.release)

end Inv


/-! ### Entering -/

/-- What entering finds for key `k` once the table is looked up and the key counted in (`s₁`):
the tables of `s` but for `k`, which has lock `l`, the one it had if any, and one more user;
and lock `l` agreeing with its holders. -/
structure Prepared (s s₁ : State) (k : String) (l : Nat) : Prop where
  handlers : s₁.handlers = s.handlers
  users : ∀ k', s₁.users k' = if k' = k then some (s.active k + 1) else s.users k'
  lock : s₁.locks k = some l
  locks : ∀ k', k' ≠ k → s₁.locks k' = s.locks k'
  kept : ∀ l', s.locks k = some l' → l' = l
  below : ∀ k' l', s₁.locks k' = some l' → l' < s₁.fresh
  pool : ∀ l', l' ≠ l → s₁.pool l' = s.pool l'
  sound : (s₁.pool l).Sound (s.holders l)

namespace Inv

variable {s : State} {t l : Nat} {k : String}

/-- The table lookup and the count of an entering handler. -/
theorem prepared (hi : Inv s) (k : String) :
    Prepared s ((s.withLock k).countIn k) k (s.lockOf k) := by
  have husers : ∀ k', ((s.withLock k).countIn k).users k' =
      if k' = k then some (s.active k + 1) else s.users k' := fun k' => by
    have hw : (s.withLock k).users = s.users := by
      unfold State.withLock
      split <;> rfl
    simp [State.countIn, hw, hi.users_getD]
  cases hk : s.locks k with
  | some l₀ =>
    -- the key is in use: its lock stays
    have hw : s.withLock k = s := by simp [State.withLock, hk]
    have hl : s.lockOf k = l₀ := by simp [State.lockOf, hk]
    rw [hl]
    rw [hw] at husers ⊢
    exact ⟨rfl, husers, hk, fun _ _ => rfl, fun _ h => by simpa [hk] using h.symm, hi.below,
      fun _ _ => rfl, hi.sound l₀⟩
  | none =>
    -- the key is not in use: a new lock, which no handler holds
    have hl : s.lockOf k = s.fresh := by simp [State.lockOf, hk]
    rw [hl]
    refine ⟨?_, husers, ?_, fun k' hk' => ?_, fun _ h => by simp [hk] at h, fun k' l' hk' => ?_,
      fun l' hl' => ?_, ?_⟩
    · simp [State.withLock, hk]
    · simp [State.withLock, hk]
    · simp [State.withLock, hk, hk']
    · simp only [State.withLock, hk, State.countIn_locks, State.countIn_fresh, put_apply] at hk' ⊢
      split at hk'
      · cases hk'
        omega
      · exact Nat.lt_succ_of_lt (hi.below k' l' hk')
    · simp [State.withLock, hk, hl']
    · simpa [State.withLock, hk, hi.holders_fresh] using Lock.sound_new

end Inv

/-- From the prepared tables, the handler takes or queues for lock `l`, set to one that agrees
with the holders after it: the invariant holds again. -/
theorem Prepared.enter {s s₁ : State} {t l : Nat} {k : String} (hp : Prepared s s₁ k l)
    (hi : Inv s) (hs : s.handlers[t]? = some ⟨k, .ready⟩) {p : Phase} (hpl : p.lock? = some l)
    {lk : Lock} (hlk : lk.Sound (s.holders l + (if p = .holding l then 1 else 0))) :
    Inv ((s₁.setLock l lk).setHandler t ⟨k, p⟩) := by
  have hs₁ : (s₁.setLock l lk).handlers[t]? = some ⟨k, .ready⟩ := by
    rw [State.setLock_handlers, hp.handlers]
    exact hs
  have hlive : p.live = true := by simp [Phase.live, hpl]
  have hactive : ∀ k', ((s₁.setLock l lk).setHandler t ⟨k, p⟩).active k' =
      s.active k' + (if k = k' then 1 else 0) := fun k' => by
    rw [State.active_setHandler_enter hs₁ hlive, State.active_setLock]
    simp only [State.active, hp.handlers]
  refine ⟨fun k' => ?_, fun k' => ?_, fun x hx l' hl' => ?_, fun k' l' hk => ?_, fun l' => ?_⟩
  · rw [hactive, State.setHandler_users, State.setLock_users, hp.users]
    by_cases hk : k' = k
    · subst hk
      simp
    · simp [hk, Ne.symm hk, hi.users k']
  · rw [hactive, State.setHandler_locks, State.setLock_locks]
    by_cases hk : k' = k
    · subst hk
      simp [hp.lock]
    · simp [Ne.symm hk, hp.locks k' hk, hi.locks k']
  · rw [State.setHandler_locks, State.setLock_locks]
    rcases State.mem_setHandler hx with hold | rfl
    · rw [State.setLock_handlers, hp.handlers] at hold
      have hlock := hi.same x hold l' hl'
      by_cases hk : x.key = k
      · rw [hk] at hlock ⊢
        rw [hp.kept l' hlock]
        exact hp.lock
      · rw [hp.locks _ hk]
        exact hlock
    · rw [hpl] at hl'
      cases hl'
      exact hp.lock
  · exact hp.below k' l' hk
  · -- the locks but `l` are as they were, with the same holders
    have hh : ∀ l', s₁.holders l' = s.holders l' := fun l' => by
      simp only [State.holders, hp.handlers]
    exact State.sound_setHandler hs₁ p (fun _ h => by cases h)
      (fun _ h => by rw [hpl] at h; exact (Option.some.inj h).symm)
      (fun l' hne => by simpa [hne, hp.pool l' hne, hh] using hi.sound l')
      (by simpa [State.holders_setHandler hs₁, hh] using hlk) l'

namespace Inv

variable {s s' : State} {t : Nat} {k : String}

/-- A handler entering takes its key's lock at once when free, else queues for it. -/
theorem enter (hi : Inv s) (hs : s.handlers[t]? = some ⟨k, .ready⟩) : Inv (s.enter t k) := by
  have hp := hi.prepared k
  unfold State.enter
  dsimp only
  split
  · exact hp.enter hi hs rfl (by simpa using hp.sound.take ‹_›)
  · exact hp.enter hi hs rfl (by simpa using hp.sound.enqueue)

/-! ### Every step and every run -/

/-- Every event keeps the invariant. -/
theorem step (hi : Inv s) {e : Event} (h : Serial.step s e = some s') : Inv s' := by
  cases Turn.of_step h with
  | enter hs => exact hi.enter hs
  | cancel _ _ => exact hi.cancel
  | resume hs hw => exact hi.resume hs hw
  | abandon hs _ => exact hi.abandon hs
  | leave hs => exact hi.leave hs

/-- Every run keeps the invariant. -/
theorem run (hi : Inv s) {es : List Event} (h : Serial.run s es = some s') : Inv s' := by
  induction es generalizing s with
  | nil =>
    cases h
    exact hi
  | cons e es ih =>
    simp only [Serial.run, Option.bind_eq_some_iff] at h
    obtain ⟨s₁, h₁, h₂⟩ := h
    exact ih (hi.step h₁) h₂

end Inv


/-! ### One handler at a time for each key -/

namespace Phase

theorem live_of_inside {p : Phase} (h : p.inside = true) : p.live = true := by
  cases p <;> simp_all [inside]

theorem eq_holding_of_inside {p : Phase} {l : Nat} (hin : p.inside = true)
    (hl : p.lock? = some l) : p = .holding l := by
  cases p <;> simp_all [inside, lock?]

end Phase

/-- An event changes a key's lock only by putting one where there was none, or by dropping
it. -/
theorem step_locks {s s' : State} {e : Event} (h : step s e = some s') (k : String) :
    s'.locks k = s.locks k ∨ s.locks k = none ∨ s'.locks k = none := by
  cases Turn.of_step h with
  | enter _ => exact (State.enter_locks _ _ k).imp_right .inl
  | cancel _ _ => exact .inl rfl
  | resume _ _ => exact .inl rfl
  | abandon _ _ =>
    rcases State.countOff_locks_or _ k with hk | hk
    · exact .inl hk
    · exact .inr (.inr hk)
  | leave _ =>
    rcases State.countOff_locks_or _ k with hk | hk
    · exact .inl hk
    · exact .inr (.inr hk)

namespace Inv

variable {s s' : State}

/-- At most one handler of a key is inside the locked body: all of them hold the key's one
lock, which at most one handler holds. -/
theorem inside_le_one (hi : Inv s) (k : String) : s.inside k ≤ 1 := by
  cases hk : s.locks k with
  | none =>
    -- the key is not in use, so no handler of it is inside
    have h0 := (hi.locks k).mp hk
    have hle : s.inside k ≤ s.active k :=
      List.countP_mono_left fun x _ hx => by
        simp only [Bool.and_eq_true] at hx ⊢
        exact ⟨hx.1, Phase.live_of_inside hx.2⟩
    omega
  | some l =>
    calc s.inside k ≤ s.holders l := List.countP_mono_left fun x hx hin => by
          simp only [Bool.and_eq_true, beq_iff_eq] at hin ⊢
          obtain ⟨l', hl'⟩ := Option.isSome_iff_exists.mp (Phase.live_of_inside hin.2)
          have hsame := hi.same x hx l' hl'
          rw [hin.1, hk, Option.some.injEq] at hsame
          subst hsame
          exact Phase.eq_holding_of_inside hin.2 hl'
      _ ≤ 1 := (hi.sound l).le_one

/-- A key that stays in use across an event keeps its lock. -/
theorem lock_kept (hi : Inv s) {e : Event} (h : Serial.step s e = some s') {k : String}
    (h₁ : 0 < s.active k) (h₂ : 0 < s'.active k) : s'.locks k = s.locks k := by
  rcases step_locks h k with heq | hnone | hnone
  · exact heq
  · exact absurd ((hi.locks k).mp hnone) (by omega)
  · exact absurd (((hi.step h).locks k).mp hnone) (by omega)

/-- With no handler in use, both tables are empty. -/
theorem idle (hi : Inv s) (hidle : ∀ k, s.active k = 0) (k : String) :
    s.locks k = none ∧ s.users k = none :=
  ⟨(hi.locks k).mpr (hidle k), by rw [hi.users k, hidle k]; rfl⟩

end Inv

/-- What serialisation promises of a state, for key `k`. -/
structure Serialised (s : State) (k : String) : Prop where
  /-- At most one handler of the key is inside the locked body. -/
  exclusive : s.inside k ≤ 1
  /-- The key's count is the number of its handlers in use, present just when positive. -/
  counted : s.users k = if s.active k = 0 then none else some (s.active k)
  /-- The key has a lock in the table just when it is in use. -/
  locked : s.locks k = none ↔ s.active k = 0
  /-- Every handler of the key in use uses the table's lock. -/
  shared : ∀ x ∈ s.handlers, x.key = k → ∀ l, x.phase.lock? = some l → s.locks k = some l
  /-- An event after which the key is still in use keeps its lock. -/
  kept : ∀ e s', step s e = some s' → 0 < s.active k → 0 < s'.active k → s'.locks k = s.locks k
  /-- With no handler in use, both tables are empty. -/
  idle : (∀ k', s.active k' = 0) → ∀ k', s.locks k' = none ∧ s.users k' = none

/-- In every order the loop may run, cancel or fail the handlers in, every state reached keeps
the serialisation's promises for every key. -/
theorem serialised_per_key {keys : List String} {events : List Event} {s : State}
    (h : run (State.init keys) events = some s) (k : String) : Serialised s k := by
  have hi := (inv_init keys).run h
  refine ⟨hi.inside_le_one k, hi.users k, hi.locks k, fun x hx hk l hl => ?_,
    fun _ _ he h₁ h₂ => hi.lock_kept he h₁ h₂, hi.idle⟩
  rw [← hk]
  exact hi.same x hx l hl

/-- One customer's key. -/
def customer : String := key "ws_1" "+2348012345678"

/-- Three messages from one customer: the second is cancelled while it waits, so the first's
release wakes no one, until the cancelled handler leaves the queue and wakes the third. -/
def cancelledWait : List Event :=
  [.enter 0, .enter 1, .enter 2, .cancel 1, .leave 0, .abandon 1, .resume 2, .leave 2]

theorem cancelledWait_serialised :
    ∃ s, run (State.init [customer, customer, customer]) cancelledWait = some s ∧
      Serialised s customer :=
  ⟨_, rfl, @serialised_per_key [customer, customer, customer] cancelledWait _ rfl customer⟩

/-- The first handler's release wakes no one, for the first queued future is cancelled; the
cancelled handler, leaving, wakes the third. -/
example : ((run (State.init [customer, customer, customer]) (cancelledWait.take 5)).map
    fun s => (s.pool 0).waiters) = some [(1, .cancelled), (2, .pending)] := by decide

example : ((run (State.init [customer, customer, customer]) (cancelledWait.take 6)).map
    fun s => (s.pool 0).waiters) = some [(2, .woken)] := by decide

end Autoresponder.Serial
