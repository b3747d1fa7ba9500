/-!
# Per-customer serialisation

The processor handles one message at a time for each customer. A handler for workspace `w`
and phone `p` works under the key `w:p`: on entering it takes the key's lock from the
processor's table, or puts a new lock there, and counts itself as a user of the key; it holds
the lock for the whole of its work; and on its way out, however it leaves, it counts itself
off, the last user of a key dropping the key's lock and count from the two tables.

Handlers are tasks of one event loop. The loop runs a task until it waits, then any task that
can go on, and any task may be cancelled, or fail, where it waits. An `Event` is what runs
between two switches, and `run` takes the events in any order the loop may pick them. The
locks are the loop's own: a lock is taken at once when it is not held and no queued future is
live; otherwise the task queues a future and waits on it. A release wakes the first queued
future, unless it is already done; a queued task whose future was woken resumes holding the
lock, and a queued task that resumes cancelled leaves the queue, waking the first future if
the lock is not held.
-/

namespace Autoresponder.Serial

/-- The key of a customer: the workspace and the phone. -/
def key (workspaceId phone : String) : String := workspaceId ++ ":" ++ phone

/-- `f` with the value at `a` replaced by `b`. -/
def put {α β : Type} [DecidableEq α] (f : α → β) (a : α) (b : β) : α → β :=
  fun x => if x = a then b else f x

@[simp] theorem put_apply {α β : Type} [DecidableEq α] (f : α → β) (a : α) (b : β) (x : α) :
    put f a b x = if x = a then b else f x := rfl

/-! ### Locks -/

/-- Where the future a queued task waits on stands. -/
inductive Wake where
  | pending
  | woken
  | cancelled
  deriving DecidableEq, Repr

/-- A lock of the event loop: whether it is held, and the tasks queued for it, in order, each
with its future. -/
structure Lock where
  held : Bool := false
  waiters : List (Nat × Wake) := []
  deriving DecidableEq, Repr

namespace Lock

/-- A lock is taken at once when it is not held and every queued future is cancelled. -/
def free (lk : Lock) : Bool := !lk.held && lk.waiters.all (·.2 == .cancelled)

/-- The future task `t` waits on, if it is queued. -/
def future? (lk : Lock) (t : Nat) : Option Wake := lk.waiters.lookup t

/-- Queues task `t` on a pending future. -/
def enqueue (lk : Lock) (t : Nat) : Lock := { lk with waiters := lk.waiters ++ [(t, .pending)] }

/-- Cancels the pending future of task `t`. -/
def cancel (lk : Lock) (t : Nat) : Lock :=
  { lk with waiters := lk.waiters.map fun e =>
      if e.1 = t ∧ e.2 = .pending then (e.1, .cancelled) else e }

/-- Takes the future of task `t` out of the queue. -/
def dequeue (lk : Lock) (t : Nat) : Lock := { lk with waiters := lk.waiters.eraseP (·.1 == t) }

/-- Wakes the first queued future, unless it is already done. -/
def wakeFirst (lk : Lock) : Lock :=
  match lk.waiters with
  | (t, .pending) :: rest => { lk with waiters := (t, .woken) :: rest }
  | _ => lk

/-- What a task that resumes cancelled does to the lock it queued for: it wakes the first
future if the lock is not held. -/
def wakeIfFree (lk : Lock) : Lock := if lk.held then lk else lk.wakeFirst

/-- Releases the lock, waking the first queued future. -/
def release (lk : Lock) : Lock := wakeFirst { lk with held := false }

end Lock

/-! ### Handlers and the processor -/

/-- Where a handler is: not yet entered, queued for a lock, holding it, or gone. -/
inductive Phase where
  | ready
  | queued (lock : Nat)
  | holding (lock : Nat)
  | done
  deriving DecidableEq, Repr

namespace Phase

/-- The lock a handler that has entered and not yet left uses. -/
def lock? : Phase → Option Nat
  | .queued l | .holding l => some l
  | _ => none

/-- Whether the handler has entered and not yet left. -/
def live (p : Phase) : Bool := p.lock?.isSome

@[simp] theorem live_ready : Phase.ready.live = false := rfl
@[simp] theorem live_queued (l : Nat) : (Phase.queued l).live = true := rfl
@[simp] theorem live_holding (l : Nat) : (Phase.holding l).live = true := rfl
@[simp] theorem live_done : Phase.done.live = false := rfl

/-- Whether the handler is inside the locked body. -/
def inside : Phase → Bool
  | .holding _ => true
  | _ => false

end Phase

/-- A handler: its customer's key and where it is. -/
structure Handler where
  key : String
  phase : Phase := .ready
  deriving DecidableEq, Repr

/-- The processor's two tables, the loop's locks and the handlers. -/
structure State where
  /-- The lock of each key in use. -/
  locks : String → Option Nat := fun _ => none
  /-- How many handlers use each key. -/
  users : String → Option Nat := fun _ => none
  /-- The locks, by number. -/
  pool : Nat → Lock := fun _ => {}
  /-- The number the next new lock gets. -/
  fresh : Nat := 0
  handlers : List Handler := []

namespace State

/-- Handlers for the given keys, none of them entered, and empty tables. -/
def init (keys : List String) : State := { handlers := keys.map fun k => { key := k } }

/-- How many handlers of key `k` have entered and not yet left. -/
def active (s : State) (k : String) : Nat := s.handlers.countP fun h => h.key == k && h.phase.live

/-- How many handlers of key `k` are inside the locked body. -/
def inside (s : State) (k : String) : Nat :=
  s.handlers.countP fun h => h.key == k && h.phase.inside

/-- How many handlers hold lock `l`. -/
def holders (s : State) (l : Nat) : Nat := s.handlers.countP fun h => h.phase == .holding l

/-- The lock key `k` uses: the one in the table, else the next new one. -/
def lockOf (s : State) (k : String) : Nat := (s.locks k).getD s.fresh

/-- The table with a lock for key `k`: the one it has, else a new lock. -/
def withLock (s : State) (k : String) : State :=
  match s.locks k with
  | some _ => s
  | none =>
    { s with locks := put s.locks k (some s.fresh), pool := put s.pool s.fresh {},
             fresh := s.fresh + 1 }

/-- Counts one more user of key `k`. -/
def countIn (s : State) (k : String) : State :=
  { s with users := put s.users k (some ((s.users k).getD 0 + 1)) }

/-- Counts one user of key `k` off; the last drops the key's lock and count. -/
def countOff (s : State) (k : String) : State :=
  match (s.users k).getD 0 - 1 with
  | 0 => { s with users := put s.users k none, locks := put s.locks k none }
  | n + 1 => { s with users := put s.users k (some (n + 1)) }

/-- Sets lock `l`. -/
def setLock (s : State) (l : Nat) (lk : Lock) : State := { s with pool := put s.pool l lk }

/-- Sets handler `t`. -/
def setHandler (s : State) (t : Nat) (h : Handler) : State :=
  { s with handlers := s.handlers.set t h }

/-- Handler `t` of key `k` enters: the key's lock, counted in, and taken at once if it is
free, else queued for. -/
def enter (s : State) (t : Nat) (k : String) : State :=
  let l := s.lockOf k
  let s := (s.withLock k).countIn k
  let lk := s.pool l
  if lk.free then (s.setLock l { lk with held := true }).setHandler t ⟨k, .holding l⟩
  else (s.setLock l (lk.enqueue t)).setHandler t ⟨k, .queued l⟩

section Fields

variable {s : State} {t l : Nat} {k : String}

@[simp] theorem setLock_handlers (lk : Lock) : (s.setLock l lk).handlers = s.handlers := rfl
@[simp] theorem setLock_locks (lk : Lock) : (s.setLock l lk).locks = s.locks := rfl
@[simp] theorem setLock_users (lk : Lock) : (s.setLock l lk).users = s.users := rfl
@[simp] theorem setLock_fresh (lk : Lock) : (s.setLock l lk).fresh = s.fresh := rfl
@[simp] theorem setLock_pool (lk : Lock) : (s.setLock l lk).pool = put s.pool l lk := rfl
@[simp] theorem setHandler_locks (h : Handler) : (s.setHandler t h).locks = s.locks := rfl
@[simp] theorem setHandler_users (h : Handler) : (s.setHandler t h).users = s.users := rfl
@[simp] theorem setHandler_fresh (h : Handler) : (s.setHandler t h).fresh = s.fresh := rfl
@[simp] theorem setHandler_pool (h : Handler) : (s.setHandler t h).pool = s.pool := rfl
@[simp] theorem countIn_handlers : (s.countIn k).handlers = s.handlers := rfl
@[simp] theorem countIn_locks : (s.countIn k).locks = s.locks := rfl
@[simp] theorem countIn_fresh : (s.countIn k).fresh = s.fresh := rfl
@[simp] theorem countIn_pool : (s.countIn k).pool = s.pool := rfl

@[simp] theorem active_setLock (lk : Lock) (k : String) : (s.setLock l lk).active k = s.active k :=
  rfl
@[simp] theorem holders_setLock (lk : Lock) (l' : Nat) :
    (s.setLock l lk).holders l' = s.holders l' := rfl

theorem countOff_handlers : (s.countOff k).handlers = s.handlers := by
  unfold countOff
  split <;> rfl

theorem countOff_fresh : (s.countOff k).fresh = s.fresh := by
  unfold countOff
  split <;> rfl

theorem countOff_pool : (s.countOff k).pool = s.pool := by
  unfold countOff
  split <;> rfl

@[simp] theorem active_countOff (k' : String) : (s.countOff k).active k' = s.active k' := by
  simp only [active, countOff_handlers]

@[simp] theorem holders_countOff (l' : Nat) : (s.countOff k).holders l' = s.holders l' := by
  simp only [holders, countOff_handlers]

/-- Counting off key `k` leaves the other keys, and takes one off `k`, dropping it at zero. -/
theorem countOff_users (k' : String) :
    (s.countOff k).users k' =
      if k' = k then (if (s.users k).getD 0 - 1 = 0 then none else some ((s.users k).getD 0 - 1))
      else s.users k' := by
  unfold countOff
  split <;> rename_i hn <;> simp [hn]

theorem countOff_locks (k' : String) :
    (s.countOff k).locks k' =
      if k' = k ∧ (s.users k).getD 0 - 1 = 0 then none else s.locks k' := by
  unfold countOff
  split <;> rename_i hn <;> simp [hn]

end Fields

end State

/-- What runs between two switches of the loop, for handler `t`. -/
inductive Event where
  /-- The handler enters, and takes or queues for its key's lock. -/
  | enter (t : Nat)
  /-- The queued handler is cancelled: its pending future is cancelled. -/
  | cancel (t : Nat)
  /-- The queued handler's future was woken: it resumes holding the lock. -/
  | resume (t : Nat)
  /-- The queued handler resumes cancelled (its future cancelled, or woken but the task
  cancelled before it ran): it leaves the queue and the key. -/
  | abandon (t : Nat)
  /-- The handler leaves the body, returning or failing: it releases the lock and leaves the
  key. -/
  | leave (t : Nat)
  deriving DecidableEq, Repr

open State in
/-- One event, when the handler is where the event can happen. -/
def step (s : State) : Event → Option State
  | .enter t =>
    match s.handlers[t]? with
    | some ⟨k, .ready⟩ => some (s.enter t k)
    | _ => none
  | .cancel t =>
    match s.handlers[t]? with
    | some ⟨_, .queued l⟩ =>
      if (s.pool l).future? t = some .pending then some (s.setLock l ((s.pool l).cancel t))
      else none
    | _ => none
  | .resume t =>
    match s.handlers[t]? with
    | some ⟨k, .queued l⟩ =>
      if (s.pool l).future? t = some .woken then
        some ((s.setLock l { (s.pool l).dequeue t with held := true }).setHandler t
          ⟨k, .holding l⟩)
      else none
    | _ => none
  | .abandon t =>
    match s.handlers[t]? with
    | some ⟨k, .queued l⟩ =>
      match (s.pool l).future? t with
      | some .cancelled | some .woken =>
        some (((s.setLock l ((s.pool l).dequeue t).wakeIfFree).setHandler t ⟨k, .done⟩).countOff k)
      | _ => none
    | _ => none
  | .leave t =>
    match s.handlers[t]? with
    | some ⟨k, .holding l⟩ =>
      some (((s.setLock l (s.pool l).release).setHandler t ⟨k, .done⟩).countOff k)
    | _ => none

/-- The events in order; none when one cannot happen where it comes. -/
def run (s : State) : List Event → Option State
  | [] => some s
  | e :: es => (step s e).bind fun s' => run s' es

end Autoresponder.Serial
