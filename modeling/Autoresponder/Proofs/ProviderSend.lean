import Mathlib.Logic.Function.Iterate
import Autoresponder.Proofs.DispatchRecords

/-!
# Sending with retries

A send posts one request to the provider and posts it again while the answer reads as a refusal
that may be retried (a failed connection, a rate limit or a server error), up to the configured
number of attempts. Over every script of answers (`World.answerAt`), the same request is posted
`k` times, where `k` is the first attempt whose answer does not read as a retryable refusal, or
the last attempt, and the send ends as the `k`-th answer reads (`provider_send_attempts`).

An answer reads as the provider's contract says (`Reads`) when its body has the expected shape:
a refusal with the provider's message or the status, retryable for rate limits and server
errors, or a receipt naming the first sent message. A body of another shape raises the fault met
while reading it, a missing attribute, key or index, and that fault ends the send at once: under
a success status (`listBody_escapes`), and under a server error too, which is then not retried.
-/

namespace Autoresponder

open Autoresponder.Text Autoresponder.Op

/-- The answer the request `i` places after the next one gets, counting from zero: the answer
fixed for its message type, else the scripted answer `i` places on; none is the plain success. -/
def World.answerAt (w : World) (kind : String) (i : Nat) : Option Answer :=
  match w.providerByType.lookup kind with
  | some a => a
  | none => w.provider[i]?.join

namespace Channel

/-- The record of a request to the provider, as it is logged. -/
def requestRecord (url auth : String) (payload : Value) : Value :=
  .dict [("url", .str url), ("auth", .str auth), ("json", payload)]

/-- How request number `n` reads its answer: a failed connection is a refusal that may be
retried, the plain success names the request, and an answer is read by `readAnswer`. -/
def replyOf (n : Nat) : Option Answer → Except Fault (Except Refusal Value)
  | some (.unreachable msg) => .ok (.error ⟨"WhatsApp request failed: " ++ msg, true, none⟩)
  | some (.respond status body) => readAnswer status body
  | none => .ok (.ok (.str ("wamid." ++ toString n)))

/-- Whether a reading is a refusal that may be tried again. -/
def retried : Except Fault (Except Refusal Value) → Bool
  | .ok (.error r) => r.retryable
  | _ => false

/-- How a send ends on a reading: with the receipt, the refusal raised, or the fault. -/
def outcome : Except Fault (Except Refusal Value) → Except Fault Value
  | .ok (.ok id) => .ok id
  | .ok (.error r) => .error (.provider r)
  | .error f => .error f

end Channel

/-- How the request `i` places after the next one reads its answer. -/
def World.replyAt (w : World) (kind : String) (i : Nat) : Except Fault (Except Refusal Value) :=
  Channel.replyOf (w.providerCalls + i + 1) (w.answerAt kind i)

/-- The world after one request: logged and counted, with its scripted answer used up. -/
def World.afterPost (w : World) (kind url auth : String) (payload : Value) : World :=
  { w with
    provider := if (w.providerByType.lookup kind).isSome then w.provider else w.provider.drop 1
    providerCalls := w.providerCalls + 1
    sent := w.sent ++ [Channel.requestRecord url auth payload] }

namespace World

variable (w : World) (kind url auth : String) (payload : Value)

theorem answerAt_afterPost (i : Nat) :
    (w.afterPost kind url auth payload).answerAt kind i = w.answerAt kind (i + 1) := by
  unfold answerAt afterPost
  cases h : w.providerByType.lookup kind with
  | some a => simp
  | none =>
    simp only [Option.isSome_none, Bool.false_eq_true, if_false, List.getElem?_drop]
    rw [Nat.add_comm]

/-- After a request, the answers met are those met one request later. -/
theorem replyAt_afterPost (i : Nat) :
    (w.afterPost kind url auth payload).replyAt kind i = w.replyAt kind (i + 1) := by
  unfold replyAt
  rw [answerAt_afterPost]
  have hcalls : (w.afterPost kind url auth payload).providerCalls + i + 1 =
      w.providerCalls + (i + 1) + 1 := by
    simp only [afterPost]
    omega
  rw [hcalls]

@[simp] theorem afterPost_store : (w.afterPost kind url auth payload).store = w.store := rfl

@[simp] theorem afterPost_setup : (w.afterPost kind url auth payload).setup = w.setup := rfl

@[simp] theorem afterPost_sent :
    (w.afterPost kind url auth payload).sent = w.sent ++ [Channel.requestRecord url auth payload] :=
  rfl

/-- `k` requests log `k` copies of the request and leave the store and the setup alone. -/
theorem afterPost_iterate (k : Nat) :
    ((afterPost · kind url auth payload)^[k] w).sent =
        w.sent ++ List.replicate k (Channel.requestRecord url auth payload) ∧
      ((afterPost · kind url auth payload)^[k] w).store = w.store ∧
      ((afterPost · kind url auth payload)^[k] w).setup = w.setup := by
  induction k with
  | zero => simp
  | succ k ih =>
    obtain ⟨hsent, hstore, hsetup⟩ := ih
    rw [Function.iterate_succ_apply']
    refine ⟨?_, by rw [afterPost_store, hstore], by rw [afterPost_setup, hsetup]⟩
    rw [afterPost_sent, hsent, List.replicate_succ', List.append_assoc]

end World

namespace Channel

/-! ### One request -/

theorem exec_nextAnswer (kind : String) (w : World) :
    exec (nextAnswer kind) w = (.ok (w.answerAt kind 0),
      { w with provider :=
          if (w.providerByType.lookup kind).isSome then w.provider else w.provider.drop 1 }) := by
  simp only [nextAnswer, exec_bind, exec_get, World.answerAt]
  cases h : w.providerByType.lookup kind with
  | some a => simp
  | none =>
    cases hp : w.provider with
    | nil =>
      -- an empty script stays empty
      simp only [exec_pure, Option.isSome_none, Bool.false_eq_true, if_false, List.drop_nil,
        List.getElem?_nil, Option.join_none]
      rw [← hp]
    | cons a rest => simp

/-- A request is logged and counted, and reads the answer it gets. -/
theorem exec_post (url auth : String) (payload : Value) (kind : String) (w : World) :
    exec (post url auth payload kind) w = (w.replyAt kind 0, w.afterPost kind url auth payload) := by
  rw [post, exec_bind, exec_nextAnswer]
  simp only [exec_bind, exec_get, exec_set, World.replyAt, Nat.add_zero]
  cases w.answerAt kind 0 with
  | none => rfl
  | some a =>
    cases a with
    | respond status body => simp [replyOf, World.afterPost, requestRecord]
    | unreachable msg => rfl

/-! ### How answers read -/

/-- The `error` member of a refusal's body can be read: the body is no object, has no `error`
member, or has an object there. -/
def ErrorReadable (data : Value) : Prop :=
  ∀ e, data.get? "error" = some e → ∃ kvs, e = .dict kvs

/-- The text a refusal shows: the provider's error message when it is true, else the status. -/
def shownError (status : Int) (data : Value) : String :=
  let message := match data.get? "error" with
    | some (.dict kvs) => (kvs.lookup "message").getD .null
    | _ => .null
  if message.truthy then message.display else "HTTP " ++ toString status

/-- The body of a success can be read: an object whose `messages` member is missing or false, or
a list whose first item is an object. -/
def ReceiptReadable (data : Value) : Prop :=
  (∃ kvs, data = .dict kvs) ∧ ((data.getD "messages").truthy = false ∨
    ∃ first rest, data.getD "messages" = .list (.dict first :: rest))

/-- The id a receipt names: the `id` of the first sent message, or the empty text. -/
def receiptId (data : Value) : Value :=
  match data.getD "messages" with
  | .list (.dict first :: _) => (first.lookup "id").getD (.str "")
  | _ => .str ""

/-- A fault met reading a body of the wrong shape: a missing attribute, key or index, or a value
of the wrong kind. -/
def Malformed : Fault → Prop
  | .noAttribute _ | .missingKey _ | .outOfRange _ | .badKind _ => True
  | _ => False

/-- What the answer to request number `n` says under the provider's contract: the plain success
names the request, a failed connection is a refusal that may be retried, a refusal shows the
provider's message or the status and may be retried after a rate limit or a server error, and
a success names the first sent message; a body that cannot be read so raises its fault. -/
inductive Reads (n : Nat) : Option Answer → Except Fault (Except Refusal Value) → Prop
  | plain : Reads n none (.ok (.ok (.str ("wamid." ++ toString n))))
  | unreachable (msg : String) :
      Reads n (some (.unreachable msg)) (.ok (.error ⟨"WhatsApp request failed: " ++ msg, true, none⟩))
  | refused (status : Int) (body : Body) : 400 ≤ status → ErrorReadable body.data →
      Reads n (some (.respond status body)) (.ok (.error
        ⟨"WhatsApp API error: " ++ shownError status body.data, status == 429 || status ≥ 500,
          some status⟩))
  | accepted (status : Int) (body : Body) : status < 400 → ReceiptReadable body.data →
      Reads n (some (.respond status body)) (.ok (.ok (receiptId body.data)))
  | malformed (status : Int) (body : Body) (f : Fault) : Malformed f →
      ¬ (400 ≤ status ∧ ErrorReadable body.data) → ¬ (status < 400 ∧ ReceiptReadable body.data) →
      Reads n (some (.respond status body)) (.error f)

theorem readAnswer_refused {status : Int} {body : Body} (hs : 400 ≤ status)
    (he : ErrorReadable body.data) :
    readAnswer status body = .ok (.error
      ⟨"WhatsApp API error: " ++ shownError status body.data, status == 429 || status ≥ 500,
        some status⟩) := by
  unfold readAnswer shownError
  generalize body.data = data at he ⊢
  cases data with
  | dict kvs =>
    cases hk : kvs.lookup "error" with
    | none => simp [hs, hk, Value.field, Value.get?, bind, Except.bind, pure, Except.pure]
    | some e =>
      obtain ⟨errs, rfl⟩ := he e (by simp [Value.get?, hk])
      simp [hs, hk, Value.field, Value.get?, bind, Except.bind, pure, Except.pure]
  | _ => simp [hs, Value.field, Value.get?, bind, Except.bind, pure, Except.pure]

theorem readAnswer_receipt {status : Int} {body : Body} (hs : status < 400)
    (hr : ReceiptReadable body.data) :
    readAnswer status body = .ok (.ok (receiptId body.data)) := by
  obtain ⟨⟨kvs, hkvs⟩, hmsg⟩ := hr
  have hlt : ¬ 400 ≤ status := by omega
  unfold readAnswer receiptId
  rw [hkvs] at hmsg ⊢
  simp only [hlt, if_false, Value.field, Value.getD, Value.get?] at hmsg ⊢
  generalize (kvs.lookup "messages").getD Value.null = given at hmsg ⊢
  rcases hmsg with hfalse | ⟨first, rest, rfl⟩
  · -- a missing or false member stands for one message with no id
    have hstand : given.orElse (.list [.dict []]) = .list [.dict []] := by
      simp [Value.orElse, hfalse]
    have hid : (match given with
        | .list (.dict first :: _) => (first.lookup "id").getD (.str "")
        | _ => .str "") = .str "" := by
      cases given with
      | list xs =>
        cases xs with
        | nil => rfl
        | cons x xs => simp [Value.truthy] at hfalse
      | _ => rfl
    simp [hstand, hid, firstItem, bind, Except.bind, pure, Except.pure]
  · simp [Value.orElse, Value.truthy, firstItem, bind, Except.bind, pure, Except.pure]

/-- A body that reads neither as a refusal nor as a receipt raises the fault met reading it. -/
theorem readAnswer_malformed {status : Int} {body : Body}
    (hr : ¬ (400 ≤ status ∧ ErrorReadable body.data))
    (ha : ¬ (status < 400 ∧ ReceiptReadable body.data)) :
    ∃ f, readAnswer status body = .error f ∧ Malformed f := by
  unfold readAnswer
  generalize body.data = data at hr ha ⊢
  by_cases hs : 400 ≤ status
  · -- the `error` member is there and is no object
    have hbad : ¬ ErrorReadable data := fun h => hr ⟨hs, h⟩
    simp only [ErrorReadable, not_forall] at hbad
    obtain ⟨e, he, hnot⟩ := hbad
    cases data with
    | dict kvs =>
      simp only [Value.get?] at he
      cases e with
      | dict errs => exact absurd ⟨errs, rfl⟩ hnot
      | _ => simp [hs, he, Value.field, bind, Except.bind, Malformed]
    | _ => simp [Value.get?] at he
  · have hbad : ¬ ReceiptReadable data := fun h => ha ⟨by omega, h⟩
    cases data with
    | dict kvs =>
      -- the `messages` member is true and no list that starts with an object
      simp only [ReceiptReadable, Value.getD, Value.get?, not_and, not_or, not_exists] at hbad
      obtain ⟨htrue, hshape⟩ := hbad ⟨kvs, rfl⟩
      simp only [hs, if_false, Value.field]
      generalize (kvs.lookup "messages").getD Value.null = given at htrue hshape ⊢
      cases given with
      | list xs =>
        cases xs with
        | nil => simp [Value.truthy] at htrue
        | cons x xs =>
          cases x with
          | dict first => exact absurd rfl (hshape first xs)
          | _ => simp [Value.orElse, Value.truthy, firstItem, bind, Except.bind, Malformed]
      | str t =>
        cases ht : t.toList with
        | nil => simp_all [Value.truthy, String.isEmpty_iff]
        | cons c cs =>
          have hne : ¬ t = "" := by
            intro h
            simp [h] at ht
          simp [Value.orElse, Value.truthy, hne, ht, firstItem, bind, Except.bind, Malformed]
      | _ => simp_all [Value.orElse, Value.truthy, firstItem, bind, Except.bind, Malformed]
    | _ => simp [hs, Value.field, bind, Except.bind, Malformed]

theorem reads_replyOf (n : Nat) (a : Option Answer) : Reads n a (replyOf n a) := by
  rcases a with _ | ⟨status, body⟩ | msg
  · exact .plain
  · by_cases hr : 400 ≤ status ∧ ErrorReadable body.data
    · rw [replyOf, readAnswer_refused hr.1 hr.2]
      exact .refused status body hr.1 hr.2
    · by_cases ha : status < 400 ∧ ReceiptReadable body.data
      · rw [replyOf, readAnswer_receipt ha.1 ha.2]
        exact .accepted status body ha.1 ha.2
      · obtain ⟨f, hf, hm⟩ := readAnswer_malformed hr ha
        rw [replyOf, hf]
        exact .malformed status body f hm hr ha
  · exact .unreachable msg

/-! ### The loop of attempts -/

/-- A loop of `n` attempts posts the request `k` times, where `k` is the first attempt whose
answer does not read as a retryable refusal, or `n`, and ends as the `k`-th answer reads. -/
theorem postTrying_attempts (url auth : String) (payload : Value) (kind : String) (n : Nat) :
    ∀ w : World, 0 < n → ∃ k, 0 < k ∧ k ≤ n ∧
      (∀ i, i + 1 < k → retried (w.replyAt kind i) = true) ∧
      (k < n → retried (w.replyAt kind (k - 1)) = false) ∧
      exec (postTrying url auth payload kind n) w =
        (outcome (w.replyAt kind (k - 1)), (World.afterPost · kind url auth payload)^[k] w) := by
  induction n with
  | zero => intro w h; omega
  | succ m ih =>
    intro w _
    rw [postTrying, exec_bind, exec_post]
    -- the first answer decides whether the loop goes on
    rcases hr : w.replyAt kind 0 with f | r | id
    · refine ⟨1, by omega, by omega, fun i hi => by omega, fun _ => by simp [hr, retried], ?_⟩
      simp [hr, outcome]
    · by_cases hagain : r.retryable = true ∧ 0 < m
      · obtain ⟨k, hk, hkm, hprev, hlast, hrun⟩ := ih (w.afterPost kind url auth payload) hagain.2
        refine ⟨k + 1, by omega, by omega, fun i hi => ?_, fun hlt => ?_, ?_⟩
        · cases i with
          | zero => simpa [hr, retried] using hagain.1
          | succ j =>
            rw [← World.replyAt_afterPost]
            exact hprev j (by omega)
        · have h := hlast (by omega)
          rw [World.replyAt_afterPost] at h
          rwa [show k - 1 + 1 = k + 1 - 1 by omega] at h
        · have hstep : (w.afterPost kind url auth payload).replyAt kind (k - 1) =
              w.replyAt kind (k + 1 - 1) := by
            rw [World.replyAt_afterPost, show k - 1 + 1 = k + 1 - 1 by omega]
          simp only [hagain.1, hagain.2, decide_true, Bool.and_self, if_true]
          rw [hrun, hstep, Function.iterate_succ_apply]
      · have hstop : (r.retryable && decide (m > 0)) = false := by
          cases hre : r.retryable <;> simp_all
        refine ⟨1, by omega, by omega, fun i hi => by omega, fun hlt => ?_, ?_⟩
        · have hm : 0 < m := by omega
          simpa [hr, retried, hm] using hagain
        · simp [hstop, hr, outcome]
    · refine ⟨1, by omega, by omega, fun i hi => by omega, fun _ => by simp [hr, retried], ?_⟩
      simp [hr, outcome]

end Channel

/-! ### Sending -/

namespace Channel

/-- A send for a workspace that can send, whose request can be made (an address that reads, an
authorization in ASCII, a body that UTF-8 can write), posts the same request `k` times: `k` is
the first attempt whose answer does not read as a retryable refusal, else the configured number
of attempts, at least one. The send ends as the `k`-th answer reads, that reading is what the
provider's contract says of the answer, and the store is left alone. -/
theorem provider_send_attempts {ws : Workspace} {recipient base url : String} {a : Int}
    {m : Outbound} {v : World} (hcred : ws.hasCredentials = true)
    (hbase : v.setup.whatsapp.get "api_base" = .str base)
    (hattempts : (v.setup.whatsapp.get "send_attempts").toWhole = .ok a)
    (hurl : Net.normalize (dropEndOf base ['/'] ++ "/" ++ ws.phoneId ++ "/messages") = .ok url)
    (hauth : asciiRefusal ("Bearer " ++ ws.accessToken) = none)
    (hpayload : utf8Refusal (Json.writeIn .compact (m.payload recipient)) = none) :
    ∃ k, 0 < k ∧ k ≤ (max 1 a).toNat ∧
      (∀ i, i + 1 < k → retried (v.replyAt m.typeName i) = true) ∧
      (k < (max 1 a).toNat → retried (v.replyAt m.typeName (k - 1)) = false) ∧
      Reads (v.providerCalls + (k - 1) + 1) (v.answerAt m.typeName (k - 1))
        (v.replyAt m.typeName (k - 1)) ∧
      (exec (deliver ws recipient m) v).1 = outcome (v.replyAt m.typeName (k - 1)) ∧
      (exec (deliver ws recipient m) v).2.sent = v.sent ++
        List.replicate k (requestRecord url ("Bearer " ++ ws.accessToken) (m.payload recipient)) ∧
      (exec (deliver ws recipient m) v).2.store = v.store := by
  have hrun := exec_deliver hcred hbase hattempts (by rw [hurl]; rfl) hauth hpayload
  have hn : 0 < (max 1 a).toNat := by omega
  obtain ⟨k, hk, hkn, hprev, hlast, hexec⟩ :=
    postTrying_attempts url ("Bearer " ++ ws.accessToken) (m.payload recipient) m.typeName _ v hn
  obtain ⟨hsent, hstore, -⟩ :=
    World.afterPost_iterate v m.typeName url ("Bearer " ++ ws.accessToken) (m.payload recipient) k
  refine ⟨k, hk, hkn, hprev, hlast, reads_replyOf _ _, ?_, ?_, ?_⟩
  · rw [hrun, hexec]
  · rw [hrun, hexec]
    exact hsent
  · rw [hrun, hexec]
    exact hstore

/-- A workspace that can send. -/
def sendingWorkspace : Workspace := { id := "ws_1", phoneId := "1001", accessToken := "TOKEN" }

/-- Three attempts allowed, against a server error and a rate limit before the plain success. -/
def retryingWorld : World :=
  { clock := ⟨0, 0, some 0⟩
    setup := { whatsapp := Config.whatsappDefaults.override [("send_attempts", .int 3)] }
    provider := [some (.respond 500 (.json (.dict []))), some (.respond 429 (.json (.dict [])))] }

theorem retryingSend_attempts :
    ∃ k, 0 < k ∧ k ≤ (max 1 3 : Int).toNat ∧
      (∀ i, i + 1 < k → retried (retryingWorld.replyAt "text" i) = true) ∧
      (k < (max 1 3 : Int).toNat → retried (retryingWorld.replyAt "text" (k - 1)) = false) ∧
      Reads (retryingWorld.providerCalls + (k - 1) + 1) (retryingWorld.answerAt "text" (k - 1))
        (retryingWorld.replyAt "text" (k - 1)) ∧
      (exec (deliver sendingWorkspace "+15550001" (.text "hi")) retryingWorld).1 =
        outcome (retryingWorld.replyAt "text" (k - 1)) ∧
      (exec (deliver sendingWorkspace "+15550001" (.text "hi")) retryingWorld).2.sent =
        retryingWorld.sent ++ List.replicate k (requestRecord
          "https://graph.facebook.com/v21.0/1001/messages" "Bearer TOKEN"
          ((Outbound.text "hi").payload "+15550001")) ∧
      (exec (deliver sendingWorkspace "+15550001" (.text "hi")) retryingWorld).2.store =
        retryingWorld.store := by
  have hurl : Net.normalize (dropEndOf "https://graph.facebook.com/v21.0" ['/'] ++ "/" ++
      sendingWorkspace.phoneId ++ "/messages") = .ok "https://graph.facebook.com/v21.0/1001/messages" := by
    have h : (Net.normalize (dropEndOf "https://graph.facebook.com/v21.0" ['/'] ++ "/" ++
        sendingWorkspace.phoneId ++ "/messages")).toOption =
          some "https://graph.facebook.com/v21.0/1001/messages" := by decide +kernel
    revert h
    cases Net.normalize _ <;> simp [Except.toOption]
  exact provider_send_attempts (by decide) rfl rfl hurl (by decide +kernel) (by decide +kernel)

/-- A success whose body is a list, not an object: reading it raises a missing attribute. -/
def listBodyWorld : World :=
  { clock := ⟨0, 0, some 0⟩, provider := [some (.respond 200 (.json (.list [.str "x"])))] }

/-- Under a success status, a body that is no object escapes as a missing attribute: the send
neither returns a receipt nor raises a refusal of the provider. -/
theorem listBody_escapes :
    (exec (deliver sendingWorkspace "+2348012345678" (.text "hi")) listBodyWorld).1 =
      .error (.noAttribute "'list' object has no attribute 'get'") := by
  have hurl : (Net.normalize (dropEndOf "https://graph.facebook.com/v21.0" ['/'] ++ "/" ++
      sendingWorkspace.phoneId ++ "/messages")).toOption =
        some "https://graph.facebook.com/v21.0/1001/messages" := by decide +kernel
  rw [exec_deliver (by decide) rfl rfl hurl (by decide +kernel) (by decide +kernel)]
  have hone : (max 1 (1 : Int)).toNat = 0 + 1 := by decide
  rw [hone, postTrying, exec_bind, exec_post]
  rfl

end Channel

end Autoresponder
