import Autoresponder.Proofs.FlowRoutes

/-!
# The records of a traversal's sends

Carrying out a traversal sends each of its nodes in turn, and each send is recorded as a
message of the bot whether the provider took it or refused it. The records the store gains
are the sends the result reports, one for one and in order, but for API calls, which are
reported and not recorded (`emission_bookkeeping`). A record carries its report's kind, is
sent exactly when the report is ok, and keeps the provider's id, which is empty for a send
that failed (`Emitted.Recorded`).

What a node sends is fixed by the node alone (`Node.sendKinds`): at most one first send (a
template, options as buttons or a list, options as a numbered text, or media); then its
call-to-action button when it has one; then its text, when neither of those carried it and it
is not blank; then its location; then its API call.
-/

namespace Autoresponder.Flow

open Autoresponder.Text Autoresponder.Op Autoresponder.Channel

/-! ### What a node sends -/

/-- The kind of a node's first send: its template; its options as buttons or a list, when the
node shows buttons and has one to ten of them; its options as a numbered text; or its media.
None when the node has none of these. -/
def Node.primaryKind? (node : Node) : Option String :=
  let interactive := node.kind == .buttonMessage || node.kind == .interactive
  if node.kind == .template then some "template"
  else if interactive && 0 < node.children.length && node.children.length ≤ maxRows then
    some "interactive"
  else if (node.kind == .optionMessage || interactive) && !node.children.isEmpty then some "text"
  else if mediaKinds.contains node.fileType && !node.link.isEmpty then some node.fileType
  else none

/-- The kinds of the reports of sending a node, in order. -/
def Node.sendKinds (node : Node) : List String :=
  node.primaryKind?.toList ++ (if node.cta.isSome then ["cta"] else []) ++
    (if node.primaryKind?.isNone && node.cta.isNone && !(trim node.message).isEmpty then ["text"]
      else []) ++
    (if node.location.isSome then ["location"] else []) ++
    (if node.api.isSome then ["api"] else [])

/-! ### Records and reports -/

/-- The record a send left, as its report tells it: a message of the bot, not of the customer,
of the report's kind, sent exactly when the report is ok, with the report's provider id, which
is empty when the send failed. -/
structure Emitted.Recorded (e : Emitted) (m : Message) : Prop where
  isBot : m.isBot = true
  fromCustomer : m.fromCustomer = false
  kind : m.kind = e.kind
  sent : m.status = "sent" ↔ e.ok = true
  messageId : m.messageId = e.messageId
  failed : e.ok = false → e.messageId = ""

/-- The reports that leave a record: all but API calls. -/
def recordedOf (out : List Emitted) : List Emitted := out.filter (·.kind != "api")

/-- From world `w` to world `w'` the messages grew by one record for each report of `out` that
is not an API call, in order. -/
def RecordsOf (out : List Emitted) (w w' : World) : Prop :=
  ∃ recs, w'.store.messages = w.store.messages ++ recs ∧
    List.Forall₂ Emitted.Recorded (recordedOf out) recs

theorem RecordsOf.append {o₁ o₂ : List Emitted} {w w₁ w₂ : World} (h₁ : RecordsOf o₁ w w₁)
    (h₂ : RecordsOf o₂ w₁ w₂) : RecordsOf (o₁ ++ o₂) w w₂ := by
  obtain ⟨recs₁, hm₁, hr₁⟩ := h₁
  obtain ⟨recs₂, hm₂, hr₂⟩ := h₂
  refine ⟨recs₁ ++ recs₂, by rw [hm₂, hm₁, List.append_assoc], ?_⟩
  rw [recordedOf, List.filter_append]
  exact List.rel_append hr₁ hr₂

/-- Reports with nothing to record, over a run that left the messages alone. -/
theorem RecordsOf.of_unrecorded {out : List Emitted} {w w' : World}
    (hout : recordedOf out = []) (hm : w'.store.messages = w.store.messages) :
    RecordsOf out w w' :=
  ⟨[], by rw [hm, List.append_nil], by rw [hout]; exact List.Forall₂.nil⟩

/-- Sending some messages of `node` from world `w` to world `w'` gave the reports `out`: all
under the node, of the kinds `ks` in order, and recorded. -/
structure Sent (node : Node) (ks : List String) (out : List Emitted) (w w' : World) : Prop where
  kinds : out.map (·.kind) = ks
  under : UnderNode node out
  records : RecordsOf out w w'

theorem Sent.nil (node : Node) {w w' : World} (hm : w'.store.messages = w.store.messages) :
    Sent node [] [] w w' :=
  ⟨rfl, fun _ h => (nomatch h), .of_unrecorded rfl hm⟩

theorem Sent.append {node : Node} {ks₁ ks₂ : List String} {o₁ o₂ : List Emitted}
    {w w₁ w₂ : World} (h₁ : Sent node ks₁ o₁ w w₁) (h₂ : Sent node ks₂ o₂ w₁ w₂) :
    Sent node (ks₁ ++ ks₂) (o₁ ++ o₂) w w₂ := by
  refine ⟨by rw [List.map_append, h₁.kinds, h₂.kinds], fun e he => ?_,
    h₁.records.append h₂.records⟩
  rcases List.mem_append.mp he with he | he
  · exact h₁.under e he
  · exact h₂.under e he

/-! ### One send -/

/-- A send of a node is reported under the node with its kind, and recorded. -/
theorem deliver_sent {node : Node} {conv : Conversation} {ws : Workspace} {kind text : String}
    {send : Op Value} {link fileType : String} (hsend : Keeps Untouched send)
    (hkind : kind ≠ "api") {w w' : World} {e : Emitted}
    (h : exec (deliver node conv ws kind text send link fileType) w = (.ok e, w')) :
    Sent node [kind] [e] w w' := by
  unfold deliver at h
  obtain ⟨r, w₁, hattempt, h⟩ := exec_bind_ok h
  have hw₁ : Untouched w w₁ := (Channel.Keeps.attempt hsend).of_run hattempt
  extract_lets record at h
  -- the record of a receipt or of a failure: the receipt is empty exactly when the send failed
  have hrecord : ∀ receipt error, (error ≠ "" → receipt = .str "") →
      exec (record (receipt, error)) w₁ = (.ok e, w') → Sent node [kind] [e] w w' := by
    intro receipt error hfail hrun
    simp only [record] at hrun
    obtain ⟨m, w₂, hkeep, hpure⟩ := exec_bind_ok hrun
    obtain ⟨rfl, rfl⟩ := exec_pure_ok hpure
    obtain ⟨_, messageId, _, hpid, rfl, t, hstore⟩ := exec_keepMessage_ok hkeep
    have hne : kind != "api" := by simpa using hkind
    refine ⟨rfl, fun x hx => by rw [List.mem_singleton.mp hx], _, by rw [hstore, hw₁.store], ?_⟩
    simp only [recordedOf, List.filter_cons, hne, if_true, List.filter_nil]
    refine List.Forall₂.cons ⟨rfl, rfl, rfl, ?_, rfl, fun hok => ?_⟩ List.Forall₂.nil
    · cases error.isEmpty <;> simp
    · have herror : error ≠ "" := by simpa using hok
      simpa [hfail herror] using hpid
  split at h
  · exact hrecord _ "" (fun h => absurd rfl h) (by rwa [pure_bind] at h)
  · exact hrecord (.str "") _ (fun _ => rfl) (by rwa [pure_bind] at h)

/-! ### One node -/

section Node

variable {node : Node} {conv : Conversation} {ws : Workspace}

/-- The kinds a node's sends take after its first send, when `consumed` says whether a send
has carried its text so far. -/
def Node.laterKinds (node : Node) (consumed : Bool) : List String :=
  (if node.cta.isSome then ["cta"] else []) ++
    (if !(consumed || node.cta.isSome) && !(trim node.message).isEmpty then ["text"] else []) ++
    (if node.location.isSome then ["location"] else []) ++
    (if node.api.isSome then ["api"] else [])

theorem Node.sendKinds_eq (node : Node) :
    node.sendKinds = node.primaryKind?.toList ++ node.laterKinds node.primaryKind?.isSome := by
  unfold Node.sendKinds Node.laterKinds
  cases node.primaryKind? <;> cases node.cta <;> simp

/-- Continued from any reports `o`, the rest `k` of a node's sends appends reports of the kinds
`ks` to them, under the node and recorded. -/
def AddsSends (node : Node) (ks : List String) (k : List Emitted → Op (List Emitted × Value)) :
    Prop :=
  ∀ o v r v', exec (k o) v = (.ok r, v') → ∃ more, r.1 = o ++ more ∧ Sent node ks more v v'

/-- One send of the node, then the rest: the send's report comes first. -/
theorem AddsSends.deliver_then {ks : List String} {k : List Emitted → Op (List Emitted × Value)}
    {kind said : String} {send : Op Value} {link fileType : String} (hk : AddsSends node ks k)
    (hsend : Keeps Untouched send) (hkind : kind ≠ "api") :
    AddsSends node (kind :: ks) fun o =>
      deliver node conv ws kind said send link fileType >>= fun e => k (o ++ [e]) := by
  intro o v r v' hrun
  obtain ⟨e, v₁, hdel, hrest⟩ := exec_bind_ok hrun
  obtain ⟨more, hr, hmore⟩ := hk _ _ _ _ hrest
  refine ⟨e :: more, by rw [hr, List.append_assoc, List.singleton_append], ?_⟩
  exact (deliver_sent hsend hkind hdel).append hmore

/-- Sending a node reports its sends under the node, in the order `Node.sendKinds` gives, and
records each of them but its API call. -/
theorem emit_sent {context : Value} {w w' : World} {r : List Emitted × Value}
    (h : exec (emit node conv ws context) w = (.ok r, w')) :
    Sent node node.sendKinds r.1 w w' := by
  unfold emit at h
  extract_lets phone body out consumed interactive vars finish withApi withLocation withText
    withCta name options text unconsumed at h
  -- Each join point takes the reports so far and adds its own sends; the facts below give the
  -- kinds it adds, from the last join point back to the first.
  have hApi : AddsSends node (if node.api.isSome then ["api"] else []) (withApi ()) := by
    intro o v r v' hrun
    simp only [withApi] at hrun
    split at hrun
    · rename_i api hapi
      obtain ⟨res, v₁, hcall, hfin⟩ := exec_bind_ok hrun
      obtain ⟨rfl, rfl⟩ := exec_pure_ok hfin
      have hv₁ := (keeps_apiRun api vars).of_run hcall
      refine ⟨_, rfl, ?_⟩
      simp only [hapi, Option.isSome_some, if_true]
      exact ⟨rfl, fun x hx => by rw [List.mem_singleton.mp hx],
        .of_unrecorded (by simp [recordedOf]) (by rw [hv₁.store])⟩
    · rename_i hnone
      obtain ⟨rfl, rfl⟩ := exec_pure_ok hrun
      have hapi : node.api = none := Option.eq_none_iff_forall_ne_some.mpr hnone
      exact ⟨[], (List.append_nil o).symm, by simpa [hapi] using Sent.nil node rfl⟩
  have hLocation : AddsSends node ((if node.location.isSome then ["location"] else []) ++
      (if node.api.isSome then ["api"] else [])) (withLocation ()) := by
    intro o v r v' hrun
    simp only [withLocation] at hrun
    split at hrun
    · rename_i place hplace
      have hsend := hApi.deliver_then (keeps_sendLocation _ _ _) (by decide) o v r v' hrun
      simpa [hplace] using hsend
    · rename_i hnone
      have hloc : node.location = none := Option.eq_none_iff_forall_ne_some.mpr hnone
      simpa [hloc] using hApi o v r v' hrun
  have hText : ∀ c, AddsSends node ((if !c && !(trim node.message).isEmpty then ["text"] else []) ++
      (if node.location.isSome then ["location"] else []) ++
      (if node.api.isSome then ["api"] else [])) (fun o => withText () o c) := by
    intro c o v r v' hrun
    simp only [withText] at hrun
    split at hrun
    · rename_i hsay
      have hsend := hLocation.deliver_then (keeps_sendText _ _ _) (by decide) o v r v' hrun
      have hsay' : (!c && !(trim node.message).isEmpty) = true := hsay
      simpa [hsay', List.append_assoc] using hsend
    · rename_i hquiet
      have hquiet' : (!c && !(trim node.message).isEmpty) = false := by simpa using hquiet
      simpa [hquiet', List.append_assoc] using hLocation o v r v' hrun
  have hCta : ∀ c, AddsSends node (node.laterKinds c) (fun o => withCta () o c) := by
    intro c o v r v' hrun
    simp only [withCta] at hrun
    split at hrun
    · rename_i cta hcta
      -- after the button the text counts as carried
      have hsend := (hText true).deliver_then (keeps_sendCta _ _ _ _) (by decide) o v r v' hrun
      simpa [Node.laterKinds, hcta, List.append_assoc] using hsend
    · rename_i hnone
      have hcta : node.cta = none := Option.eq_none_iff_forall_ne_some.mpr hnone
      simpa [Node.laterKinds, hcta, List.append_assoc] using hText c o v r v' hrun
  -- the first send: its kind, then the later sends with the text carried
  have hFirst : ∀ kind said {send : Op Value} {link fileType : String}, Keeps Untouched send →
      kind ≠ "api" → node.primaryKind? = some kind →
      exec (deliver node conv ws kind said send link fileType >>= fun e =>
        withCta () (out ++ [e]) consumed) w = (.ok r, w') → Sent node node.sendKinds r.1 w w' := by
    intro kind said send link fileType hsend hkind hprimary hrun
    obtain ⟨more, hr, hmore⟩ := ((hCta consumed).deliver_then hsend hkind) out w r w' hrun
    rw [hr, Node.sendKinds_eq, hprimary]
    exact hmore
  simp only [interactive] at h
  split at h
  · rename_i htemplate
    exact hFirst "template" _ (keeps_sendTemplate _ _ _ _) (by decide)
      (by simp [Node.primaryKind?, htemplate]) h
  split at h
  · rename_i htemplate hchoices
    exact hFirst "interactive" _ (keeps_sendChoices _ _ _ _) (by decide)
      (by simp only [Node.primaryKind?]; rw [if_neg htemplate, if_pos hchoices]) h
  split at h
  · rename_i htemplate hchoices hmenu
    exact hFirst "text" _ (keeps_sendText _ _ _) (by decide)
      (by simp only [Node.primaryKind?]; rw [if_neg htemplate, if_neg hchoices, if_pos hmenu]) h
  split at h
  · rename_i htemplate hchoices hmenu hmedia
    -- a media kind is one of four names, none of them an API call
    have hkind : node.fileType ≠ "api" := by
      intro hapi
      simp [hapi, mediaKinds] at hmedia
    exact hFirst node.fileType _ (keeps_sendMedia _ _ _ _ _) hkind
      (by simp only [Node.primaryKind?]; rw [if_neg htemplate, if_neg hchoices, if_neg hmenu,
        if_pos hmedia]) h
  · rename_i htemplate hchoices hmenu hmedia
    obtain ⟨more, hr, hmore⟩ := hCta _ _ _ _ _ h
    have hnone : node.primaryKind? = none := by
      simp only [Node.primaryKind?]
      rw [if_neg htemplate, if_neg hchoices, if_neg hmenu, if_neg hmedia]
    rw [hr, Node.sendKinds_eq, hnone]
    simpa [out, unconsumed] using hmore

end Node

/-! ### A traversal -/

/-- The reports `groups` are, node by node, what the nodes send: one group per node, in order,
each under its node and of the kinds the node sends. -/
def SentByNode (nodes : List Node) (groups : List (List Emitted)) : Prop :=
  List.Forall₂ (fun node out => out.map (·.kind) = node.sendKinds ∧ UnderNode node out) nodes groups

/-- Emission bookkeeping. Whatever the route, the provider's answer to each send and the
answers of the API calls, a traversal carried out to its end leaves one record in the store for
each send it reports but its API calls, in order (`Emitted.Recorded`): a message of the bot, of
the send's kind, sent exactly when the send is reported ok, with the reported provider id, which
is empty for a failed send. The reports are, node by node in the route's order, the sends each
node calls for (`Node.sendKinds`). -/
theorem emission_bookkeeping (conv : Conversation) (ws : Workspace) (bot : Chatbot)
    (t : Traversal) (now : Time.Stamp) (context : Value) (w w' : World) (r : FlowResult)
    (h : exec (execute conv ws bot t now context) w = (.ok r, w')) :
    RecordsOf r.emitted w w' ∧ ∃ groups, r.emitted = groups.flatten ∧ SentByNode t.emitted groups := by
  unfold execute at h
  obtain ⟨u, w₁, hcred, h⟩ := exec_bind_ok h
  rw [exec_lift, Prod.mk.injEq] at hcred
  obtain ⟨-, rfl⟩ := hcred
  extract_lets emitted₀ context₀ at h
  obtain ⟨st, w₂, hloop, h⟩ := exec_bind_ok h
  -- the loop: by induction on the route, with the reports so far and the world as they grow
  obtain ⟨groups, hst, hgroups, hrec⟩ : ∃ groups, st.1 = emitted₀ ++ groups.flatten ∧
      SentByNode t.emitted groups ∧ RecordsOf groups.flatten w w₂ := by
    clear_value emitted₀ context₀
    clear * - hloop
    generalize t.emitted = nodes at hloop ⊢
    induction nodes generalizing emitted₀ context₀ w with
    | nil =>
      rw [List.forIn_nil, exec_pure, Prod.mk.injEq, Except.ok.injEq] at hloop
      obtain ⟨rfl, rfl⟩ := hloop
      exact ⟨[], by simp, List.Forall₂.nil, .of_unrecorded rfl rfl⟩
    | cons node nodes ih =>
      rw [List.forIn_cons] at hloop
      obtain ⟨step, v, hstep, hrest⟩ := exec_bind_ok hloop
      obtain ⟨x, v₁, hemit, hpure⟩ := exec_bind_ok hstep
      obtain ⟨out, ctx⟩ := x
      obtain ⟨rfl, rfl⟩ := exec_pure_ok hpure
      have hnode := emit_sent hemit
      obtain ⟨groups, hst, hgroups, hrec⟩ := ih _ (emitted₀ ++ out) ctx hrest
      exact ⟨out :: groups, by simp [hst], .cons ⟨hnode.kinds, hnode.under⟩ hgroups,
        hnode.records.append hrec⟩
  extract_lets emitted finish at h
  have hfinish : ∀ u v, exec (finish u) v = (.ok r, w') → r.emitted = st.1 ∧ w' = v := by
    intro u v hrun
    obtain ⟨rfl, rfl⟩ := exec_pure_ok hrun
    exact ⟨rfl, rfl⟩
  -- waiting, completing or handing off patches the conversation and leaves the messages alone
  obtain ⟨hr, hmessages⟩ : r.emitted = st.1 ∧ w'.store.messages = w₂.store.messages := by
    split at h
    · obtain ⟨micros, v₁, hmicros, h⟩ := exec_bind_ok h
      rw [exec_timeoutMicros, Prod.mk.injEq] at hmicros
      obtain ⟨-, rfl⟩ := hmicros
      obtain ⟨expiry, -, h⟩ := exec_lift_bind_ok h
      rw [exec_store_bind, exec_now_bind] at h
      obtain ⟨res, hupdate, h⟩ := exec_lift_bind_ok h
      obtain ⟨c, s⟩ := res
      obtain ⟨u, v₂, hset, h⟩ := exec_bind_ok h
      rw [exec_setStore, Prod.mk.injEq] at hset
      obtain ⟨-, rfl⟩ := hset
      obtain ⟨hr, rfl⟩ := hfinish u _ h
      rw [Store.updateConversation_eq _ _ _ _ rfl, Except.ok.injEq, Prod.mk.injEq] at hupdate
      obtain ⟨-, rfl⟩ := hupdate
      exact ⟨hr, Store.patched_messages _ _ _⟩
    · obtain ⟨u, v₁, hclear, h⟩ := exec_bind_ok h
      obtain ⟨c, hc⟩ := exec_discard_ok hclear
      obtain ⟨q, -, c', -, hrun⟩ := exec_clear conv .opened true w₂
      rw [hrun, Prod.mk.injEq] at hc
      obtain ⟨-, rfl⟩ := hc
      obtain ⟨hr, rfl⟩ := hfinish u _ h
      exact ⟨hr, Store.patched_messages _ _ _⟩
    · obtain ⟨u, v₁, hclear, h⟩ := exec_bind_ok h
      obtain ⟨c, hc⟩ := exec_discard_ok hclear
      obtain ⟨q, -, c', -, hrun⟩ := exec_clear conv .closed false w₂
      rw [hrun, Prod.mk.injEq] at hc
      obtain ⟨-, rfl⟩ := hc
      obtain ⟨hr, rfl⟩ := hfinish u _ h
      exact ⟨hr, Store.patched_messages _ _ _⟩
  have hsent : r.emitted = groups.flatten := by
    rw [hr, hst]
    simp [emitted₀]
  refine ⟨?_, groups, hsent, hgroups⟩
  rw [hsent, ← List.append_nil groups.flatten]
  exact hrec.append (.of_unrecorded rfl hmessages)

/-- A run that returns `a` is `(.ok a, world)`. Stated of any pair, so that splitting a closed
run does not evaluate the run again. -/
theorem pair_eq_ok_of_toOption {ε α σ : Type} {p : Except ε α × σ} {a : α}
    (h : p.1.toOption = some a) : p = (.ok a, p.2) :=
  Prod.ext (Except.eq_ok_of_toOption h) rfl

/-- A node that says hello. -/
def helloNode : Node := { nodeId := "hello", kind := .text, message := "Hello" }

/-- A node whose text goes out on a call-to-action button. -/
def shopLinkNode : Node :=
  { nodeId := "link", kind := .text, message := "Our shop",
    cta := some { buttonText := "Open", url := "https://example.com" } }

/-- A workspace that can send. -/
def shopWorkspace : Workspace := { id := "ws_1", phoneId := "1001", accessToken := "TOKEN" }

/-- Noon on Monday 19 October 2026, at UTC. -/
def shopNoon : Time.Stamp := ⟨20745, 43200000000, some 0⟩

/-- A conversation of the workspace. -/
def shopConversation : Conversation :=
  { id := "conv_1", workspaceId := "ws_1", phone := "15550001", createdAt := shopNoon,
    updatedAt := shopNoon }

/-- A route through the two nodes that completes the flow. -/
def shopRoute : Traversal := { outcome := .completed, emitted := [helloNode, shopLinkNode] }

/-- A world where the provider takes the first send and refuses the second. -/
def shopWorld : World :=
  { clock := shopNoon, store := { conversations := [shopConversation] },
    provider := [none, some (.respond 400 (.json (.dict [("error", .dict [("message", .str "Bad")])])))] }

/-- The run of the route in that world. -/
def shopRun : Except Fault FlowResult × World :=
  exec (execute shopConversation shopWorkspace { id := "bot1", workspaceId := "ws_1" } shopRoute
    shopNoon (.dict [])) shopWorld

/-- What the run returns. -/
def shopResult : FlowResult := shopRun.1.toOption.getD default

/-- The route's run ends, the hello sent and the button refused, and its records are its
reports. -/
theorem shopRoute_booked :
    exec (execute shopConversation shopWorkspace { id := "bot1", workspaceId := "ws_1" } shopRoute
      shopNoon (.dict [])) shopWorld = (.ok shopResult, shopRun.2) ∧
    shopResult.emitted.map (fun e => (e.kind, e.ok)) = [("text", true), ("cta", false)] ∧
    RecordsOf shopResult.emitted shopWorld shopRun.2 ∧
    ∃ groups, shopResult.emitted = groups.flatten ∧ SentByNode shopRoute.emitted groups := by
  -- one evaluation of the run gives both that it ends and what it reports
  obtain ⟨hsome, hkinds⟩ : shopRun.1.toOption.isSome = true ∧
      shopResult.emitted.map (fun e => (e.kind, e.ok)) = [("text", true), ("cta", false)] := by
    decide +kernel
  have hok : shopRun.1.toOption = some shopResult := by
    simp only [shopResult]
    revert hsome
    cases shopRun.1.toOption <;> simp
  have hrun : shopRun = (.ok shopResult, shopRun.2) := pair_eq_ok_of_toOption hok
  exact ⟨hrun, hkinds, emission_bookkeeping _ _ _ _ _ _ _ _ _ hrun⟩

end Autoresponder.Flow
