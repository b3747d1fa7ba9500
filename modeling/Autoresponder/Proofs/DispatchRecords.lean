import Autoresponder.Proofs.Effects

/-!
# What carrying out a rule sends and records

A run of the dispatcher is a short sequence of calls to the gateway, each answered with a receipt
or refused, with at most one record after the call that was taken (`Dispatched`): a rule sends
its text; an AI rule sends generated text and falls back to its prompt; a template rule sends
its template and falls back to its prompt as text. A run makes at most two calls.

When the collaborators answer (the generator with a text or a failure, every call of the gateway
with a receipt or a refusal, and the store by taking the record), every dispatch for a workspace
that can send returns such a run, and its outcome keeps the books (`Booked`): a message that went
out is one bot record naming the receipt of the call that took it, and nothing else changes the
store. A workspace that cannot send refuses every rule but a chatbot rule before any request or
write (`dispatch_bookkeeping`).
-/

namespace Autoresponder

open Autoresponder.Text Autoresponder.Op

/-! ### Calls to the gateway -/

/-- A call the dispatcher makes to the gateway: a text, or a template in a language. -/
inductive GatewayCall where
  | text (body : String)
  | template (name language : String)

namespace GatewayCall

/-- Makes the call for workspace `ws` to number `phone`. -/
def send (ws : Workspace) (phone : String) : GatewayCall → Op Value
  | .text body => Channel.sendText ws phone body
  | .template name language => Channel.sendTemplate ws phone name language

/-- Call `c`, made from world `v`, ended in world `v'` with answer `a`: a receipt naming the sent
message, or the text of a refusal. -/
def Answered (ws : Workspace) (phone : String) (c : GatewayCall) (v v' : World) :
    Except String String → Prop
  | .ok id => exec (Channel.attempt (c.send ws phone)) v = (.ok (.ok (.str id)), v')
  | .error msg => exec (Channel.attempt (c.send ws phone)) v = (.ok (.error msg), v')

theorem Answered.afterRequests {ws : Workspace} {phone : String} {c : GatewayCall} {v v' : World}
    {a : Except String String} (h : c.Answered ws phone v v' a) : AfterRequests v v' := by
  have hc : Keeps AfterRequests (Channel.attempt (c.send ws phone)) := by
    cases c with
    | text body => exact Channel.Keeps.attempt (Channel.afterRequests_sendText _ _ _)
    | template name language =>
      exact Channel.Keeps.attempt (Channel.afterRequests_sendTemplate _ _ _ _)
  cases a with
  | ok id => exact hc.of_run h
  | error msg => exact hc.of_run h

end GatewayCall

/-! ### Runs of the dispatcher -/

/-- Store `s'` is store `s` with one more message: a bot record on conversation `conv` of text
`text`, naming the provider's id `id`. -/
def OneBotRecord (conv : Conversation) (s s' : Store) (text id : String) : Prop :=
  ∃ m : Message, s' = { s with messages := s.messages ++ [m] } ∧ m.fromCustomer = false ∧
    m.isBot = true ∧ m.conversationId = conv.id ∧ m.message = text ∧ m.messageId = id

section Runs

variable (rule : Rule) (phone : String) (conv : Conversation) (ws : Workspace)

/-- Sending `body` as text from world `v`, with answer `a`, and recording it when it was taken. -/
inductive TextSent (body : String) (status : DispatchStatus) (error : String) (v : World) :
    World → Outcome → Except String String → Prop
  | refused {v' : World} {msg : String} :
      (GatewayCall.text body).Answered ws phone v v' (.error msg) →
      TextSent body status error v v' (Dispatch.nothing rule msg) (.error msg)
  | taken {v' w' : World} {id : String} {m : Message} :
      (GatewayCall.text body).Answered ws phone v v' (.ok id) →
      exec (Dispatch.record conv ws phone body (.str id)) v' = (.ok m, w') →
      TextSent body status error v w'
        { status, ruleId := rule.id, reply := some rule.reply, content := body,
          messageIds := [m.messageId], error } (.ok id)

/-- A run of the dispatcher for `rule` from world `w` to `w'` with outcome `o`, making the calls
`calls` to the gateway in order, each with its answer. -/
inductive Dispatched (w : World) : World → Outcome → List (GatewayCall × Except String String) →
    Prop
  /-- A chatbot rule sends nothing and names its chatbot. -/
  | chatbot : rule.reply = .chatbot →
      Dispatched w w { status := .chatbot, ruleId := rule.id, reply := some rule.reply,
                       chatbotId := rule.chatbotFlow } []
  /-- There was nothing to send. -/
  | idle {reason : String} : Dispatched w w (Dispatch.nothing rule reason) []
  /-- A text rule sends its text. -/
  | text {body : String} {w' : World} {o : Outcome} {a : Except String String} :
      rule.reply = .text → TextSent rule phone conv ws body .sent "" w w' o a →
      Dispatched w w' o [(.text body, a)]
  /-- An AI rule whose text could not be generated sends its prompt. -/
  | notGenerated {e : String} {v w' : World} {o : Outcome} {a : Except String String} :
      rule.reply = .ai → exec (generate (trim rule.aiPrompt)) w = (.ok (.error e), v) →
      TextSent rule phone conv ws (trim rule.aiPrompt) .fallbackSent e v w' o a →
      Dispatched w w' o [(.text (trim rule.aiPrompt), a)]
  /-- An AI rule whose generated text was refused sends its prompt. -/
  | generatedRefused {text e : String} {v v' w' : World} {o : Outcome} {a : Except String String} :
      rule.reply = .ai → exec (generate (trim rule.aiPrompt)) w = (.ok (.ok text), v) →
      (GatewayCall.text text).Answered ws phone v v' (.error e) →
      TextSent rule phone conv ws (trim rule.aiPrompt) .fallbackSent e v' w' o a →
      Dispatched w w' o [(.text text, .error e), (.text (trim rule.aiPrompt), a)]
  /-- An AI rule's generated text was taken. -/
  | generatedSent {text id : String} {v v' w' : World} {m : Message} :
      rule.reply = .ai → exec (generate (trim rule.aiPrompt)) w = (.ok (.ok text), v) →
      (GatewayCall.text text).Answered ws phone v v' (.ok id) →
      exec (Dispatch.record conv ws phone text (.str id)) v' = (.ok m, w') →
      Dispatched w w' { status := .sent, ruleId := rule.id, reply := some rule.reply,
                        content := text, messageIds := [m.messageId] } [(.text text, .ok id)]
  /-- A template rule without a template name sends its prompt. -/
  | unnamed {w' : World} {o : Outcome} {a : Except String String} :
      rule.reply = .template → trim rule.templateName = "" →
      TextSent rule phone conv ws (trim rule.aiPrompt) .fallbackSent "no template name" w w' o a →
      Dispatched w w' o [(.text (trim rule.aiPrompt), a)]
  /-- A template rule whose template was refused, with no prompt to fall back to. -/
  | templateRefused {e : String} {v : World} :
      rule.reply = .template →
      (GatewayCall.template (trim rule.templateName) w.setup.templateLanguage).Answered ws phone
        w v (.error e) →
      Dispatched w v (Dispatch.nothing rule e)
        [(.template (trim rule.templateName) w.setup.templateLanguage, .error e)]
  /-- A template rule whose template was refused sends its prompt. -/
  | templateFallback {e : String} {v w' : World} {o : Outcome} {a : Except String String} :
      rule.reply = .template →
      (GatewayCall.template (trim rule.templateName) w.setup.templateLanguage).Answered ws phone
        w v (.error e) →
      TextSent rule phone conv ws (trim rule.aiPrompt) .fallbackSent e v w' o a →
      Dispatched w w' o [(.template (trim rule.templateName) w.setup.templateLanguage, .error e),
        (.text (trim rule.aiPrompt), a)]
  /-- A template rule's template was taken. -/
  | templateSent {id : String} {v w' : World} {m : Message} :
      rule.reply = .template →
      (GatewayCall.template (trim rule.templateName) w.setup.templateLanguage).Answered ws phone
        w v (.ok id) →
      exec (Dispatch.record conv ws phone ("Template: " ++ trim rule.templateName) (.str id)
        "template") v = (.ok m, w') →
      Dispatched w w' { status := .sent, ruleId := rule.id, reply := some rule.reply,
                        content := trim rule.templateName, messageIds := [m.messageId] }
        [(.template (trim rule.templateName) w.setup.templateLanguage, .ok id)]

end Runs

/-! ### Collaborators that answer -/

/-- The generator answers the prompt of rule `rule` from world `w` with a text or a failure, never
a fault. -/
def GeneratorAnswers (rule : Rule) (w : World) : Prop :=
  ∃ r v, exec (generate (trim rule.aiPrompt)) w = (.ok r, v)

/-- The calls dispatching `rule` may make from world `w`: its prompt or its canned response as
text, the text generated from its prompt, and its template. -/
def MayCall (rule : Rule) (ws : Workspace) (w : World) : GatewayCall → Prop
  | .text body => body = trim rule.aiPrompt ∨
      (∃ mid, rule.materialId = some mid ∧
        exec (Dispatch.materialContent ws.id mid) w = (.ok body, w)) ∨
      ∃ v, exec (generate (trim rule.aiPrompt)) w = (.ok (.ok body), v)
  | .template name language => name = trim rule.templateName ∧ language = w.setup.templateLanguage

/-- Every call dispatching `rule` may make answers from every world that requests lead to from
`w`: with a receipt naming the sent message, or with a refusal. -/
def GatewayAnswers (rule : Rule) (ws : Workspace) (phone : String) (w : World) : Prop :=
  ∀ v, AfterRequests w v → ∀ c, MayCall rule ws w c → ∃ a v', c.Answered ws phone v v' a

/-- The store of world `w` takes a message with the id made next. -/
def StoreTakesNext (w : World) : Prop :=
  ∀ m : Message, (exec freshId w).1 = .ok m.id → ∃ s, w.store.createMessage m = .ok s

theorem StoreTakesNext.ne_error {w : World} (h : StoreTakesNext w) {m : Message} {e : Fault}
    (he : w.store.createMessage m = .error e) : (exec freshId w).1 ≠ .ok m.id := fun hid => by
  obtain ⟨s, hs⟩ := h m hid
  rw [hs] at he
  cases he

/-! ### The record of a call that was taken -/

theorem exec_freshId (v : World) :
    exec freshId v =
      (.ok ("f00d" ++ String.ofList ((hex16 (v.issued + 1)).toList.drop 4)),
        { v with issued := v.issued + 1 }) := rfl

/-- Recording a receipt from a world that requests led to succeeds when the store takes the
record. -/
theorem record_ok {w v : World} (hv : AfterRequests w v) (hstore : StoreTakesNext w)
    (conv : Conversation) (ws : Workspace) (phone body id kind : String) :
    ∃ m w', exec (Dispatch.record conv ws phone body (.str id) kind) v = (.ok m, w') := by
  unfold Dispatch.record keepMessage
  rw [exec_bind, exec_freshId]
  dsimp only
  rw [pure_bind, exec_now_bind, exec_bind, exec_changeStore]
  dsimp only
  rw [hv.store, hv.issued]
  split
  · exact ⟨_, _, rfl⟩
  · -- the store refused the record, whose id is the one made next
    rename_i hw
    split at hw
    · cases hw
    · rename_i e he
      exact absurd rfl (hstore.ne_error he)

/-- The record of a receipt is one bot record of the text, naming the receipt. -/
theorem record_oneBotRecord {conv : Conversation} {ws : Workspace} {phone body id kind : String}
    {v w' : World} {m : Message}
    (h : exec (Dispatch.record conv ws phone body (.str id) kind) v = (.ok m, w')) :
    OneBotRecord conv v.store w'.store body id ∧ m.messageId = id := by
  unfold Dispatch.record at h
  obtain ⟨_, _, _, hid, rfl, t, hstore⟩ := exec_keepMessage_ok h
  cases hid
  exact ⟨⟨_, hstore, rfl, rfl, rfl, rfl, rfl⟩, rfl⟩

/-! ### The books a run keeps -/

/-- The text recorded for outcome `o` of dispatching `rule`: a sent template is recorded under
its name, anything else by what was sent. -/
def Outcome.recordedText (rule : Rule) (o : Outcome) : String :=
  if o.status = .sent ∧ rule.reply = .template then "Template: " ++ o.content else o.content

/-- Outcome `o` of a run from `w` to `w'` making the calls `calls` keeps the books: a message that
went out is the one bot record of what was sent, naming the receipt of the last call; otherwise
the store is as it was and no message is named. The prompt goes out as a fallback only for an AI
or template rule, after every earlier call was refused. -/
structure Booked (rule : Rule) (conv : Conversation) (w w' : World) (o : Outcome)
    (calls : List (GatewayCall × Except String String)) : Prop where
  recorded : o.sent = true → ∃ id, o.messageIds = [id] ∧
    calls.getLast?.map Prod.snd = some (.ok id) ∧
    OneBotRecord conv w.store w'.store (o.recordedText rule) id
  unchanged : o.sent = false → w'.store = w.store ∧ o.messageIds = []
  fallback : o.status = .fallbackSent → o.content = trim rule.aiPrompt ∧ rule.reply ≠ .text ∧
    ∀ c ∈ calls.dropLast, ∃ e, c.2 = .error e

section Books

variable {rule : Rule} {phone : String} {conv : Conversation} {ws : Workspace} {w : World}

theorem Booked.unsent {w' : World} {o : Outcome} {calls : List (GatewayCall × Except String String)}
    (hsent : o.sent = false) (hstore : w'.store = w.store) (hids : o.messageIds = []) :
    Booked rule conv w w' o calls where
  recorded h := by rw [hsent] at h; cases h
  unchanged _ := ⟨hstore, hids⟩
  fallback h := by simp [Outcome.sent, h] at hsent

theorem Booked.of_record {v w' : World} {o : Outcome} {m : Message} {text id kind : String}
    {c : GatewayCall} (prev : List (GatewayCall × Except String String))
    (hv : AfterRequests w v)
    (hm : exec (Dispatch.record conv ws phone text (.str id) kind) v = (.ok m, w'))
    (hsent : o.sent = true) (htext : o.recordedText rule = text)
    (hids : o.messageIds = [m.messageId])
    (hfallback : o.status = .fallbackSent →
      o.content = trim rule.aiPrompt ∧ rule.reply ≠ .text ∧ ∀ c ∈ prev, ∃ e, c.2 = .error e) :
    Booked rule conv w w' o (prev ++ [(c, .ok id)]) where
  recorded _ := by
    obtain ⟨hrec, hid⟩ := record_oneBotRecord hm
    refine ⟨id, by rw [hids, hid], by simp, ?_⟩
    rw [htext, ← hv.store]
    exact hrec
  unchanged h := by rw [hsent] at h; cases h
  fallback h := by simpa using hfallback h

/-- Sending a text keeps the books, when a sent text is recorded as what it is and a fallback
follows refused calls. -/
theorem TextSent.booked {v w' : World} {body error : String} {status : DispatchStatus}
    {o : Outcome} {a : Except String String} (prev : List (GatewayCall × Except String String))
    (hv : AfterRequests w v) (ht : TextSent rule phone conv ws body status error v w' o a)
    (hstatus : (status = .sent ∧ rule.reply ≠ .template) ∨
      (status = .fallbackSent ∧ body = trim rule.aiPrompt ∧ rule.reply ≠ .text))
    (hprev : ∀ c ∈ prev, ∃ e, c.2 = .error e) :
    Booked rule conv w w' o (prev ++ [(.text body, a)]) := by
  cases ht with
  | refused ha => exact .unsent rfl (ha.afterRequests.store.trans hv.store) rfl
  | taken ha hm =>
    refine .of_record prev (trans_of AfterRequests hv ha.afterRequests) hm ?_ ?_ rfl ?_
    · rcases hstatus with ⟨rfl, -⟩ | ⟨rfl, -⟩ <;> rfl
    · rcases hstatus with ⟨rfl, htpl⟩ | ⟨rfl, -⟩
      · simp [Outcome.recordedText, htpl]
      · simp [Outcome.recordedText]
    · intro hfb
      rcases hstatus with ⟨rfl, -⟩ | ⟨-, rfl, hreply⟩
      · cases hfb
      · exact ⟨rfl, hreply, hprev⟩

theorem Dispatched.length_le {w' : World} {o : Outcome}
    {calls : List (GatewayCall × Except String String)}
    (h : Dispatched rule phone conv ws w w' o calls) : calls.length ≤ 2 := by
  cases h <;> simp

/-- Every run of the dispatcher keeps the books. -/
theorem Dispatched.booked {w' : World} {o : Outcome}
    {calls : List (GatewayCall × Except String String)}
    (h : Dispatched rule phone conv ws w w' o calls) : Booked rule conv w w' o calls := by
  cases h with
  | chatbot => exact .unsent rfl rfl rfl
  | idle => exact .unsent rfl rfl rfl
  | text htext ht =>
    exact TextSent.booked [] (refl_of _ w) ht (.inl ⟨rfl, by simp [htext]⟩) (by simp)
  | notGenerated hai hgen ht =>
    exact TextSent.booked [] ((afterRequests_generate _).of_run hgen) ht
      (.inr ⟨rfl, rfl, by simp [hai]⟩) (by simp)
  | generatedRefused hai hgen ha ht =>
    have hv := trans_of AfterRequests ((afterRequests_generate _).of_run hgen) ha.afterRequests
    exact TextSent.booked [(_, _)] hv ht (.inr ⟨rfl, rfl, by simp [hai]⟩)
      (by simp)
  | generatedSent hai hgen ha hm =>
    have hv := trans_of AfterRequests ((afterRequests_generate _).of_run hgen) ha.afterRequests
    exact Booked.of_record [] hv hm rfl (by simp [Outcome.recordedText, hai]) rfl
      (fun h => nomatch h)
  | unnamed htpl _ ht =>
    exact TextSent.booked [] (refl_of _ w) ht (.inr ⟨rfl, rfl, by simp [htpl]⟩) (by simp)
  | templateRefused _ ha => exact .unsent rfl ha.afterRequests.store rfl
  | templateFallback htpl ha ht =>
    exact TextSent.booked [(_, _)] ha.afterRequests ht
      (.inr ⟨rfl, rfl, by simp [htpl]⟩) (by simp)
  | templateSent htpl ha hm =>
    exact Booked.of_record [] ha.afterRequests hm rfl
      (by simp [Outcome.recordedText, htpl]) rfl (fun h => nomatch h)

end Books

/-! ### Every run is such a run -/

theorem exec_materialContent (workspaceId materialId : String) (w : World) :
    ∃ body, exec (Dispatch.materialContent workspaceId materialId) w = (.ok body, w) := by
  unfold Dispatch.materialContent
  rw [exec_store_bind]
  split <;> exact ⟨_, rfl⟩

section Collaborators

variable {rule : Rule} {phone : String} {conv : Conversation} {ws : Workspace} {w : World}

theorem sendText_run {v : World} (hv : AfterRequests w v) (hstore : StoreTakesNext w)
    {body : String} (hans : ∃ a v', (GatewayCall.text body).Answered ws phone v v' a)
    (status : DispatchStatus) (error : String) :
    ∃ o w' a, exec (Dispatch.sendText rule phone conv ws body status error) v = (.ok o, w') ∧
      TextSent rule phone conv ws body status error v w' o a := by
  obtain ⟨a, v', ha⟩ := hans
  cases a with
  | error msg =>
    have hsend : exec (Channel.attempt (Channel.sendText ws phone body)) v =
        (.ok (.error msg), v') := ha
    exact ⟨_, _, _, by rw [Dispatch.sendText, exec_bind, hsend]; rfl, .refused ha⟩
  | ok id =>
    have hsend : exec (Channel.attempt (Channel.sendText ws phone body)) v =
        (.ok (.ok (.str id)), v') := ha
    obtain ⟨m, w', hm⟩ :=
      record_ok (trans_of AfterRequests hv ha.afterRequests) hstore conv ws phone body id "text"
    refine ⟨_, _, _, ?_, .taken ha hm⟩
    rw [Dispatch.sendText, exec_bind, hsend]
    dsimp only
    rw [exec_bind, hm]
    rfl

theorem viaText_run (htext : rule.reply = .text) (hstore : StoreTakesNext w)
    (hgate : GatewayAnswers rule ws phone w) :
    ∃ o w' calls, exec (Dispatch.viaText rule phone conv ws) w = (.ok o, w') ∧
      Dispatched rule phone conv ws w w' o calls := by
  unfold Dispatch.viaText
  extract_lets body send
  have hSend : ∀ b, MayCall rule ws w (.text b) →
      ∃ o w' calls, exec (send () b) w = (.ok o, w') ∧
        Dispatched rule phone conv ws w w' o calls := by
    intro b hb
    simp only [send]
    split
    · exact ⟨_, _, _, rfl, .idle⟩
    · obtain ⟨o, w', a, hrun, hsent⟩ :=
        sendText_run (refl_of AfterRequests w) hstore (hgate w (refl_of _ w) _ hb) .sent ""
      exact ⟨_, _, _, hrun, .text htext hsent⟩
  -- the prompt, else the canned response the rule names
  split
  · split
    · rename_i mid hmid
      split
      · obtain ⟨b, hb⟩ := exec_materialContent ws.id mid w
        rw [exec_bind, hb]
        exact hSend b (.inr (.inl ⟨mid, hmid, hb⟩))
      · exact hSend _ (.inl rfl)
    · exact hSend _ (.inl rfl)
  · exact hSend _ (.inl rfl)

theorem viaAi_run (hai : rule.reply = .ai) (hgen : GeneratorAnswers rule w)
    (hstore : StoreTakesNext w) (hgate : GatewayAnswers rule ws phone w) :
    ∃ o w' calls, exec (Dispatch.viaAi rule phone conv ws) w = (.ok o, w') ∧
      Dispatched rule phone conv ws w w' o calls := by
  unfold Dispatch.viaAi
  dsimp only
  split
  · exact ⟨_, _, _, rfl, .idle⟩
  obtain ⟨r, v, hr⟩ := hgen
  have hv : AfterRequests w v := (afterRequests_generate _).of_run hr
  rw [exec_bind, hr]
  dsimp only
  cases r with
  | error e =>
    -- generation failed: the prompt goes instead
    obtain ⟨o, w', a, hrun, hsent⟩ :=
      sendText_run hv hstore (hgate v hv _ (.inl rfl)) .fallbackSent e
    exact ⟨_, _, _, hrun, .notGenerated hai hr hsent⟩
  | ok text =>
    obtain ⟨a, v', ha⟩ := hgate v hv (.text text) (.inr (.inr ⟨v, hr⟩))
    have hv' := trans_of AfterRequests hv ha.afterRequests
    cases a with
    | error e =>
      -- the generated text was refused: the prompt goes instead
      have hsend : exec (Channel.attempt (Channel.sendText ws phone text)) v =
          (.ok (.error e), v') := ha
      obtain ⟨o, w', a, hrun, hsent⟩ :=
        sendText_run hv' hstore (hgate v' hv' _ (.inl rfl)) .fallbackSent e
      refine ⟨_, _, _, ?_, .generatedRefused hai hr ha hsent⟩
      rw [exec_bind, hsend]
      exact hrun
    | ok id =>
      have hsend : exec (Channel.attempt (Channel.sendText ws phone text)) v =
          (.ok (.ok (.str id)), v') := ha
      obtain ⟨m, w', hm⟩ := record_ok hv' hstore conv ws phone text id "text"
      refine ⟨_, _, _, ?_, .generatedSent hai hr ha hm⟩
      rw [exec_bind, hsend]
      dsimp only
      rw [exec_bind, hm]
      rfl

theorem viaTemplate_run (htpl : rule.reply = .template) (hstore : StoreTakesNext w)
    (hgate : GatewayAnswers rule ws phone w) :
    ∃ o w' calls, exec (Dispatch.viaTemplate rule phone conv ws) w = (.ok o, w') ∧
      Dispatched rule phone conv ws w w' o calls := by
  unfold Dispatch.viaTemplate
  dsimp only
  split
  · rename_i hname
    split
    · exact ⟨_, _, _, rfl, .idle⟩
    · obtain ⟨o, w', a, hrun, hsent⟩ := sendText_run (refl_of AfterRequests w) hstore
        (hgate w (refl_of _ w) _ (.inl rfl)) .fallbackSent "no template name"
      exact ⟨_, _, _, hrun, .unnamed htpl (String.isEmpty_iff.mp hname) hsent⟩
  rw [exec_setup_bind]
  obtain ⟨a, v, ha⟩ := hgate w (refl_of _ w)
    (.template (trim rule.templateName) w.setup.templateLanguage) ⟨rfl, rfl⟩
  have hv := ha.afterRequests
  cases a with
  | error e =>
    have hsend : exec (Channel.attempt (Channel.sendTemplate ws phone (trim rule.templateName)
        w.setup.templateLanguage)) w = (.ok (.error e), v) := ha
    rw [exec_bind, hsend]
    dsimp only
    -- the template was refused: the prompt goes instead, if there is one
    split
    · exact ⟨_, _, _, rfl, .templateRefused htpl ha⟩
    · obtain ⟨o, w', a, hrun, hsent⟩ :=
        sendText_run hv hstore (hgate v hv _ (.inl rfl)) .fallbackSent e
      exact ⟨_, _, _, hrun, .templateFallback htpl ha hsent⟩
  | ok id =>
    have hsend : exec (Channel.attempt (Channel.sendTemplate ws phone (trim rule.templateName)
        w.setup.templateLanguage)) w = (.ok (.ok (.str id)), v) := ha
    obtain ⟨m, w', hm⟩ :=
      record_ok hv hstore conv ws phone ("Template: " ++ trim rule.templateName) id "template"
    refine ⟨_, _, _, ?_, .templateSent htpl ha hm⟩
    rw [exec_bind, hsend]
    dsimp only
    rw [exec_bind, hm]
    rfl

theorem dispatch_run (hcred : ws.hasCredentials = true) (hgen : GeneratorAnswers rule w)
    (hstore : StoreTakesNext w) (hgate : GatewayAnswers rule ws phone w) :
    ∃ o w' calls, exec (dispatch rule phone conv ws) w = (.ok o, w') ∧
      Dispatched rule phone conv ws w w' o calls := by
  unfold dispatch
  split
  · rename_i hchat
    exact ⟨_, _, _, rfl, .chatbot (beq_iff_eq.mp hchat)⟩
  rw [exec_bind, exec_lift, Channel.ensureCredentials_of_hasCredentials hcred]
  dsimp only
  split
  · rename_i hai
    exact viaAi_run hai hgen hstore hgate
  · rename_i htpl
    exact viaTemplate_run htpl hstore hgate
  · -- what is left is a text rule, the chatbot rule having returned
    rename_i hai htpl
    have htext : rule.reply = .text := by
      cases hr : rule.reply <;> simp_all
    exact viaText_run htext hstore hgate

/-- A workspace that cannot send refuses every rule but a chatbot rule with a configuration
fault, before any request or write. -/
theorem dispatch_without_credentials (hcred : ws.hasCredentials = false)
    (hchat : rule.reply ≠ .chatbot) :
    ∃ msg, exec (dispatch rule phone conv ws) w = (.error (.notConfigured msg), w) := by
  obtain ⟨msg, hmsg⟩ := Channel.ensureCredentials_of_not_hasCredentials hcred
  unfold dispatch
  rw [if_neg (by simpa using hchat), exec_bind, exec_lift, hmsg]
  exact ⟨msg, rfl⟩

end Collaborators

/-! ### A gateway with nothing scripted -/

namespace Channel

theorem exec_attempt_ok {α : Type} {x : Op α} {v v' : World} {a : α}
    (h : exec x v = (.ok a, v')) : exec (attempt x) v = (.ok (.ok a), v') := by
  rw [attempt, exec_tryCatch, exec_map, h]

/-- A delivery whose checks pass makes its requests: the address, the authorization and the body
are read from the setup and the workspace before any request. -/
theorem exec_deliver {v : World} {ws : Workspace} {recipient base url : String} {attempts : Int}
    {m : Outbound} (hcred : ws.hasCredentials = true)
    (hbase : v.setup.whatsapp.get "api_base" = .str base)
    (hattempts : (v.setup.whatsapp.get "send_attempts").toWhole = .ok attempts)
    (hurl : (Net.normalize (dropEndOf base ['/'] ++ "/" ++ ws.phoneId ++ "/messages")).toOption =
      some url)
    (hauth : asciiRefusal ("Bearer " ++ ws.accessToken) = none)
    (hpayload : utf8Refusal (Json.writeIn .compact (m.payload recipient)) = none) :
    exec (deliver ws recipient m) v = exec (postTrying url ("Bearer " ++ ws.accessToken)
      (m.payload recipient) m.typeName (max 1 attempts).toNat) v := by
  have hnorm : Net.normalize (dropEndOf base ['/'] ++ "/" ++ ws.phoneId ++ "/messages") =
      .ok url := by
    revert hurl
    cases Net.normalize (dropEndOf base ['/'] ++ "/" ++ ws.phoneId ++ "/messages") <;>
      simp [Except.toOption]
  rw [deliver, exec_bind, exec_lift, ensureCredentials_of_hasCredentials hcred]
  dsimp only
  rw [exec_setup_bind]
  simp only [hbase, hattempts, hnorm, hauth, hpayload, pure_bind, exec_bind, exec_lift]

theorem exec_sendTemplate {v : World} (ws : Workspace) (recipient name language : String)
    (hlanguage : language.isEmpty = false) :
    exec (sendTemplate ws recipient name language) v =
      exec (deliver ws recipient (.template name language)) v := by
  rw [sendTemplate, exec_setup_bind]
  simp [hlanguage]

/-- With no answers scripted, the provider takes the first request, and its receipt names the
request's number. -/
theorem exec_postTrying_plain {v : World} (hbyType : v.providerByType = [])
    (hscript : v.provider = []) (url auth : String) (payload : Value) (kind : String) (k : Nat) :
    ∃ v', exec (postTrying url auth payload kind (k + 1)) v =
      (.ok (.str ("wamid." ++ toString (v.providerCalls + 1))), v') := by
  have hnext : exec (nextAnswer kind) v = (.ok none, v) := by
    simp [nextAnswer, hbyType, hscript]
  rw [postTrying, exec_bind, post, exec_bind, hnext]
  exact ⟨_, rfl⟩

end Channel

/-! ### Carrying out a rule keeps the books -/

/-- For a workspace that can send, and a generator, gateway and store that answer, carrying out
a rule returns after at most two calls to the gateway, and its outcome keeps the books: a message
that went out is the one bot record of what was sent, naming the receipt of the call that took
it, and nothing else touches the store. For a workspace that cannot send, every rule but a
chatbot rule is refused with a configuration fault in the world as it was. -/
theorem dispatch_bookkeeping (rule : Rule) (phone : String) (conv : Conversation)
    (ws : Workspace) (w : World) :
    (ws.hasCredentials = true → GeneratorAnswers rule w → GatewayAnswers rule ws phone w →
      StoreTakesNext w →
      ∃ o w' calls, exec (dispatch rule phone conv ws) w = (.ok o, w') ∧
        Dispatched rule phone conv ws w w' o calls ∧ calls.length ≤ 2 ∧
        Booked rule conv w w' o calls) ∧
    (ws.hasCredentials = false → rule.reply ≠ .chatbot →
      ∃ msg, exec (dispatch rule phone conv ws) w = (.error (.notConfigured msg), w)) := by
  refine ⟨fun hcred hgen hgate hstore => ?_, dispatch_without_credentials⟩
  obtain ⟨o, w', calls, hrun, hd⟩ := dispatch_run hcred hgen hstore hgate
  exact ⟨o, w', calls, hrun, hd, hd.length_le, hd.booked⟩

/-! ### A shop whose collaborators answer -/

/-- A workspace that can send. -/
def shopWorkspace : Workspace := { id := "ws_2", phoneId := "2002", accessToken := "SHOP" }

/-- An AI rule with a prompt to generate from and to fall back on. -/
def greetingRule : Rule := { id := "7", reply := .ai, aiPrompt := "Say hello", tag := .welcome }

/-- A customer's conversation with the shop. -/
def shopConversation : Conversation :=
  { id := "c_1", workspaceId := "ws_2", phone := "15550002", createdAt := ⟨0, 0, some 0⟩,
    updatedAt := ⟨0, 0, some 0⟩ }

/-- The default setup, an empty store in memory, a provider with nothing scripted and the
generator's plain reply. -/
def shopWorld : World := { clock := ⟨0, 0, some 0⟩ }

theorem shopGenerator_answers : GeneratorAnswers greetingRule shopWorld := by
  have hok : (exec (generate (trim greetingRule.aiPrompt)) shopWorld).1.toBool = true := by
    decide +kernel
  rcases hrun : exec (generate (trim greetingRule.aiPrompt)) shopWorld with ⟨_ | r, v⟩
  · rw [hrun] at hok
    cases hok
  · exact ⟨r, v, hrun⟩

theorem shopStore_takes : StoreTakesNext shopWorld := fun _ _ => ⟨_, rfl⟩

/-- The gateway takes every call the greeting rule may make, from every world requests lead to:
each goes to the default address and is the first request the provider is asked. -/
theorem shopGateway_answers : GatewayAnswers greetingRule shopWorkspace "15550002" shopWorld := by
  intro v hv c hc
  have hsetup : v.setup = {} := hv.setup
  have hscript : v.provider = [] := by
    obtain ⟨k, hk⟩ := hv.script
    rw [hk]
    exact List.drop_nil
  have hsend : ∀ m : Channel.Outbound,
      utf8Refusal (Json.writeIn .compact (m.payload "15550002")) = none →
      ∃ v', exec (Channel.deliver shopWorkspace "15550002" m) v =
        (.ok (.str ("wamid." ++ toString (v.providerCalls + 1))), v') := by
    intro m hm
    have hcred : shopWorkspace.hasCredentials = true := by decide +kernel
    have hbase : v.setup.whatsapp.get "api_base" = .str "https://graph.facebook.com/v21.0" := by
      rw [hsetup]
      rfl
    have hattempts : (v.setup.whatsapp.get "send_attempts").toWhole = .ok 1 := by
      rw [hsetup]
      rfl
    have hurl : (Net.normalize (dropEndOf "https://graph.facebook.com/v21.0" ['/'] ++ "/" ++
        shopWorkspace.phoneId ++ "/messages")).toOption =
          some "https://graph.facebook.com/v21.0/2002/messages" := by decide +kernel
    have hauth : asciiRefusal ("Bearer " ++ shopWorkspace.accessToken) = none := by decide +kernel
    rw [Channel.exec_deliver hcred hbase hattempts hurl hauth hm]
    exact Channel.exec_postTrying_plain hv.byType hscript _ _ _ _ 0
  cases c with
  | text body =>
    -- the prompt, or the generator's plain reply
    have hm : utf8Refusal (Json.writeIn .compact ((Channel.Outbound.text body).payload
        "15550002")) = none := by
      rcases hc with rfl | ⟨mid, hmid, -⟩ | ⟨v₀, hgen⟩
      · decide +kernel
      · cases hmid
      · have hreply : ((exec (generate (trim greetingRule.aiPrompt)) shopWorld).1.toOption.bind
            Except.toOption) = some "Generated reply" := by decide +kernel
        rw [hgen] at hreply
        cases hreply
        decide +kernel
    obtain ⟨v', hv'⟩ := hsend _ hm
    exact ⟨.ok _, v', Channel.exec_attempt_ok hv'⟩
  | template name language =>
    obtain ⟨rfl, rfl⟩ := hc
    obtain ⟨v', hv'⟩ := hsend (.template (trim greetingRule.templateName) "en") (by decide +kernel)
    exact ⟨.ok _, v', Channel.exec_attempt_ok
      (by rw [GatewayCall.send, Channel.exec_sendTemplate _ _ _ _ (by decide +kernel)]; exact hv')⟩

theorem greeting_dispatch_booked :
    ∃ o w' calls, exec (dispatch greetingRule "15550002" shopConversation shopWorkspace)
        shopWorld = (.ok o, w') ∧
      Dispatched greetingRule "15550002" shopConversation shopWorkspace shopWorld w' o calls ∧
      calls.length ≤ 2 ∧ Booked greetingRule shopConversation shopWorld w' o calls :=
  (dispatch_bookkeeping greetingRule "15550002" shopConversation shopWorkspace shopWorld).1 rfl
    shopGenerator_answers shopGateway_answers shopStore_takes

end Autoresponder
