import Autoresponder.Proofs.SettingsDocument
import Autoresponder.Proofs.ConversationStore

/-!
# The two stores agree

The in-memory store and the database store implement one contract. Here the contract is a
list of calls (`Store.Call`), each answered by `Call.run`, and the main statement,
`backends_agree`, says that a fresh in-memory store and a fresh database store give the same
answer to every call of a run that avoids the places where the two differ.

Besides the differences the stores document (unknown conversation fields, two messages with
one provider id, two conversations of one customer, a repeated id, times that are not UTC, and
the statistics, which are no call here), they differ in five more places, and a fair run
(`FairRun`) avoids those too:

* reading messages oldest first with a limit of zero gives all of them in memory and none from
  the database, and a negative limit counts from the other end in memory only;
* the in-memory phone index keys a customer by `workspace:phone`, so a workspace id with a
  colon can make two customers share a key;
* the phone index keeps a conversation under the phone it was created with, so an update that
  moves a conversation to another phone loses it in memory;
* the database keeps the workspace of a canned response or team member stored again;
* the database creates a workspace when settings are saved for an unknown one.

The proof is a simulation. `Store.asDatabase` is the database store holding the same records as
an in-memory one; every fair call made on both keeps them so (`run_asDatabase`), as long as
the in-memory store is well indexed (`Indexed`), which every call keeps (`Indexed.run`).
-/

namespace Autoresponder

open Autoresponder.Time

/-! ## Times kept in UTC -/

/-- A time given in UTC, the only kind the database gives back unchanged. -/
def Time.Stamp.Utc (t : Stamp) : Prop := t.offset = some 0

theorem Time.Stamp.keptAsUtc_of_utc {t : Stamp} (h : t.Utc) : t.keptAsUtc = t := by
  cases t
  simp only [Stamp.Utc] at h
  simp [Stamp.keptAsUtc, h]

/-- A conversation whose times are all given in UTC. -/
def Conversation.Utc (c : Conversation) : Prop :=
  c.createdAt.Utc ∧ c.updatedAt.Utc ∧ ∀ t ∈ c.chatbotTimeout, t.Utc

/-- A patch whose times are all given in UTC. -/
def Conversation.Patch.Utc (p : Conversation.Patch) : Prop :=
  (∀ t ∈ p.createdAt, t.Utc) ∧ (∀ t ∈ p.updatedAt, t.Utc) ∧
    ∀ o ∈ p.chatbotTimeout, ∀ t ∈ o, t.Utc

theorem Conversation.keptInDatabase_of_utc {c : Conversation} (h : c.Utc) :
    c.keptInDatabase = c := by
  obtain ⟨hcreated, hupdated, htimeout⟩ := h
  have htimeout' : c.chatbotTimeout.map Stamp.keptAsUtc = c.chatbotTimeout := by
    cases hc : c.chatbotTimeout with
    | none => rfl
    | some t =>
      rw [hc] at htimeout
      simp [Stamp.keptAsUtc_of_utc (htimeout t rfl)]
  simp only [Conversation.keptInDatabase, htimeout', Stamp.keptAsUtc_of_utc hcreated,
    Stamp.keptAsUtc_of_utc hupdated]

theorem Conversation.Patch.at_utc {p : Conversation.Patch} {now : Stamp} (hp : p.Utc)
    (hnow : now.Utc) : (p.at now).Utc := by
  obtain ⟨hcreated, hupdated, htimeout⟩ := hp
  refine ⟨hcreated, ?_, htimeout⟩
  intro t ht
  cases hu : p.updatedAt with
  | none => simp_all [Conversation.Patch.at]
  | some u => simp_all [Conversation.Patch.at]

theorem Conversation.apply_utc {c : Conversation} {p : Conversation.Patch} (hc : c.Utc)
    (hp : p.Utc) : (c.apply p).Utc := by
  obtain ⟨hcreated, hupdated, htimeout⟩ := hc
  obtain ⟨pcreated, pupdated, ptimeout⟩ := hp
  refine ⟨?_, ?_, ?_⟩
  · cases h : p.createdAt <;> simp_all [Conversation.apply]
  · cases h : p.updatedAt <;> simp_all [Conversation.apply]
  · intro t ht
    cases h : p.chatbotTimeout with
    | none => simp_all [Conversation.apply]
    | some o => simp_all [Conversation.apply]

/-! ## Keys of the phone index -/

theorem append_sep_inj {sep : Char} {x₁ x₂ z₁ z₂ : List Char} (h₁ : sep ∉ x₁) (h₂ : sep ∉ x₂)
    (h : x₁ ++ sep :: z₁ = x₂ ++ sep :: z₂) : x₁ = x₂ ∧ z₁ = z₂ := by
  induction x₁ generalizing x₂ with
  | nil =>
    cases x₂ with
    | nil => simpa using h
    | cons b x₂ =>
      simp only [List.nil_append, List.cons_append, List.cons.injEq] at h
      exact absurd (h.1 ▸ List.mem_cons_self) h₂
  | cons a x₁ ih =>
    cases x₂ with
    | nil =>
      simp only [List.nil_append, List.cons_append, List.cons.injEq] at h
      exact absurd (h.1 ▸ List.mem_cons_self) h₁
    | cons b x₂ =>
      simp only [List.cons_append, List.cons.injEq] at h
      obtain ⟨rfl, hrest⟩ := h
      have hx := ih (fun hm => h₁ (List.mem_cons_of_mem a hm))
        (fun hm => h₂ (List.mem_cons_of_mem a hm)) hrest
      exact ⟨by rw [hx.1], hx.2⟩

/-- Workspace ids without a colon give every customer a key of its own. -/
theorem Store.phoneKey_inj {w₁ w₂ p₁ p₂ : String} (h₁ : ':' ∉ w₁.toList) (h₂ : ':' ∉ w₂.toList)
    (h : Store.phoneKey w₁ p₁ = Store.phoneKey w₂ p₂) : w₁ = w₂ ∧ p₁ = p₂ := by
  have hl := congrArg String.toList h
  simp only [Store.phoneKey, String.toList_append] at hl
  have hsplit := append_sep_inj h₁ h₂ (by simpa using hl)
  exact ⟨String.toList_inj.mp hsplit.1, String.toList_inj.mp hsplit.2⟩

/-! ## Lists with distinct keys -/

theorem upsertBy_of_fresh {α : Type} {key : α → String} {xs : List α} {x : α}
    (h : ∀ y ∈ xs, key y ≠ key x) : upsertBy key xs x = xs ++ [x] := by
  have hany : xs.any (key · == key x) = false := by
    simpa using h
  simp [upsertBy, hany]

/-- Storing an item over the one of its key keeps what `f` sees of the list, when `f` sees the
same of the new item as of every item it replaces. -/
theorem map_upsertBy_of_present {α β : Type} {key : α → String} {f : α → β} {xs : List α}
    {x : α} (hx : ∃ y ∈ xs, key y = key x) (h : ∀ y ∈ xs, key y = key x → f y = f x) :
    (upsertBy key xs x).map f = xs.map f := by
  have hany : xs.any (key · == key x) = true := by
    obtain ⟨y, hy, hk⟩ := hx
    exact List.any_eq_true.mpr ⟨y, hy, by simp [hk]⟩
  simp only [upsertBy, hany, if_true, List.map_map]
  apply List.map_congr_left
  intro y hy
  by_cases hk : key y = key x
  · simp [hk, h y hy hk]
  · simp [hk]

/-- In a list whose items have distinct images, the items that share the image of a member are
that member alone. -/
theorem filter_eq_singleton {α β : Type} {p : α → Bool} {f : α → β} {l : List α}
    (hl : (l.map f).Nodup) {a : α} (ha : a ∈ l) (hp : ∀ b ∈ l, p b = true ↔ f b = f a) :
    l.filter p = [a] := by
  induction l with
  | nil => cases ha
  | cons x t ih =>
    rw [List.map_cons, List.nodup_cons] at hl
    obtain ⟨hx, ht⟩ := hl
    by_cases hfx : f x = f a
    · -- the head shares the image, so it is `a` and no later item does
      have hxa : x = a := by
        rcases List.mem_cons.mp ha with rfl | hat
        · rfl
        · exact absurd (hfx ▸ List.mem_map_of_mem hat) hx
      have hrest : t.filter p = [] := by
        rw [List.filter_eq_nil_iff]
        intro b hb hpb
        have hfb := (hp b (List.mem_cons_of_mem x hb)).mp hpb
        exact hx (hfx ▸ hfb ▸ List.mem_map_of_mem hb)
      have hpx : p x = true := (hp x List.mem_cons_self).mpr hfx
      subst hxa
      simp [hpx, hrest]
    · have hpx : p x = false := by
        simpa using fun h => hfx ((hp x List.mem_cons_self).mp h)
      have hat : a ∈ t := by
        rcases List.mem_cons.mp ha with rfl | hat
        · exact absurd rfl hfx
        · exact hat
      rw [List.filter_cons, hpx, if_neg (by simp)]
      exact ih ht hat (fun b hb => hp b (List.mem_cons_of_mem x hb))

section Hits

variable {α : Type} {q : α → Bool} {l : List α}

/-- The indices of a list whose items pass a test, as the in-memory store finds them. -/
def hits [Inhabited α] (q : α → Bool) (l : List α) : List Nat :=
  (List.range l.length).filter fun i => q (l.getD i default)

theorem hits_eq_nil [Inhabited α] (h : l.any q = false) : hits q l = [] := by
  have hall : ∀ x ∈ l, q x = false := by simpa using h
  rw [hits, List.filter_eq_nil_iff]
  intro j hj
  have hj' : j < l.length := by simpa using hj
  rw [List.getD_eq_getElem _ _ hj', hall _ (List.getElem_mem hj')]
  simp

theorem hits_eq_singleton [Inhabited α]
    (huniq : ∀ i j (hi : i < l.length) (hj : j < l.length), q l[i] → q l[j] → i = j)
    {i : Nat} (hi : i < l.length) (hq : q l[i]) : hits q l = [i] := by
  refine filter_eq_singleton (f := id) (by simpa using List.nodup_range) (by simpa using hi) ?_
  intro j hj
  have hj' : j < l.length := by simpa using hj
  rw [List.getD_eq_getElem _ _ hj']
  exact ⟨fun hqj => huniq j i hj' hi hqj hq, fun h => by simp only [id] at h; subst h; exact hq⟩

/-- Changing the one item that passes a test changes every item that passes it. -/
theorem modify_eq_map_of_unique (f : α → α)
    (huniq : ∀ i j (hi : i < l.length) (hj : j < l.length), q l[i] → q l[j] → i = j)
    {i : Nat} (hi : i < l.length) (hq : q l[i]) :
    l.modify i f = l.map fun x => if q x then f x else x := by
  apply List.ext_getElem (by simp)
  intro j h₁ h₂
  have hj : j < l.length := by simpa using h₂
  simp only [List.getElem_modify, List.getElem_map]
  by_cases hij : i = j
  · subst hij
    simp [hq]
  · have hqj : q l[j] = false := by
      by_contra hqj
      exact hij (huniq i j hi hj hq (by simpa using hqj))
    simp [hij, hqj]

theorem map_eq_self_of_none (f : α → α) (h : l.any q = false) :
    (l.map fun x => if q x then f x else x) = l := by
  have hall : ∀ x ∈ l, q x = false := by simpa using h
  conv => rhs; rw [← List.map_id l]
  exact List.map_congr_left fun x hx => by simp [hall x hx]

end Hits

theorem map_modify_of_map_eq {α β : Type} {f : α → α} {g : α → β} (hg : ∀ x, g (f x) = g x)
    (i : Nat) (l : List α) : (l.modify i f).map g = l.map g := by
  apply List.ext_getElem (by simp)
  intro j h₁ h₂
  simp only [List.getElem_map, List.getElem_modify]
  split <;> simp [hg]

/-- What the invariant reads of a conversation: its id and its customer. -/
def Conversation.keys (c : Conversation) : String × String × String :=
  (c.id, c.workspaceId, c.phone)

/-- What the invariant reads of a message: its provider id and its time. -/
def Message.keys (m : Message) : String × Stamp := (m.messageId, m.createdAt)

theorem exists_of_map_eq {α β : Type} {f : α → β} {l l' : List α} (h : l'.map f = l.map f)
    {x : α} (hx : x ∈ l') : ∃ y ∈ l, f y = f x := by
  have hfx := List.mem_map_of_mem (f := f) hx
  rw [h] at hfx
  exact List.mem_map.mp hfx

namespace Store

/-! ## Calls of the store contract -/

/-- A call of the store contract with its arguments. The statistics, which only the in-memory
store keeps, are no call of the contract. -/
inductive Call where
  | getWorkspace (id : String)
  | findWorkspace (phoneId : String)
  | putWorkspace (w : Workspace)
  | getConversation (id : String)
  | findConversation (phone workspaceId : String)
  | createConversation (c : Conversation)
  | updateConversation (id : String) (p : Conversation.Patch) (now : Stamp)
  | createMessage (m : Message)
  | recentMessages (conversationId : String) (limit : Int) (newestFirst : Bool)
  | markMessage (messageId status : String)
  | getChatbot (id : String)
  | listChatbots (workspaceId : String) (publishedOnly : Bool)
  | putChatbot (b : Chatbot)
  | getMaterial (workspaceId id : String)
  | listMaterials (workspaceId : String)
  | putMaterial (m : Material)
  | listTeam (workspaceId : String)
  | putMember (m : Member)
  | getSettings (workspaceId : String)
  | saveSettings (workspaceId : String) (doc : Value)

/-- The answer to a call. A call that stores a record answers with the record it was given. -/
inductive Result where
  | done
  | workspace (w : Option Workspace)
  | conversation (c : Option Conversation)
  | message (m : Message)
  | messages (ms : List Message)
  | marked (hit : Bool)
  | chatbot (b : Option Chatbot)
  | chatbots (bs : List Chatbot)
  | material (m : Except String (Option Material))
  | materials (ms : List Material)
  | member (m : Member)
  | team (ms : Except String (List Member))
  | settings (doc : Option Value)

/-- Makes a call on a store: its answer or the fault it raises, and the store after it. -/
def Call.run (s : Store) : Call → Except Fault Result × Store
  | .getWorkspace id => (.ok (.workspace (s.workspace? id)), s)
  | .findWorkspace phoneId => (.ok (.workspace (s.workspaceByPhone? phoneId)), s)
  | .putWorkspace w => (.ok (.workspace (some w)), s.putWorkspace w)
  | .getConversation id => (.ok (.conversation (s.conversation? id)), s)
  | .findConversation phone workspaceId =>
    (.ok (.conversation (s.findConversation? phone workspaceId)), s)
  | .createConversation c =>
    match s.createConversation c with
    | .ok s' => (.ok (.conversation (some c)), s')
    | .error e => (.error e, s)
  | .updateConversation id p now =>
    match s.updateConversation id p now with
    | .ok (c, s') => (.ok (.conversation c), s')
    | .error e => (.error e, s)
  | .createMessage m =>
    match s.createMessage m with
    | .ok s' => (.ok (.message m), s')
    | .error e => (.error e, s)
  | .recentMessages conversationId limit newestFirst =>
    (.ok (.messages (s.recentMessages conversationId limit newestFirst)), s)
  | .markMessage messageId status =>
    ((.ok (.marked (s.updateMessageStatus messageId status).1)),
      (s.updateMessageStatus messageId status).2)
  | .getChatbot id => (.ok (.chatbot (s.chatbot? id)), s)
  | .listChatbots workspaceId publishedOnly =>
    (.ok (.chatbots (s.chatbotsOf workspaceId publishedOnly)), s)
  | .putChatbot b => (.ok (.chatbot (some b)), s.putChatbot b)
  | .getMaterial workspaceId id => (.ok (.material (s.material? workspaceId id)), s)
  | .listMaterials workspaceId => (.ok (.materials (s.materialsOf workspaceId)), s)
  | .putMaterial m => (.ok (.material (.ok (some m))), s.putMaterial m)
  | .listTeam workspaceId => (.ok (.team (s.teamOf workspaceId)), s)
  | .putMember m => (.ok (.member m), s.putMember m)
  | .getSettings workspaceId => (.ok (.settings (s.settingsOf? workspaceId)), s)
  | .saveSettings workspaceId doc => (.ok .done, s.saveSettings workspaceId doc)

/-- The answers to calls made one after another on a store. -/
def answers (s : Store) : List Call → List (Except Fault Result)
  | [] => []
  | c :: cs => (c.run s).1 :: answers (c.run s).2 cs

/-- The database store holding the same records as a store: the in-memory phone index is
no part of it. -/
def asDatabase (s : Store) : Store := { s with backend := .sql, phoneIndex := [] }

/-! ## Fair runs -/

/-- A call that keeps clear of the places where the two stores differ, made on the in-memory
store `s`. The documented differences: a conversation or message whose id is already stored,
a second conversation of a customer, a second message with a provider id, unknown fields in
an update, and times that are not UTC. The others: a colon in a workspace id, an update that
moves a conversation to another phone, a limit that is not positive (except zero for newest
first), a canned response or team member moved to another workspace, and settings saved for
an unknown workspace. -/
def Call.Fair (s : Store) : Call → Prop
  | .findConversation _ workspaceId => ':' ∉ workspaceId.toList
  | .createConversation c =>
    (∀ c' ∈ s.conversations, c'.id ≠ c.id) ∧
    (∀ c' ∈ s.conversations, c'.workspaceId = c.workspaceId → c'.phone ≠ c.phone) ∧
    ':' ∉ c.workspaceId.toList ∧ c.Utc
  | .updateConversation id p now =>
    p.unknown = [] ∧ p.Utc ∧ now.Utc ∧ ∀ c ∈ s.conversation? id, ∀ phone ∈ p.phone, phone = c.phone
  | .createMessage m =>
    (∀ m' ∈ s.messages, m'.id ≠ m.id) ∧
    (m.messageId = "" ∨ ∀ m' ∈ s.messages, m'.messageId ≠ m.messageId) ∧ m.createdAt.Utc
  | .recentMessages _ limit newestFirst => 0 < limit ∨ (limit = 0 ∧ newestFirst = true)
  | .putMaterial m => ∀ old ∈ s.materials.find? (·.id == m.id), old.workspaceId = m.workspaceId
  | .putMember m => ∀ old ∈ s.team.find? (·.id == m.id), old.workspaceId = m.workspaceId
  | .saveSettings workspaceId _ => (s.workspace? workspaceId).isSome
  | _ => True

/-- Every call of a run is fair where it is made on the in-memory store. -/
def FairRun : Store → List Call → Prop
  | _, [] => True
  | s, c :: cs => c.Fair s ∧ FairRun (c.run s).2 cs

/-! ## A well-indexed in-memory store -/

/-- An in-memory store whose phone index finds each customer's one conversation: conversation
ids and customers are distinct, workspace ids have no colon, each conversation is indexed under
its key and every key of the index names a conversation with that key. Its times are UTC and
a provider id names at most one message. -/
structure Indexed (s : Store) : Prop where
  memory : s.backend = .memory
  ids : (s.conversations.map (·.id)).Nodup
  customers : (s.conversations.map fun c => (c.workspaceId, c.phone)).Nodup
  plain : ∀ c ∈ s.conversations, ':' ∉ c.workspaceId.toList
  utc : ∀ c ∈ s.conversations, c.Utc
  indexed : ∀ c ∈ s.conversations,
    s.phoneIndex.lookup (phoneKey c.workspaceId c.phone) = some c.id
  sound : ∀ k id, s.phoneIndex.lookup k = some id →
    ∃ c ∈ s.conversations, c.id = id ∧ phoneKey c.workspaceId c.phone = k
  messageUtc : ∀ m ∈ s.messages, m.createdAt.Utc
  providerIds : (s.messages.map (·.messageId)).Pairwise fun a b => a = "" ∨ a ≠ b

theorem indexed_empty : Indexed {} where
  memory := rfl
  ids := List.nodup_nil
  customers := List.nodup_nil
  plain := by simp
  utc := by simp
  indexed := by simp
  sound := by simp
  messageUtc := by simp
  providerIds := List.Pairwise.nil

/-- A store is indexed when it has the index of an indexed store and conversations and messages
with the same keys, in the same order, and its conversations keep their times in UTC. -/
theorem Indexed.of_keys {s s' : Store} (hs : Indexed s) (hb : s'.backend = s.backend)
    (hc : s'.conversations.map Conversation.keys = s.conversations.map Conversation.keys)
    (hutc : ∀ c ∈ s'.conversations, c.Utc) (hi : s'.phoneIndex = s.phoneIndex)
    (hm : s'.messages.map Message.keys = s.messages.map Message.keys) : Indexed s' := by
  have hids : s'.conversations.map (·.id) = s.conversations.map (·.id) := by
    simpa [List.map_map, Function.comp_def, Conversation.keys] using congrArg (List.map Prod.fst) hc
  have hcust : s'.conversations.map (fun c => (c.workspaceId, c.phone)) =
      s.conversations.map (fun c => (c.workspaceId, c.phone)) := by
    simpa [List.map_map, Function.comp_def, Conversation.keys] using congrArg (List.map Prod.snd) hc
  have hpids : s'.messages.map (·.messageId) = s.messages.map (·.messageId) := by
    simpa [List.map_map, Function.comp_def, Message.keys] using congrArg (List.map Prod.fst) hm
  refine ⟨hb.trans hs.memory, hids ▸ hs.ids, hcust ▸ hs.customers, ?plain, hutc, ?indexed,
    ?sound, ?messageUtc, hpids ▸ hs.providerIds⟩
  case plain =>
    intro c hc'
    obtain ⟨c₀, hc₀, hk⟩ := exists_of_map_eq hc hc'
    simp only [Conversation.keys, Prod.mk.injEq] at hk
    rw [← hk.2.1]
    exact hs.plain c₀ hc₀
  case indexed =>
    intro c hc'
    obtain ⟨c₀, hc₀, hk⟩ := exists_of_map_eq hc hc'
    simp only [Conversation.keys, Prod.mk.injEq] at hk
    obtain ⟨hid, hws, hphone⟩ := hk
    rw [hi, ← hid, ← hws, ← hphone]
    exact hs.indexed c₀ hc₀
  case sound =>
    intro k id hk
    rw [hi] at hk
    obtain ⟨c₀, hc₀, hid, hkey⟩ := hs.sound k id hk
    obtain ⟨c, hc', hcc⟩ := exists_of_map_eq hc.symm hc₀
    simp only [Conversation.keys, Prod.mk.injEq] at hcc
    obtain ⟨hcid, hws, hphone⟩ := hcc
    exact ⟨c, hc', hcid ▸ hid, by rw [hws, hphone]; exact hkey⟩
  case messageUtc =>
    intro m hm'
    obtain ⟨m₀, hm₀, hk⟩ := exists_of_map_eq hm hm'
    simp only [Message.keys, Prod.mk.injEq] at hk
    rw [← hk.2]
    exact hs.messageUtc m₀ hm₀

/-! ## Every call keeps the in-memory store indexed -/

section Keeps

variable {s : Store}

theorem keepConversation_memory (hb : s.backend = .memory) (c : Conversation) :
    s.keepConversation c = c := by
  simp [keepConversation, hb]

/-- Storing the first conversation of a customer adds its key to the index. -/
theorem Indexed.createConversation (hs : Indexed s) {c : Conversation}
    (hc : (Call.createConversation c).Fair s) :
    Indexed { s with
      conversations := s.conversations ++ [c]
      phoneIndex := upsertBy (·.1) s.phoneIndex (phoneKey c.workspaceId c.phone, c.id) } := by
  obtain ⟨hfresh, hcust, hplain, hutc⟩ := hc
  -- the new key is no stored customer's, so the index keeps every old entry
  have hkey : ∀ c' ∈ s.conversations,
      phoneKey c'.workspaceId c'.phone ≠ phoneKey c.workspaceId c.phone := by
    intro c' hc' heq
    obtain ⟨hw, hp⟩ := phoneKey_inj (hs.plain c' hc') hplain heq
    exact hcust c' hc' hw hp
  refine ⟨hs.memory, ?ids, ?customers, ?plain, ?utc, ?indexed, ?sound, hs.messageUtc,
    hs.providerIds⟩
  case ids =>
    rw [List.map_append, List.map_singleton, List.nodup_append]
    refine ⟨hs.ids, List.nodup_singleton _, ?_⟩
    simp only [List.mem_map, List.mem_singleton]
    rintro _ ⟨c', hc', rfl⟩ _ rfl
    exact hfresh c' hc'
  case customers =>
    rw [List.map_append, List.map_singleton, List.nodup_append]
    refine ⟨hs.customers, List.nodup_singleton _, ?_⟩
    simp only [List.mem_map, List.mem_singleton]
    rintro _ ⟨c', hc', rfl⟩ _ rfl heq
    simp only [Prod.mk.injEq] at heq
    exact hcust c' hc' heq.1 heq.2
  case plain =>
    intro c' hc'
    rcases List.mem_append.mp hc' with hc' | hc'
    · exact hs.plain c' hc'
    · rw [List.mem_singleton.mp hc']
      exact hplain
  case utc =>
    intro c' hc'
    rcases List.mem_append.mp hc' with hc' | hc'
    · exact hs.utc c' hc'
    · rw [List.mem_singleton.mp hc']
      exact hutc
  case indexed =>
    intro c' hc'
    simp only [lookup_upsertBy_fst]
    rcases List.mem_append.mp hc' with hc' | hc'
    · rw [if_neg (hkey c' hc')]
      exact hs.indexed c' hc'
    · rw [List.mem_singleton.mp hc', if_pos rfl]
  case sound =>
    intro k id hk
    simp only [lookup_upsertBy_fst] at hk
    split at hk
    · next hnew =>
      cases hk
      exact ⟨c, by simp, rfl, hnew.symm⟩
    · obtain ⟨c', hc', hid, hkey'⟩ := hs.sound k id hk
      exact ⟨c', List.mem_append_left _ hc', hid, hkey'⟩

/-- Storing a message with a new provider id, or none, keeps provider ids apart. -/
theorem Indexed.createMessage (hs : Indexed s) {m : Message} (hm : (Call.createMessage m).Fair s) :
    Indexed { s with messages := s.messages ++ [m] } := by
  obtain ⟨-, hnew, hutc⟩ := hm
  refine ⟨hs.memory, hs.ids, hs.customers, hs.plain, hs.utc, hs.indexed, hs.sound, ?_, ?_⟩
  · intro m' hm'
    rcases List.mem_append.mp hm' with hm' | hm'
    · exact hs.messageUtc m' hm'
    · rw [List.mem_singleton.mp hm']
      exact hutc
  · rw [List.map_append, List.map_singleton, List.pairwise_append]
    refine ⟨hs.providerIds, List.pairwise_singleton _ _, ?_⟩
    simp only [List.mem_map, List.mem_singleton]
    rintro _ ⟨m', hm', rfl⟩ _ rfl
    rcases hnew with hnone | hfresh
    · by_cases hblank : m'.messageId = ""
      · exact Or.inl hblank
      · exact Or.inr (by rw [hnone]; exact hblank)
    · exact Or.inr (hfresh m' hm')

theorem patched_phoneIndex (id : String) (q : Conversation.Patch) :
    (s.patched id q).phoneIndex = s.phoneIndex := by
  unfold patched
  split <;> rfl

/-- With distinct ids, a patch that sets no other phone keeps every conversation's keys, in
order: it changes the one conversation of its id, and not its workspace or phone. -/
theorem map_keys_patched (hids : (s.conversations.map (·.id)).Nodup) {id : String}
    {q : Conversation.Patch} (hphone : ∀ c ∈ s.conversation? id, ∀ ph ∈ q.phone, ph = c.phone) :
    (s.patched id q).conversations.map Conversation.keys =
      s.conversations.map Conversation.keys := by
  unfold Store.patched
  split
  · rfl
  · next c hc =>
    obtain ⟨hmem, -⟩ := conversation?_some hc
    have hsame : (s.keepConversation (c.apply q)).keys = c.keys := by
      have hph : q.phone.getD c.phone = c.phone := by
        cases hq : q.phone with
        | none => rfl
        | some ph => exact hphone c hc ph hq
      simp [Conversation.keys, Conversation.apply, hph]
    refine map_upsertBy_of_present ⟨c, hmem, by simp⟩ ?_
    intro y hy hyid
    rw [List.inj_on_of_nodup_map hids hy hmem (by simpa using hyid), hsame]

/-- An update that keeps the phone keeps every conversation's keys. -/
theorem Indexed.patched (hs : Indexed s) {id : String} {p : Conversation.Patch} {now : Stamp}
    (hu : (Call.updateConversation id p now).Fair s) : Indexed (s.patched id (p.at now)) := by
  obtain ⟨-, hpu, hnow, hphone⟩ := hu
  have hq : (p.at now).Utc := Conversation.Patch.at_utc hpu hnow
  have hkeys : (s.patched id (p.at now)).conversations.map Conversation.keys =
      s.conversations.map Conversation.keys := map_keys_patched hs.ids hphone
  refine Indexed.of_keys hs (by simp) hkeys ?_ (patched_phoneIndex id _) (by simp)
  intro c' hc'
  rcases mem_patched hc' with ⟨hold, -⟩ | ⟨c, hc, rfl⟩
  · exact hs.utc c' hold
  · rw [keepConversation_memory hs.memory]
    exact Conversation.apply_utc (hs.utc c (conversation?_some hc).1) hq

/-- Marking a message changes no provider id and no time. -/
theorem Indexed.updateMessageStatus (hs : Indexed s) (messageId status : String) :
    Indexed (s.updateMessageStatus messageId status).2 := by
  unfold Store.updateMessageStatus
  split
  · exact hs
  · simp only [hs.memory]
    split
    · exact hs
    · exact Indexed.of_keys hs hs.memory.symm rfl hs.utc rfl
        (map_modify_of_map_eq (f := fun m : Message => { m with status := status })
          (g := Message.keys) (fun _ => rfl) _ _)

end Keeps

/-! ## One call on the two stores -/

section Agree

variable {s : Store}

theorem recentMessages_asDatabase (hb : s.backend = .memory) {conversationId : String}
    {limit : Int} {newestFirst : Bool} (hl : 0 < limit ∨ (limit = 0 ∧ newestFirst = true)) :
    s.asDatabase.recentMessages conversationId limit newestFirst =
      s.recentMessages conversationId limit newestFirst := by
  simp only [recentMessages, asDatabase, hb]
  generalize (s.messages.filter (·.conversationId == conversationId)).mergeSort
    (fun a b => decide (a.createdAt.instant ≤ b.createdAt.instant)) = own
  cases newestFirst with
  | true =>
    have hnn : ¬ limit < 0 := by omega
    simp [hnn, sliceFront, show limit ≥ 0 by omega]
  | false =>
    -- oldest first needs a positive limit: the last `limit` messages, oldest first
    have hpos : 0 < limit := by simpa using hl
    have hnn : ¬ limit < 0 := by omega
    simp [hnn, sliceBack, hpos, List.take_reverse]

theorem putMaterial_asDatabase (hb : s.backend = .memory) {m : Material}
    (hm : ∀ old ∈ s.materials.find? (·.id == m.id), old.workspaceId = m.workspaceId) :
    s.asDatabase.putMaterial m = (s.putMaterial m).asDatabase := by
  cases hfind : s.materials.find? (·.id == m.id) with
  | none => simp [putMaterial, asDatabase, hb, hfind]
  | some old =>
    have hws : old.workspaceId = m.workspaceId := hm old (by simp [hfind])
    simp [putMaterial, asDatabase, hb, hfind, hws]

theorem putMember_asDatabase (hb : s.backend = .memory) {m : Member}
    (hm : ∀ old ∈ s.team.find? (·.id == m.id), old.workspaceId = m.workspaceId) :
    s.asDatabase.putMember m = (s.putMember m).asDatabase := by
  cases hfind : s.team.find? (·.id == m.id) with
  | none => simp [putMember, asDatabase, hb, hfind]
  | some old =>
    have hws : old.workspaceId = m.workspaceId := hm old (by simp [hfind])
    simp [putMember, asDatabase, hb, hfind, hws]

theorem saveSettings_asDatabase (hb : s.backend = .memory) {workspaceId : String} {doc : Value}
    (hw : (s.workspace? workspaceId).isSome) :
    s.asDatabase.saveSettings workspaceId doc = (s.saveSettings workspaceId doc).asDatabase := by
  simp only [saveSettings, asDatabase, hb]
  -- the database finds the workspace already there, so it creates none
  exact if_pos hw

theorem createConversation_memory (hb : s.backend = .memory) {c : Conversation}
    (hfresh : ∀ c' ∈ s.conversations, c'.id ≠ c.id) :
    s.createConversation c = .ok { s with
      conversations := s.conversations ++ [c]
      phoneIndex := upsertBy (·.1) s.phoneIndex (phoneKey c.workspaceId c.phone, c.id) } := by
  simp [createConversation, hb, upsertBy_of_fresh hfresh]

theorem createConversation_asDatabase {c : Conversation}
    (hfresh : ∀ c' ∈ s.conversations, c'.id ≠ c.id) (hutc : c.Utc) :
    s.asDatabase.createConversation c =
      .ok (asDatabase { s with conversations := s.conversations ++ [c] }) := by
  have hany : s.conversations.any (·.id == c.id) = false := by
    simpa using hfresh
  simp only [createConversation, asDatabase, hany, Conversation.keptInDatabase_of_utc hutc]
  rfl

theorem createMessage_memory (hb : s.backend = .memory) (m : Message) :
    s.createMessage m = .ok { s with messages := s.messages ++ [m] } := by
  simp [createMessage, hb]

theorem createMessage_asDatabase {m : Message} (hfresh : ∀ m' ∈ s.messages, m'.id ≠ m.id)
    (hutc : m.createdAt.Utc) :
    s.asDatabase.createMessage m = .ok (asDatabase { s with messages := s.messages ++ [m] }) := by
  have hany : s.messages.any (·.id == m.id) = false := by
    simpa using hfresh
  have hkept : { m with createdAt := m.createdAt.keptAsUtc } = m := by
    rw [Stamp.keptAsUtc_of_utc hutc]
  simp only [createMessage, asDatabase, hany, hkept]
  rfl

theorem conversation?_of_mem (hids : (s.conversations.map (·.id)).Nodup) {c : Conversation}
    (hc : c ∈ s.conversations) : s.conversation? c.id = some c := by
  obtain ⟨c', hfind⟩ : ∃ c', s.conversation? c.id = some c' :=
    Option.isSome_iff_exists.mp (List.find?_isSome.mpr ⟨c, hc, by simp⟩)
  obtain ⟨hmem, hid⟩ := conversation?_some hfind
  rw [hfind, List.inj_on_of_nodup_map hids hmem hc hid]

/-- The one conversation of a customer, found by both stores: in memory through the phone
index, in the database as the only conversation with that workspace and phone. -/
theorem findConversation?_asDatabase (hs : Indexed s) {phone workspaceId : String}
    (hw : ':' ∉ workspaceId.toList) :
    s.asDatabase.findConversation? phone workspaceId = s.findConversation? phone workspaceId := by
  simp only [findConversation?, asDatabase, hs.memory]
  by_cases hex : ∃ c ∈ s.conversations, c.workspaceId = workspaceId ∧ c.phone = phone
  · obtain ⟨c, hc, rfl, rfl⟩ := hex
    have hone : (s.conversations.filter fun c' =>
        c'.workspaceId == c.workspaceId && c'.phone == c.phone) = [c] :=
      filter_eq_singleton hs.customers hc (fun b _ => by simp)
    rw [hone, hs.indexed c hc]
    simp [conversation?_of_mem hs.ids hc]
  · have hnone : (s.conversations.filter fun c' =>
        c'.workspaceId == workspaceId && c'.phone == phone) = [] := by
      rw [List.filter_eq_nil_iff]
      intro c hc hmatch
      exact hex ⟨c, hc, by simpa using hmatch⟩
    -- a key found in the index names a conversation of this very customer
    have hlookup : s.phoneIndex.lookup (phoneKey workspaceId phone) = none := by
      cases hk : s.phoneIndex.lookup (phoneKey workspaceId phone) with
      | none => rfl
      | some id =>
        obtain ⟨c, hc, -, hkey⟩ := hs.sound _ id hk
        obtain ⟨hcw, hcp⟩ := phoneKey_inj (hs.plain c hc) hw hkey
        exact absurd ⟨c, hc, hcw, hcp⟩ hex
    rw [hnone, hlookup]
    rfl

/-- With at most one message per provider id, marking the last message of an id in memory
marks every message of it, as the database does. -/
theorem updateMessageStatus_asDatabase (hs : Indexed s) (messageId status : String) :
    s.asDatabase.updateMessageStatus messageId status =
      ((s.updateMessageStatus messageId status).1,
        (s.updateMessageStatus messageId status).2.asDatabase) := by
  unfold updateMessageStatus
  by_cases hid : messageId.isEmpty
  · simp [hid]
  · have hne : messageId ≠ "" := fun h => hid (by simp [h])
    have huniq : ∀ i j (hi : i < s.messages.length) (hj : j < s.messages.length),
        (s.messages[i].messageId == messageId) = true →
        (s.messages[j].messageId == messageId) = true → i = j := by
      intro i j hi hj hqi hqj
      have hpair := List.pairwise_iff_getElem.mp hs.providerIds
      simp only [beq_iff_eq] at hqi hqj
      by_contra hij
      rcases Nat.lt_or_gt_of_ne hij with hlt | hlt
      · have := hpair i j (by simpa using hi) (by simpa using hj) hlt
        simp_all
      · have := hpair j i (by simpa using hj) (by simpa using hi) hlt
        simp_all
    have hh : ((List.range s.messages.length).filter fun i =>
        (s.messages.getD i default).messageId == messageId) =
        hits (fun m : Message => m.messageId == messageId) s.messages := rfl
    simp only [hid, Bool.false_eq_true, if_false, asDatabase, hs.memory, hh]
    cases hany : s.messages.any (·.messageId == messageId) with
    | false =>
      rw [hits_eq_nil hany, map_eq_self_of_none _ hany]
      rfl
    | true =>
      obtain ⟨x, hx, hqx⟩ := List.any_eq_true.mp hany
      obtain ⟨i, hi, rfl⟩ := List.getElem_of_mem hx
      rw [hits_eq_singleton (q := fun m : Message => m.messageId == messageId) huniq hi hqx]
      simp only [List.getLast?_singleton]
      rw [modify_eq_map_of_unique (q := fun m : Message => m.messageId == messageId) _ huniq hi hqx]

theorem updateConversation_memory (hb : s.backend = .memory) {id : String}
    {p : Conversation.Patch} {now : Stamp} (hp : p.unknown = []) :
    s.updateConversation id p now =
      .ok ((s.conversation? id).map fun c => c.apply (p.at now), s.patched id (p.at now)) := by
  rw [updateConversation_eq _ _ _ _ hp]
  simp only [keepConversation_memory hb]

/-- An update of known fields, with times in UTC, gives the same conversation in both stores,
since the database reads back the UTC times it was given. -/
theorem updateConversation_asDatabase (hs : Indexed s) {id : String} {p : Conversation.Patch}
    {now : Stamp} (hu : (Call.updateConversation id p now).Fair s) :
    s.asDatabase.updateConversation id p now =
      .ok ((s.conversation? id).map fun c => c.apply (p.at now),
        (s.patched id (p.at now)).asDatabase) := by
  obtain ⟨hp, hpu, hnow, -⟩ := hu
  have hq : (p.at now).Utc := Conversation.Patch.at_utc hpu hnow
  rw [updateConversation_eq _ _ _ _ hp]
  -- the database finds the conversation in the same list as memory does
  have hfind : s.asDatabase.conversation? id = s.conversation? id := rfl
  unfold patched
  rw [hfind]
  cases hc : s.conversation? id with
  | none => rfl
  | some c =>
    have hkept : s.asDatabase.keepConversation (c.apply (p.at now)) = c.apply (p.at now) :=
      Conversation.keptInDatabase_of_utc
        (Conversation.apply_utc (hs.utc c (conversation?_some hc).1) hq)
    simp only [Option.map_some, hkept, keepConversation_memory hs.memory]
    rfl

end Agree

/-! ## Runs on the two stores -/

section Runs

variable {s : Store}

/-- Every fair call keeps the in-memory store indexed. -/
theorem Indexed.run (hs : Indexed s) {c : Call} (hc : c.Fair s) : Indexed (c.run s).2 := by
  cases c with
  | createConversation c =>
    simp only [Call.run, createConversation_memory hs.memory hc.1]
    exact hs.createConversation hc
  | updateConversation id p now =>
    simp only [Call.run, updateConversation_eq _ _ _ _ hc.1]
    exact hs.patched hc
  | createMessage m =>
    simp only [Call.run, createMessage_memory hs.memory]
    exact hs.createMessage hc
  | markMessage messageId status => exact hs.updateMessageStatus messageId status
  | putWorkspace w => exact hs.of_keys rfl rfl hs.utc rfl rfl
  | putChatbot b => exact hs.of_keys rfl rfl hs.utc rfl rfl
  | putMaterial m =>
    simp only [Call.run, putMaterial]
    split <;> exact hs.of_keys rfl rfl hs.utc rfl rfl
  | putMember m =>
    simp only [Call.run, putMember]
    split <;> exact hs.of_keys rfl rfl hs.utc rfl rfl
  | saveSettings workspaceId doc =>
    simp only [Call.run, saveSettings, hs.memory]
    exact hs.of_keys hs.memory.symm rfl hs.utc rfl rfl
  | _ => exact hs

/-- One fair call on the database store holding an indexed store's records answers as the
call on the indexed store and leaves the database store holding the records it leaves. -/
theorem run_asDatabase (hs : Indexed s) {c : Call} (hc : c.Fair s) :
    c.run s.asDatabase = ((c.run s).1, (c.run s).2.asDatabase) := by
  cases c with
  | findConversation phone workspaceId =>
    simp only [Call.run, findConversation?_asDatabase hs hc]
  | createConversation c =>
    simp only [Call.run, createConversation_memory hs.memory hc.1,
      createConversation_asDatabase hc.1 hc.2.2.2]
    rfl
  | updateConversation id p now =>
    simp only [Call.run, updateConversation_memory hs.memory hc.1,
      updateConversation_asDatabase hs hc]
  | createMessage m =>
    simp only [Call.run, createMessage_memory hs.memory, createMessage_asDatabase hc.1 hc.2.2]
  | recentMessages conversationId limit newestFirst =>
    simp only [Call.run, recentMessages_asDatabase hs.memory hc]
  | markMessage messageId status =>
    simp only [Call.run, updateMessageStatus_asDatabase hs]
  | putMaterial m => simp only [Call.run, putMaterial_asDatabase hs.memory hc]
  | putMember m => simp only [Call.run, putMember_asDatabase hs.memory hc]
  | saveSettings workspaceId doc => simp only [Call.run, saveSettings_asDatabase hs.memory hc]
  | _ => rfl

/-- A fair run gives the same answers on an indexed store and on the database store holding
its records. The induction carries the invariant `Indexed` from call to call. -/
theorem answers_asDatabase {calls : List Call} (hs : Indexed s) (hfair : FairRun s calls) :
    answers s.asDatabase calls = answers s calls := by
  induction calls generalizing s with
  | nil => rfl
  | cons c cs ih =>
    obtain ⟨hc, hrest⟩ := hfair
    simp only [answers, run_asDatabase hs hc]
    rw [ih (hs.run hc) hrest]

end Runs

/-- A fresh in-memory store and a fresh database store give the same answer to every call of
a fair run. -/
theorem backends_agree (calls : List Call) (hfair : FairRun {} calls) :
    answers {} calls = answers { backend := .sql } calls :=
  (answers_asDatabase indexed_empty hfair).symm

/-- Noon of 19 October 2026, in UTC. -/
def noon : Stamp := { day := 20745, micro := 43200000000, offset := some 0 }

/-- A customer's first message: its conversation is created and found, the message is stored
and marked read, the conversation is closed and its messages are read back. -/
def customerRun : List Call :=
  [.createConversation
    { id := "c1", workspaceId := "w1", phone := "+1", createdAt := noon, updatedAt := noon },
   .findConversation "+1" "w1",
   .createMessage
    { id := "@1", conversationId := "c1", workspaceId := "w1", messageId := "m1", createdAt := noon },
   .markMessage "m1" "read",
   .updateConversation "c1" { status := some .closed } noon,
   .recentMessages "c1" 5 true]

theorem customerRun_agrees :
    FairRun {} customerRun ∧ answers {} customerRun = answers { backend := .sql } customerRun := by
  have hfair : FairRun {} customerRun := by
    simp [customerRun, FairRun, Call.Fair, Call.run, createConversation, createMessage,
      updateMessageStatus, upsertBy, Conversation.Utc, Conversation.Patch.Utc, Stamp.Utc, noon]
  exact ⟨hfair, backends_agree customerRun hfair⟩

/-- The message of the zero-limit run. -/
def firstMessage : Message :=
  { id := "@1", conversationId := "c1", workspaceId := "w", messageId := "m1", message := "first",
    createdAt := noon }

/-- A message is stored, then its conversation's messages are read oldest first with a limit of
zero. -/
def zeroLimitRun : List Call := [.createMessage firstMessage, .recentMessages "c1" 0 false]

/-- With a limit of zero, oldest first, memory gives every message and the database none. -/
theorem oldestFirst_zeroLimit_disagrees :
    answers {} zeroLimitRun = [.ok (.message firstMessage), .ok (.messages [firstMessage])] ∧
    answers { backend := .sql } zeroLimitRun = [.ok (.message firstMessage), .ok (.messages [])] := by
  constructor
  · simp [answers, zeroLimitRun, Call.run, createMessage, recentMessages, sliceBack, firstMessage]
  · rfl

end Store

end Autoresponder
