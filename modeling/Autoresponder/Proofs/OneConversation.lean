import Autoresponder.Proofs.Processor

/-!
# One conversation for each customer

Handlers of one customer take turns on the customer's lock, and the lock's key is made of the
workspace and number that the store looks the conversation up by. So along every run of the
processor from a store without conversations (`Consistent.run`), no two stored conversations
are of one workspace and number, whichever store holds them (`one_conversation_per_customer`).

That each handler records its message on its own customer's conversation needs more. The
database store looks a conversation up by its workspace and number. The in-memory store looks
it up in its phone index, under the text `workspace:number` that is also the lock's key, and two
customers share that text when a workspace id holds a colon: in workspace `a` the number
`+1:+25`, and in workspace `a:+1` the number `+25`. The second then finds the first one's
conversation and records on it (`sharedKey_recorded_elsewhere`). Nor may the ids made for
conversations repeat, which they do not while fewer than `16 ^ 12` are made. Where the store is
the database, or workspace ids hold no colon and ids do not repeat, every handler records its
message on the conversation of its own customer.
-/

namespace Autoresponder

open Autoresponder.Pattern Autoresponder.Op

/-! ### Fresh ids do not repeat -/

namespace Processor

theorem hexDigitsValue_append_digit (cs : List Char) {d : Nat} (hd : d < 16) :
    hexDigitsValue (cs ++ [Nat.digitChar d]) = hexDigitsValue cs * 16 + d := by
  unfold hexDigitsValue
  rw [List.foldl_append, List.foldl_cons, List.foldl_nil]
  congr 1
  revert d
  decide

theorem hexDigitsValue_zeros_append (j : Nat) (cs : List Char) :
    hexDigitsValue (List.replicate j '0' ++ cs) = hexDigitsValue cs := by
  induction j with
  | zero => rfl
  | succ j ih =>
    unfold hexDigitsValue at ih ⊢
    rw [List.replicate_succ, List.cons_append, List.foldl_cons]
    exact ih

/-- Hexadecimal digits read back as the number they write. -/
theorem hexDigitsValue_toDigits (n : Nat) : hexDigitsValue (Nat.toDigits 16 n) = n := by
  induction n using Nat.strong_induction_on with
  | _ n ih =>
    rw [Nat.toDigits_eq_if (by norm_num)]
    split
    · rename_i hn
      have h₁ := hexDigitsValue_append_digit [] hn
      rwa [show hexDigitsValue [] = 0 from rfl, zero_mul, zero_add] at h₁
    · rename_i hn
      rw [hexDigitsValue_append_digit _ (Nat.mod_lt _ (by norm_num)), ih _ (by omega)]
      omega

/-- Below `16 ^ 12` an id is `f00d`, zeros, and the digits of its count. -/
theorem freshText_toList {n : Nat} (hn : n < 16 ^ 12) :
    (freshText n).toList = "f00d".toList ++
      (List.replicate (12 - (Nat.toDigits 16 n).length) '0' ++ Nat.toDigits 16 n) := by
  have hlen := Nat.toDigits_length 16 n 12 (by norm_num) hn
  simp only [freshText, Op.hex16, hexPadded, String.toList_append, String.toList_ofList]
  rw [List.drop_append_of_le_length (by simp; omega), List.drop_replicate]
  congr 3
  omega

/-- Ids made from counts below `16 ^ 12` are made from one count only. -/
theorem freshText_inj {m n : Nat} (hm : m < 16 ^ 12) (hn : n < 16 ^ 12)
    (h : freshText m = freshText n) : m = n := by
  have hl := congrArg String.toList h
  rw [freshText_toList hm, freshText_toList hn] at hl
  have hv := congrArg (fun l => hexDigitsValue (l.drop 4)) hl
  simpa [hexDigitsValue_zeros_append, hexDigitsValue_toDigits] using hv

end Processor

/-! ### Handlers keep their keys, and one of a key holds its lock -/

namespace Serial

theorem State.withLock_handlers (s : State) (k : String) : (s.withLock k).handlers = s.handlers := by
  unfold State.withLock
  split <;> rfl

theorem State.enter_handlers (s : State) (t : Nat) (k : String) :
    ∃ p, (s.enter t k).handlers = s.handlers.set t ⟨k, p⟩ := by
  unfold State.enter
  dsimp only
  split
  · exact ⟨.holding (s.lockOf k), by simp [State.setHandler, State.withLock_handlers]⟩
  · exact ⟨.queued (s.lockOf k), by simp [State.setHandler, State.withLock_handlers]⟩

/-- An event changes the phase of at most one handler, one that has not left, keeping its key;
a handler holding its lock changes only by leaving. -/
theorem Turn.handlers {s s' : State} (h : Turn s s') :
    s'.handlers = s.handlers ∨ ∃ u k p p', s.handlers[u]? = some ⟨k, p⟩ ∧ p ≠ .done ∧
      (p.inside = true → p' = .done) ∧ s'.handlers = s.handlers.set u ⟨k, p'⟩ := by
  cases h with
  | enter hs =>
    obtain ⟨p', hp'⟩ := State.enter_handlers s _ _
    exact .inr ⟨_, _, _, p', hs, by simp, by simp [Phase.inside], hp'⟩
  | cancel _ _ => exact .inl rfl
  | resume hs _ => exact .inr ⟨_, _, _, _, hs, by simp, by simp [Phase.inside], rfl⟩
  | abandon hs _ =>
    exact .inr ⟨_, _, _, _, hs, by simp, by simp [Phase.inside], State.countOff_handlers⟩
  | leave hs => exact .inr ⟨_, _, _, _, hs, by simp, fun _ => rfl, State.countOff_handlers⟩

theorem Turn.keys {s s' : State} (h : Turn s s') :
    s'.handlers.map (·.key) = s.handlers.map (·.key) := by
  rcases h.handlers with heq | ⟨u, k, p, p', hs, -, -, heq⟩
  · rw [heq]
  · rw [heq]
    obtain ⟨hu, hget⟩ := List.getElem?_eq_some_iff.mp hs
    apply List.ext_getElem?
    intro i
    simp only [List.getElem?_map, List.getElem?_set]
    split
    · subst_vars
      simp [hu, hget]
    · rfl

/-- A handler that holds its lock or has left stays so, or leaves. -/
theorem Turn.settled {s s' : State} (h : Turn s s') {t : Nat} {k : String} {p : Phase}
    (hs : s.handlers[t]? = some ⟨k, p⟩) (hp : p.inside = true ∨ p = .done) :
    s'.handlers[t]? = some ⟨k, p⟩ ∨ s'.handlers[t]? = some ⟨k, .done⟩ := by
  rcases h.handlers with heq | ⟨u, k', q, q', hu, hq, hin, heq⟩
  · exact .inl (heq ▸ hs)
  · rw [heq, List.getElem?_set]
    by_cases htu : u = t
    · subst htu
      rw [hs] at hu
      obtain ⟨rfl, rfl⟩ : k = k' ∧ p = q := by simpa using hu
      right
      simp [hin (hp.resolve_right hq), (List.getElem?_eq_some_iff.mp hs).1]
    · left
      simp [htu, hs]

theorem two_le_countP {α : Type} {p : α → Bool} {l : List α} {t u : Nat} {a b : α} (htu : t < u)
    (ha : l[t]? = some a) (hb : l[u]? = some b) (hpa : p a = true) (hpb : p b = true) :
    2 ≤ l.countP p := by
  rw [← List.take_append_drop u l, List.countP_append]
  have h₁ : 0 < (l.take u).countP p :=
    List.countP_pos_iff.mpr
      ⟨a, List.mem_of_getElem? (i := t) (by rw [List.getElem?_take]; simp [htu, ha]), hpa⟩
  have h₂ : 0 < (l.drop u).countP p :=
    List.countP_pos_iff.mpr ⟨b, List.mem_of_getElem? (i := 0) (by simpa using hb), hpb⟩
  omega

/-- Two handlers of one key that hold their lock are one handler. -/
theorem Inv.holder_unique {s : State} (hi : Inv s) {t u l l' : Nat} {k : String}
    (ht : s.handlers[t]? = some ⟨k, .holding l⟩) (hu : s.handlers[u]? = some ⟨k, .holding l'⟩) :
    t = u := by
  by_contra hne
  have hp : ∀ l₀, (fun h : Handler => h.key == k && h.phase.inside) ⟨k, .holding l₀⟩ = true := by
    simp [Phase.inside]
  have h2 : 2 ≤ s.inside k := by
    rcases Nat.lt_or_gt_of_ne hne with h | h
    · exact two_le_countP h ht hu (hp l) (hp l')
    · exact two_le_countP h hu ht (hp l') (hp l)
  have := hi.inside_le_one k
  omega

end Serial

/-! ### Storing and finding a customer's conversation -/

/-- The customer a conversation is of: its workspace and number. -/
def Conversation.customer (c : Conversation) : String × String := (c.workspaceId, c.phone)

theorem Conversation.keys_eq_keys {c d : Conversation} :
    c.keys = d.keys ↔ c.id = d.id ∧ c.customer = d.customer := by
  simp [Conversation.keys, Conversation.customer]

section Upsert

variable {α β : Type} {key : α → String} {xs : List α} {x y : α}

theorem mem_upsertBy_self (key : α → String) (xs : List α) (x : α) : x ∈ upsertBy key xs x := by
  unfold upsertBy
  split
  · rename_i hany
    obtain ⟨y, hy, hk⟩ := List.any_eq_true.mp hany
    exact List.mem_map.mpr ⟨y, hy, by simp [hk]⟩
  · exact List.mem_append_right _ (List.mem_singleton_self _)

theorem mem_upsertBy_of_ne (hy : y ∈ xs) (hne : key y ≠ key x) : y ∈ upsertBy key xs x := by
  unfold upsertBy
  split
  · exact List.mem_map.mpr ⟨y, hy, by simp [hne]⟩
  · exact List.mem_append_left _ hy

/-- Storing an item by its key keeps the keys distinct. -/
theorem nodup_keys_upsertBy (h : (xs.map key).Nodup) : ((upsertBy key xs x).map key).Nodup := by
  by_cases hx : ∃ y ∈ xs, key y = key x
  · rw [map_upsertBy_of_present hx fun _ _ hk => hk]
    exact h
  · push Not at hx
    rw [upsertBy_of_fresh hx, List.map_append, List.map_singleton, List.nodup_append]
    refine ⟨h, List.nodup_singleton _, ?_⟩
    simp only [List.mem_map, List.mem_singleton]
    rintro _ ⟨y, hy, rfl⟩ _ rfl
    exact hx y hy

/-- Storing an item by its key keeps what `f` sees of the items distinct, when `f` sees of the
new item what it sees of no stored one. -/
theorem nodup_map_upsertBy {f : α → β} (hk : (xs.map key).Nodup) (hf : (xs.map f).Nodup)
    (hx : f x ∉ xs.map f) : ((upsertBy key xs x).map f).Nodup := by
  unfold upsertBy
  split
  · -- the item replaces the one of its key, which `f` told apart from the rest
    rw [List.map_map]
    refine List.Nodup.map_on (fun a ha b hb hab => ?_) (List.Nodup.of_map key hk)
    simp only [Function.comp_apply] at hab
    by_cases hax : key a = key x <;> by_cases hbx : key b = key x
    · exact List.inj_on_of_nodup_map hk ha hb (hax.trans hbx.symm)
    · simp [hax, hbx] at hab
      exact absurd (hab ▸ List.mem_map_of_mem hb) hx
    · simp [hax, hbx] at hab
      exact absurd (hab ▸ List.mem_map_of_mem ha) hx
    · simp [hax, hbx] at hab
      exact List.inj_on_of_nodup_map hf ha hb hab
  · rw [List.map_append, List.map_singleton, List.nodup_append]
    refine ⟨hf, List.nodup_singleton _, ?_⟩
    simp only [List.mem_singleton]
    rintro _ ha _ rfl heq
    exact hx (heq ▸ ha)

end Upsert

section Folds

variable {α : Type} {F : Option α → α → Option α}

/-- A fold whose step always holds an item holds one after any item. -/
theorem foldl_isSome (hF : ∀ o a, (F o a).isSome) (l : List α) {o : Option α}
    (ho : o.isSome ∨ l ≠ []) : (l.foldl F o).isSome := by
  induction l generalizing o with
  | nil => simpa using ho
  | cons a l ih => exact ih (.inl (hF o a))

/-- A fold whose step holds the item or what it held ends holding an item of the list, or the
start. -/
theorem mem_of_foldl (hF : ∀ o a b, F o a = some b → b = a ∨ o = some b) (l : List α)
    {o : Option α} {b : α} (h : l.foldl F o = some b) : b ∈ l ∨ o = some b := by
  induction l generalizing o with
  | nil => exact .inr h
  | cons a l ih =>
    rcases ih h with hb | hb
    · exact .inl (List.mem_cons_of_mem _ hb)
    · rcases hF o a b hb with rfl | hb'
      · exact .inl List.mem_cons_self
      · exact .inr hb'

end Folds

namespace Store

variable {s s' : Store} {c : Conversation}

/-- A conversation the store takes is stored by its id, as it is or with its times as the
database keeps them. The in-memory store indexes it under its customer's key; the database takes
it only under an id it does not hold. -/
theorem createConversation_ok (h : s.createConversation c = .ok s') :
    ∃ c', c'.keys = c.keys ∧ s'.conversations = upsertBy (·.id) s.conversations c' ∧
      s'.messages = s.messages ∧ s'.backend = s.backend ∧
      (s.backend = .memory → s'.phoneIndex =
        upsertBy (·.1) s.phoneIndex (phoneKey c.workspaceId c.phone, c.id)) ∧
      (s.backend = .sql → ∀ y ∈ s.conversations, y.id ≠ c.id) := by
  unfold createConversation at h
  split at h
  · rename_i hb
    cases h
    exact ⟨c, rfl, rfl, rfl, rfl, fun _ => rfl, fun hsql => by simp [hb] at hsql⟩
  · rename_i hb
    split at h
    · cases h
    · rename_i hany
      cases h
      have hfresh : ∀ y ∈ s.conversations, y.id ≠ c.id := by simpa using hany
      exact ⟨c.keptInDatabase, rfl, (upsertBy_of_fresh (x := c.keptInDatabase) hfresh).symm, rfl, rfl,
        fun hm => by simp [hb] at hm, fun _ => hfresh⟩

/-- Where a look-up finds nothing, no stored conversation is of the customer, given that in
memory every stored conversation is indexed under its key and every index entry names a stored
one. -/
theorem customer_not_mem_of_find_none {phone ws : String}
    (hfind : s.findConversation? phone ws = none)
    (hindexed : s.backend = .memory → ∀ c ∈ s.conversations,
      (s.phoneIndex.lookup (phoneKey c.workspaceId c.phone)).isSome)
    (hresolves : s.backend = .memory → ∀ k id, s.phoneIndex.lookup k = some id →
      ∃ c ∈ s.conversations, c.id = id) :
    (ws, phone) ∉ s.conversations.map Conversation.customer := by
  intro hmem
  obtain ⟨c, hc, hcust⟩ := List.mem_map.mp hmem
  simp only [Conversation.customer, Prod.mk.injEq] at hcust
  obtain ⟨rfl, rfl⟩ := hcust
  unfold findConversation? at hfind
  cases hb : s.backend with
  | memory =>
    obtain ⟨id, hid⟩ := Option.isSome_iff_exists.mp (hindexed hb c hc)
    obtain ⟨c', hc', rfl⟩ := hresolves hb _ id hid
    -- the index names a stored conversation, which the look-up finds
    have hsome : (s.conversation? c'.id).isSome := List.find?_isSome.mpr ⟨c', hc', by simp⟩
    simp only [hb, hid, Option.bind_some] at hfind
    rw [hfind] at hsome
    cases hsome
  | sql =>
    simp only [hb] at hfind
    -- the database keeps the newest of the customer's conversations, of which there is one
    have hne : s.conversations.filter (fun c' =>
        c'.workspaceId == c.workspaceId && c'.phone == c.phone) ≠ [] :=
      List.ne_nil_of_mem (List.mem_filter.mpr ⟨hc, by simp⟩)
    refine absurd hfind (Option.isSome_iff_ne_none.mp (foldl_isSome (fun o a => ?_) _ (.inr hne)))
    cases o with
    | none => rfl
    | some b =>
      dsimp only
      split <;> rfl

/-- What a look-up finds is stored under its id as the customer's, given that in memory every
index entry names a stored conversation of its key and keys tell customers apart. -/
theorem stored_of_find_some {phone ws : String} (hfind : s.findConversation? phone ws = some c)
    (hsound : s.backend = .memory → ∀ k id, s.phoneIndex.lookup k = some id →
      ∃ y ∈ s.conversations, y.id = id ∧ phoneKey y.workspaceId y.phone = k)
    (hplain : s.backend = .memory →
      ':' ∉ ws.toList ∧ ∀ y ∈ s.conversations, ':' ∉ y.workspaceId.toList) :
    ∃ y ∈ s.conversations, y.id = c.id ∧ y.customer = (ws, phone) := by
  unfold findConversation? at hfind
  cases hb : s.backend with
  | memory =>
    simp only [hb] at hfind
    obtain ⟨id, hid, hc⟩ := Option.bind_eq_some_iff.mp hfind
    obtain ⟨y, hy, rfl, hkey⟩ := hsound hb _ id hid
    obtain ⟨hws, hys⟩ := hplain hb
    obtain ⟨rfl, rfl⟩ := phoneKey_inj (hys y hy) hws hkey
    exact ⟨y, hy, (conversation?_some hc).2.symm, rfl⟩
  | sql =>
    simp only [hb] at hfind
    have hmem := mem_of_foldl (fun o a b h => by
      cases o with
      | none => exact .inl (Option.some.inj h).symm
      | some b' =>
        dsimp only at h
        split at h
        · exact .inl (Option.some.inj h).symm
        · exact .inr h) _ hfind
    rcases hmem with hc | hc
    · obtain ⟨hc, hmatch⟩ := List.mem_filter.mp hc
      simp only [Bool.and_eq_true, beq_iff_eq] at hmatch
      exact ⟨c, hc, rfl, by simp [Conversation.customer, hmatch.1, hmatch.2]⟩
    · cases hc

end Store

/-- A recorded message is stored under its id, as the customer's message on the conversation. -/
theorem recordInbound_stored {m : Inbound} {conv : Conversation} {ws : Workspace} {phone : String}
    {w w' : World} {msg : Message}
    (h : exec (Routing.recordInbound m conv ws phone) w = (.ok msg, w')) :
    ∃ c ∈ w'.store.messages, c.id = msg.id ∧ m.RecordedAs conv.id c := by
  unfold Routing.recordInbound at h
  obtain ⟨_, _, _, -, rfl, t, hstore⟩ := exec_keepMessage_ok h
  rw [hstore]
  exact ⟨_, List.mem_append_right _ (List.mem_singleton_self _), rfl, ⟨rfl, rfl, rfl, rfl, rfl⟩⟩

/-! ### What every run keeps -/

namespace Processor

open Store (phoneKey)

variable {arrivals : List Arrival} {w₀ : World}

/-- The runs in which customers stay apart: in the database store, or in memory with workspace
ids that hold no colon, so that index keys tell customers apart, and fewer than `16 ^ 12` ids
made, so that ids do not repeat. -/
def Apart (arrivals : List Arrival) (w₀ w : World) : Prop :=
  w₀.store.backend = .sql ∨ (∀ a ∈ arrivals, ':' ∉ a.workspace.id.toList) ∧ w.issued < 16 ^ 12

theorem Apart.anti {w w' : World} (h : Apart arrivals w₀ w') (hle : w.issued ≤ w'.issued) :
    Apart arrivals w₀ w :=
  h.imp_right fun ⟨hplain, hlt⟩ => ⟨hplain, by omega⟩

theorem Apart.plain {w : World} (h : Apart arrivals w₀ w) (hb : w₀.store.backend = .memory) :
    ∀ a ∈ arrivals, ':' ∉ a.workspace.id.toList :=
  (h.resolve_left (by simp [hb])).1

/-- Conversation `c` is stored in `w` under its id, as the conversation of customer `p`. -/
def StoredFor (w : World) (p : String × String) (c : Conversation) : Prop :=
  ∃ c' ∈ w.store.conversations, c'.id = c.id ∧ c'.customer = p

theorem Kept.customers_eq {w w' : World} (hk : Kept w w')
    (hids : (w.store.conversations.map (·.id)).Nodup) :
    w'.store.conversations.map Conversation.customer =
      w.store.conversations.map Conversation.customer := by
  have h := congrArg (List.map Prod.snd) (hk.conversations hids)
  simp only [List.map_map] at h
  exact h

theorem StoredFor.kept {w w' : World} {p : String × String} {c : Conversation}
    (h : StoredFor w p c) (hids : (w.store.conversations.map (·.id)).Nodup) (hk : Kept w w') :
    StoredFor w' p c := by
  obtain ⟨y, hy, hid, hcust⟩ := h
  obtain ⟨y', hy', hkeys⟩ := exists_of_map_eq (hk.conversations hids).symm hy
  obtain ⟨hid', hcust'⟩ := Conversation.keys_eq_keys.mp hkeys
  exact ⟨y', hy', hid'.trans hid, hcust'.trans hcust⟩

/-- What holds of the world along every run from a store without conversations. -/
structure Stored (arrivals : List Arrival) (w₀ w : World) : Prop where
  setup : w.setup = w₀.setup
  backend : w.store.backend = w₀.store.backend
  ids : (w.store.conversations.map (·.id)).Nodup
  /-- No two stored conversations are of one customer. -/
  customers : (w.store.conversations.map Conversation.customer).Nodup
  /-- Every stored conversation is of the customer of an arrival. -/
  callers : ∀ c ∈ w.store.conversations, ∃ a ∈ arrivals, c.customer = a.customer w₀.setup
  /-- Every stored conversation has an id made by now. -/
  made : ∀ c ∈ w.store.conversations, ∃ n, 0 < n ∧ n ≤ w.issued ∧ c.id = freshText n
  /-- In memory every stored conversation is indexed under its customer's key, -/
  indexed : w₀.store.backend = .memory → ∀ c ∈ w.store.conversations,
    (w.store.phoneIndex.lookup (phoneKey c.workspaceId c.phone)).isSome
  /-- every index entry names a stored conversation, -/
  resolves : w₀.store.backend = .memory → ∀ k id, w.store.phoneIndex.lookup k = some id →
    ∃ c ∈ w.store.conversations, c.id = id
  /-- and, while customers stay apart, one of its key. -/
  sound : Apart arrivals w₀ w → w₀.store.backend = .memory → ∀ k id,
    w.store.phoneIndex.lookup k = some id →
      ∃ c ∈ w.store.conversations, c.id = id ∧ phoneKey c.workspaceId c.phone = k

namespace Stored

variable {w w' : World}

theorem init (hconvs : w₀.store.conversations = []) (hindex : w₀.store.phoneIndex = []) :
    Stored arrivals w₀ w₀ where
  setup := rfl
  backend := rfl
  ids := by simp [hconvs]
  customers := by simp [hconvs]
  callers := by simp [hconvs]
  made := by simp [hconvs]
  indexed := by simp [hconvs]
  resolves := by simp [hindex]
  sound := by simp [hindex]

theorem plain (h : Stored arrivals w₀ w) (hplain : ∀ a ∈ arrivals, ':' ∉ a.workspace.id.toList) :
    ∀ c ∈ w.store.conversations, ':' ∉ c.workspaceId.toList := by
  intro c hc
  obtain ⟨a, ha, hca⟩ := h.callers c hc
  simp only [Conversation.customer, Arrival.customer, Prod.mk.injEq] at hca
  rw [hca.1]
  exact hplain a ha

/-- The rest of a handler's work keeps the facts. -/
theorem kept (h : Stored arrivals w₀ w) (hk : Kept w w') : Stored arrivals w₀ w' := by
  have hkeys := hk.conversations h.ids
  -- each conversation of `w'` has one of `w` with its keys
  have back : ∀ c ∈ w'.store.conversations,
      ∃ y ∈ w.store.conversations, y.id = c.id ∧ y.customer = c.customer := fun c hc => by
    obtain ⟨y, hy, hyc⟩ := exists_of_map_eq hkeys hc
    exact ⟨y, hy, Conversation.keys_eq_keys.mp hyc⟩
  refine ⟨hk.setup.trans h.setup, hk.backend.trans h.backend, (hk.ids_eq h.ids).symm ▸ h.ids,
    (hk.customers_eq h.ids).symm ▸ h.customers, fun c hc => ?_, fun c hc => ?_,
    fun hb c hc => ?_, fun hb k id hid => ?_, fun hap hb k id hid => ?_⟩
  · obtain ⟨y, hy, -, hyc⟩ := back c hc
    rw [← hyc]
    exact h.callers y hy
  · obtain ⟨y, hy, hyid, -⟩ := back c hc
    obtain ⟨n, hn, hle, hid⟩ := h.made y hy
    exact ⟨n, hn, hle.trans hk.issued, hyid ▸ hid⟩
  · obtain ⟨y, hy, -, hyc⟩ := back c hc
    simp only [Conversation.customer, Prod.mk.injEq] at hyc
    rw [hk.phoneIndex, ← hyc.1, ← hyc.2]
    exact h.indexed hb y hy
  · rw [hk.phoneIndex] at hid
    obtain ⟨y, hy, rfl⟩ := h.resolves hb k id hid
    obtain ⟨y', hy', hkeys'⟩ := exists_of_map_eq hkeys.symm hy
    exact ⟨y', hy', (Conversation.keys_eq_keys.mp hkeys').1⟩
  · rw [hk.phoneIndex] at hid
    obtain ⟨y, hy, rfl, hkey⟩ := h.sound (hap.anti hk.issued) hb k id hid
    obtain ⟨y', hy', hkeys'⟩ := exists_of_map_eq hkeys.symm hy
    obtain ⟨hid', hcust'⟩ := Conversation.keys_eq_keys.mp hkeys'
    simp only [Conversation.customer, Prod.mk.injEq] at hcust'
    exact ⟨y', hy', hid', by rw [hcust'.1, hcust'.2, hkey]⟩

/-- While ids do not repeat, the next id made is no stored conversation's. -/
theorem fresh_ne (h : Stored arrivals w₀ w) (hlt : w.issued + 1 < 16 ^ 12) :
    ∀ y ∈ w.store.conversations, y.id ≠ freshText (w.issued + 1) := by
  intro y hy hid
  obtain ⟨n, -, hle, hn⟩ := h.made y hy
  have := freshText_inj (by omega) hlt (hn.symm.trans hid)
  omega

/-- While customers stay apart, creating a conversation keeps every stored one. -/
theorem stays {c : Conversation} {s' : Store} (h : Stored arrivals w₀ w)
    (hc : c.id = freshText (w.issued + 1)) (hs : w.store.createConversation c = .ok s')
    (hap : Apart arrivals w₀ { w with issued := w.issued + 1, store := s' }) :
    ∀ y ∈ w.store.conversations, y ∈ s'.conversations := by
  obtain ⟨c', hkeys, hconvs, -, -, -, hsql⟩ := Store.createConversation_ok hs
  intro y hy
  rw [hconvs]
  refine mem_upsertBy_of_ne hy ?_
  rw [(Conversation.keys_eq_keys.mp hkeys).1]
  rcases hap with hb | ⟨-, hlt⟩
  · exact hsql (h.backend.trans hb) y hy
  · exact hc ▸ h.fresh_ne hlt y hy

/-- A handler that found no conversation of its customer creates one, keeping the facts. -/
theorem create {a : Arrival} {s' : Store} (h : Stored arrivals w₀ w) (ha : a ∈ arrivals)
    (habsent : a.customer w₀.setup ∉ w.store.conversations.map Conversation.customer)
    (hs : w.store.createConversation
      (newConversation (a.sender w.setup) a.inbound.contactName a.workspace w) = .ok s') :
    Stored arrivals w₀ { w with issued := w.issued + 1, store := s' } := by
  set c := newConversation (a.sender w.setup) a.inbound.contactName a.workspace w with hc
  obtain ⟨c', hkeys, hconvs, -, hback, hindex, -⟩ := Store.createConversation_ok hs
  obtain ⟨hid', hcust'⟩ := Conversation.keys_eq_keys.mp hkeys
  have hcust : c.customer = a.customer w₀.setup := by
    simp [hc, newConversation, Conversation.customer, Arrival.customer, h.setup]
  -- a stored conversation is the new one, or an old one of another id
  have hmem : ∀ y ∈ s'.conversations, y = c' ∨ (y ∈ w.store.conversations ∧ y.id ≠ c'.id) :=
    fun y hy => mem_upsertBy (hconvs ▸ hy)
  have hnew : c' ∈ s'.conversations := hconvs ▸ mem_upsertBy_self _ _ _
  refine ⟨h.setup, hback.trans h.backend, hconvs ▸ nodup_keys_upsertBy h.ids,
    hconvs ▸ nodup_map_upsertBy h.ids h.customers (hcust'.trans hcust ▸ habsent),
    fun y hy => ?_, fun y hy => ?_, fun hb y hy => ?_, fun hb k id hk => ?_,
    fun hap hb k id hk => ?_⟩
  · rcases hmem y hy with rfl | ⟨hy, -⟩
    · exact ⟨a, ha, hcust'.trans hcust⟩
    · exact h.callers y hy
  · rcases hmem y hy with rfl | ⟨hy, -⟩
    · exact ⟨w.issued + 1, Nat.succ_pos _, le_refl _, hid'⟩
    · obtain ⟨n, hn, hle, hid⟩ := h.made y hy
      exact ⟨n, hn, Nat.le_succ_of_le hle, hid⟩
  · simp only [hindex (h.backend.trans hb), lookup_upsertBy_fst]
    split
    · rfl
    · rename_i hne
      rcases hmem y hy with rfl | ⟨hy, -⟩
      · simp only [Conversation.customer, Prod.mk.injEq] at hcust'
        exact absurd (by rw [hcust'.1, hcust'.2]) hne
      · exact h.indexed hb y hy
  · simp only [hindex (h.backend.trans hb), lookup_upsertBy_fst] at hk
    split at hk
    · cases hk
      exact ⟨c', hnew, hid'⟩
    · obtain ⟨y, hy, rfl⟩ := h.resolves hb k id hk
      by_cases hyc : y.id = c'.id
      · exact ⟨c', hnew, hyc.symm⟩
      · exact ⟨y, hconvs ▸ mem_upsertBy_of_ne hy hyc, rfl⟩
  · simp only [hindex (h.backend.trans hb), lookup_upsertBy_fst] at hk
    split at hk
    · rename_i hkc
      cases hk
      simp only [Conversation.customer, Prod.mk.injEq] at hcust'
      exact ⟨c', hnew, hid', by rw [hkc, hcust'.1, hcust'.2]⟩
    · obtain ⟨y, hy, rfl, hkey⟩ := h.sound (hap.anti (Nat.le_succ _)) hb k id hk
      exact ⟨y, h.stays rfl hs hap y hy, rfl, hkey⟩

end Stored

/-- What a handler's stage says of world `w`, for the handler of arrival `a` while it holds its
lock or not (`holding`): one about to create finds no conversation of its customer while it holds
the lock; and while customers stay apart, a handler's conversation is stored as its customer's,
with the message it recorded. -/
def Stage.Fits (arrivals : List Arrival) (w₀ w : World) (a : Arrival) (holding : Prop) :
    Stage → Prop
  | .looking => True
  | .creating => holding → a.customer w₀.setup ∉ w.store.conversations.map Conversation.customer
  | .recording c => Apart arrivals w₀ w → StoredFor w (a.customer w₀.setup) c
  | .working c m => Apart arrivals w₀ w →
      (∃ m' ∈ w.store.messages, m'.id = m.id ∧ a.inbound.RecordedAs c.id m') ∧
        StoredFor w (a.customer w₀.setup) c
  | .failed => True

namespace Stage.Fits

variable {st : Stage} {w w' : World} {a b : Arrival} {holding : Prop}

theorem mono_holding {holding' : Prop} (h : st.Fits arrivals w₀ w a holding)
    (himp : holding' → holding) : st.Fits arrivals w₀ w a holding' := by
  cases st with
  | creating => exact fun hold => h (himp hold)
  | _ => exact h

theorem kept (h : st.Fits arrivals w₀ w a holding) (hs : Stored arrivals w₀ w) (hk : Kept w w') :
    st.Fits arrivals w₀ w' a holding := by
  cases st with
  | looking => trivial
  | creating =>
    intro hold
    rw [hk.customers_eq hs.ids]
    exact h hold
  | recording c => exact fun hap => (h (hap.anti hk.issued)).kept hs.ids hk
  | working c m =>
    intro hap
    obtain ⟨⟨m', hm', hid, hrec⟩, hstored⟩ := h (hap.anti hk.issued)
    exact ⟨⟨m', hk.messages.mem hm', hid, hrec⟩, hstored.kept hs.ids hk⟩
  | failed => trivial

/-- Another handler's creation keeps what a stage says, when the handler holding its lock is of
another customer. -/
theorem create {s' : Store} (h : st.Fits arrivals w₀ w a holding) (hs : Stored arrivals w₀ w)
    (hne : holding → a.customer w₀.setup ≠ b.customer w₀.setup)
    (hcreate : w.store.createConversation
      (newConversation (b.sender w.setup) b.inbound.contactName b.workspace w) = .ok s') :
    st.Fits arrivals w₀ { w with issued := w.issued + 1, store := s' } a holding := by
  obtain ⟨c', hkeys, hconvs, hmsgs, -, -, -⟩ := Store.createConversation_ok hcreate
  cases st with
  | looking => trivial
  | creating =>
    intro hold hmem
    obtain ⟨y, hy, hya⟩ := List.mem_map.mp hmem
    rcases mem_upsertBy (hconvs ▸ hy) with rfl | ⟨hy, -⟩
    · -- the new conversation is of the creating handler's customer
      refine hne hold (hya.symm.trans ((Conversation.keys_eq_keys.mp hkeys).2.trans ?_))
      simp [newConversation, Conversation.customer, Arrival.customer, hs.setup]
    · exact h hold (List.mem_map.mpr ⟨y, hy, hya⟩)
  | recording c =>
    intro hap
    obtain ⟨y, hy, hid, hcust⟩ := h (hap.anti (Nat.le_succ _))
    exact ⟨y, hs.stays rfl hcreate hap y hy, hid, hcust⟩
  | working c m =>
    intro hap
    obtain ⟨hrec, y, hy, hid, hcust⟩ := h (hap.anti (Nat.le_succ _))
    exact ⟨hmsgs ▸ hrec, y, hs.stays rfl hcreate hap y hy, hid, hcust⟩
  | failed => trivial

end Stage.Fits

/-- What holds along every run of the processor from a store without conversations. -/
structure Consistent (arrivals : List Arrival) (w₀ : World) (S : State) : Prop where
  stored : Stored arrivals w₀ S.world
  locks : Serial.Inv S.locks
  /-- Each handler keeps the key of its arrival. -/
  keys : S.locks.handlers.map (·.key) = arrivals.map (Arrival.key w₀.setup)
  /-- A handler past its look-up holds its lock or has left. -/
  settled : ∀ t, S.stages t ≠ .looking →
    S.Holding t ∨ ∃ k, S.locks.handlers[t]? = some ⟨k, .done⟩
  fits : ∀ t a, arrivals[t]? = some a → (S.stages t).Fits arrivals w₀ S.world a (S.Holding t)

namespace Consistent

variable {S : State} {t u : Nat} {a b : Arrival}

theorem init (hconvs : w₀.store.conversations = []) (hindex : w₀.store.phoneIndex = []) :
    Consistent arrivals w₀ (start arrivals w₀) where
  stored := Stored.init hconvs hindex
  locks := Serial.inv_init _
  keys := by simp [start, Serial.State.init, List.map_map, Function.comp_def]
  settled := fun _ h => absurd rfl h
  fits := fun _ _ _ => trivial

/-- A handler that holds its lock holds the lock of its arrival's key. -/
theorem holding_key (hc : Consistent arrivals w₀ S) (ha : arrivals[t]? = some a)
    (hold : S.Holding t) : ∃ l, S.locks.handlers[t]? = some ⟨a.key w₀.setup, .holding l⟩ := by
  obtain ⟨k, l, hkl⟩ := hold
  have hkey := congrArg (·[t]?) hc.keys
  simp only [List.getElem?_map, hkl, ha, Option.map_some, Option.some.injEq] at hkey
  exact ⟨l, hkey ▸ hkl⟩

/-- Two handlers holding their locks at once are of two customers. -/
theorem customer_ne (hc : Consistent arrivals w₀ S) (ha : arrivals[t]? = some a)
    (hb : arrivals[u]? = some b) (hold : S.Holding t) (hold' : S.Holding u) (htu : t ≠ u) :
    a.customer w₀.setup ≠ b.customer w₀.setup := by
  intro heq
  obtain ⟨l, hl⟩ := hc.holding_key ha hold
  obtain ⟨l', hl'⟩ := hc.holding_key hb hold'
  have hkey : a.key w₀.setup = b.key w₀.setup := by
    simp only [Arrival.customer, Prod.mk.injEq] at heq
    simp [Arrival.key, heq.1, heq.2]
  rw [hkey] at hl
  exact htu (hc.locks.holder_unique hl hl')

/-- Moving a handler that holds its lock leaves every handler past its look-up settled. -/
theorem settled_moveTo (hc : Consistent arrivals w₀ S) (hold : S.Holding u) {st : Stage} (t : Nat)
    (hst : (S.moveTo u st).stages t ≠ .looking) :
    S.Holding t ∨ ∃ k, S.locks.handlers[t]? = some ⟨k, .done⟩ := by
  by_cases htu : t = u
  · subst htu
    exact .inl hold
  · simp only [State.moveTo_stages, Serial.put_apply, htu, if_false] at hst
    exact hc.settled t hst

/-- Moving a handler that holds its lock to a stage that fits keeps the facts. -/
theorem moveTo (hc : Consistent arrivals w₀ S) (hold : S.Holding u) {st : Stage}
    (hfit : ∀ a, arrivals[u]? = some a → st.Fits arrivals w₀ S.world a (S.Holding u)) :
    Consistent arrivals w₀ (S.moveTo u st) := by
  refine ⟨hc.stored, hc.locks, hc.keys, hc.settled_moveTo hold, fun t a ha => ?_⟩
  by_cases htu : t = u
  · subst htu
    simpa using hfit a ha
  · simpa [htu] using hc.fits t a ha

/-- A piece of a handler's rest keeps the facts. -/
theorem kept (hc : Consistent arrivals w₀ S) {w : World} (hk : Kept S.world w) :
    Consistent arrivals w₀ { S with world := w } :=
  ⟨hc.stored.kept hk, hc.locks, hc.keys, hc.settled,
    fun t a ha => (hc.fits t a ha).kept hc.stored hk⟩

/-- A lock event keeps the facts: handlers keep their keys, and one past its look-up that holds
its lock afterwards held it before. -/
theorem lock (hc : Consistent arrivals w₀ S) {e : Serial.Event} {locks : Serial.State}
    (he : Serial.step S.locks e = some locks) : Consistent arrivals w₀ { S with locks } := by
  have hturn := Serial.Turn.of_step he
  have hsettled : ∀ t, S.stages t ≠ .looking →
      (S.Holding t ∨ ¬({ S with locks } : State).Holding t) ∧
        (({ S with locks } : State).Holding t ∨ ∃ k, locks.handlers[t]? = some ⟨k, .done⟩) := by
    intro t hst
    rcases hc.settled t hst with ⟨k, l, hkl⟩ | ⟨k, hk⟩
    · refine ⟨.inl ⟨k, l, hkl⟩, ?_⟩
      rcases hturn.settled hkl (.inl rfl) with h' | h'
      · exact .inl ⟨k, l, h'⟩
      · exact .inr ⟨k, h'⟩
    · have hdone : locks.handlers[t]? = some ⟨k, .done⟩ :=
        (hturn.settled hk (.inr rfl)).elim id id
      refine ⟨.inr fun ⟨k', l', h'⟩ => ?_, .inr ⟨k, hdone⟩⟩
      have h'' : locks.handlers[t]? = some ⟨k', .holding l'⟩ := h'
      rw [hdone] at h''
      simp at h''
  refine ⟨hc.stored, hc.locks.step he, hturn.keys.trans hc.keys,
    fun t hst => (hsettled t hst).2, fun t a ha => ?_⟩
  by_cases hst : S.stages t = .looking
  · show (S.stages t).Fits _ _ _ _ _
    rw [hst]
    trivial
  · exact (hc.fits t a ha).mono_holding fun h' => (hsettled t hst).1.resolve_right (not_not.mpr h')

/-- A look-up keeps the facts: finding nothing, no stored conversation is of the customer;
finding one, it is stored as the customer's while customers stay apart. -/
theorem find (hc : Consistent arrivals w₀ S) (ha : arrivals[u]? = some a) (hold : S.Holding u) :
    Consistent arrivals w₀ (S.moveTo u
      ((S.world.store.findConversation? (a.sender S.world.setup) a.workspace.id).elim
        .creating .recording)) := by
  have hs := hc.stored
  have hcust : a.customer w₀.setup = (a.workspace.id, a.sender S.world.setup) := by
    simp [Arrival.customer, hs.setup]
  refine hc.moveTo hold fun a' ha' => ?_
  obtain rfl : a = a' := Option.some.inj (ha.symm.trans ha')
  cases hf : S.world.store.findConversation? (a.sender S.world.setup) a.workspace.id with
  | none =>
    intro _
    rw [hcust]
    exact Store.customer_not_mem_of_find_none hf (fun hb => hs.indexed (hs.backend ▸ hb))
      (fun hb => hs.resolves (hs.backend ▸ hb))
  | some c =>
    intro hap
    have hplain : S.world.store.backend = .memory → ':' ∉ a.workspace.id.toList ∧
        ∀ y ∈ S.world.store.conversations, ':' ∉ y.workspaceId.toList := fun hb =>
      ⟨hap.plain (hs.backend ▸ hb) a (List.mem_of_getElem? ha),
        hs.plain (hap.plain (hs.backend ▸ hb))⟩
    obtain ⟨y, hy, hid, hyc⟩ := Store.stored_of_find_some hf
      (fun hb => hs.sound hap (hs.backend ▸ hb)) hplain
    exact ⟨y, hy, hid, hyc.trans hcust.symm⟩

/-- A creation keeps the facts: the new conversation is of the creating handler's customer, whom
no other handler holding its lock serves. -/
theorem create (hc : Consistent arrivals w₀ S) (ha : arrivals[u]? = some a) (hold : S.Holding u)
    (hstage : S.stages u = .creating) :
    Consistent arrivals w₀ (S.after u (Routing.openConversation (a.sender S.world.setup)
      a.inbound.contactName a.workspace) .recording) := by
  have habsent : a.customer w₀.setup ∉ S.world.store.conversations.map Conversation.customer := by
    have hfit := hc.fits u a ha
    rw [hstage] at hfit
    exact hfit hold
  rw [State.after_eq, exec_openConversation]
  cases hs : S.world.store.createConversation
      (newConversation (a.sender S.world.setup) a.inbound.contactName a.workspace S.world) with
  | error e =>
    -- nothing is stored: only an id was made
    have hk : Kept S.world { S.world with issued := S.world.issued + 1 } :=
      Kept.of_untouched ⟨rfl, rfl, Nat.le_succ _⟩
    exact (hc.kept hk).moveTo hold fun _ _ => trivial
  | ok s' =>
    obtain ⟨c', hkeys, hconvs, -, -, -, -⟩ := Store.createConversation_ok hs
    refine ⟨hc.stored.create (List.mem_of_getElem? ha) habsent hs, hc.locks, hc.keys,
      hc.settled_moveTo hold, fun t b hb => ?_⟩
    by_cases htu : t = u
    · subst htu
      obtain rfl : a = b := Option.some.inj (ha.symm.trans hb)
      simp only [State.moveTo_stages, Serial.put_apply, if_true, Stage.after_ok]
      intro _
      refine ⟨c', hconvs ▸ mem_upsertBy_self _ _ _, (Conversation.keys_eq_keys.mp hkeys).1,
        (Conversation.keys_eq_keys.mp hkeys).2.trans ?_⟩
      simp [newConversation, Conversation.customer, Arrival.customer, hc.stored.setup]
    · simp only [State.moveTo_stages, Serial.put_apply, htu, if_false, State.holding_moveTo]
      exact (hc.fits t b hb).create hc.stored
        (fun hold' => hc.customer_ne hb ha hold' hold htu) hs

/-- A record keeps the facts: the message is stored, recorded as the customer's on the
handler's conversation. -/
theorem record {c : Conversation} (hc : Consistent arrivals w₀ S) (ha : arrivals[u]? = some a)
    (hold : S.Holding u) (hstage : S.stages u = .recording c) :
    Consistent arrivals w₀ (S.after u (Routing.recordInbound a.inbound c a.workspace
      (a.sender S.world.setup)) (.working c)) := by
  have hk := keeps_recordInbound a.inbound c a.workspace (a.sender S.world.setup) S.world
  have hfit := (hc.fits u a ha).kept hc.stored hk
  rw [hstage] at hfit
  rw [State.after_eq]
  refine (hc.kept hk).moveTo hold fun a' ha' => ?_
  obtain rfl : a = a' := Option.some.inj (ha.symm.trans ha')
  rcases hrec : exec (Routing.recordInbound a.inbound c a.workspace (a.sender S.world.setup))
      S.world with ⟨_ | msg, w'⟩
  · trivial
  · rw [hrec] at hfit
    intro hap
    exact ⟨recordInbound_stored hrec, hfit hap⟩

theorem step (hc : Consistent arrivals w₀ S) {S' : State} (h : Step arrivals S S') :
    Consistent arrivals w₀ S' := by
  cases h with
  | lock he => exact hc.lock he
  | find ha hold _ _ => exact hc.find ha hold
  | create ha hold hstage => exact hc.create ha hold hstage
  | record ha hold hstage => exact hc.record ha hold hstage
  | work _ _ hk => exact hc.kept hk

/-- Every run of the processor from a store without conversations keeps the facts. -/
theorem run (hconvs : w₀.store.conversations = []) (hindex : w₀.store.phoneIndex = [])
    (h : Relation.ReflTransGen (Step arrivals) (start arrivals w₀) S) :
    Consistent arrivals w₀ S := by
  induction h with
  | refl => exact init hconvs hindex
  | tail _ hstep ih => exact ih.step hstep

end Consistent

/-! ### One conversation for each customer -/

/-- Along every run of the processor from a store without conversations, in memory or in the
database, no two stored conversations are of one workspace and number. While customers stay
apart (the database store, or workspace ids without a colon and fewer than `16 ^ 12` ids made),
every handler that recorded its message stored it, under its id and as the customer's message,
on a conversation stored as the one of its workspace and number. -/
theorem one_conversation_per_customer {arrivals : List Arrival} {w : World} {S : State}
    (hconvs : w.store.conversations = []) (hindex : w.store.phoneIndex = [])
    (hrun : Relation.ReflTransGen (Step arrivals) (start arrivals w) S) :
    (∀ ws p, S.world.store.conversations.countP (fun c => c.workspaceId == ws && c.phone == p) ≤ 1) ∧
    (w.store.backend = .sql ∨
        (∀ a ∈ arrivals, ':' ∉ a.workspace.id.toList) ∧ S.world.issued < 16 ^ 12 →
      ∀ t a c m, arrivals[t]? = some a → S.stages t = .working c m →
        (∃ m' ∈ S.world.store.messages, m'.id = m.id ∧ a.inbound.RecordedAs c.id m') ∧
        ∃ c' ∈ S.world.store.conversations, c'.id = c.id ∧ c'.workspaceId = a.workspace.id ∧
          c'.phone = a.sender w.setup) := by
  have hc := Consistent.run hconvs hindex hrun
  refine ⟨fun ws p => ?_, fun hap t a c m ha hstage => ?_⟩
  · -- the customers of the stored conversations are distinct
    have hcount := List.nodup_iff_count_le_one.mp hc.stored.customers (ws, p)
    rw [List.count, List.countP_map] at hcount
    have hpred : (fun c : Conversation => c.workspaceId == ws && c.phone == p) =
        (· == (ws, p)) ∘ Conversation.customer := by
      funext c
      rfl
    rw [hpred]
    exact hcount
  · have hfit := hc.fits t a ha
    rw [hstage] at hfit
    obtain ⟨hrec, c', hc', hid, hcust⟩ := hfit hap
    simp only [Conversation.customer, Arrival.customer, Prod.mk.injEq] at hcust
    exact ⟨hrec, c', hc', hid, hcust⟩

/-! ### A double tap -/

/-- A store without conversations, under the default setup. -/
def tapWorld : World := { clock := ⟨0, 0, some 0⟩ }

/-- Two messages of one customer, arriving together. -/
def doubleTap : List Arrival :=
  [⟨{ phone := "+15550001", messageId := "wamid.in1", text := "hello" },
     { id := "ws_1", phoneId := "1001", accessToken := "TOKEN" }, ⟨0, 0, some 0⟩⟩,
   ⟨{ phone := "+15550001", messageId := "wamid.in2", text := "hello again" },
     { id := "ws_1", phoneId := "1001", accessToken := "TOKEN" }, ⟨0, 0, some 0⟩⟩]

/-- Both handlers enter; the first holds the lock, creates the conversation, records and
leaves, waking the second, which finds the conversation and records. -/
def doubleTapSchedule : List Action :=
  [.lock (.enter 0), .lock (.enter 1), .find 0, .create 0, .record 0, .lock (.leave 0),
   .lock (.resume 1), .find 1, .record 1]

theorem doubleTap_one_conversation :
    ∃ S, Relation.ReflTransGen (Step doubleTap) (start doubleTap tapWorld) S ∧
      (∃ c m c' m', S.stages 0 = .working c m ∧ S.stages 1 = .working c' m') ∧
      (∀ ws p, S.world.store.conversations.countP
        (fun c => c.workspaceId == ws && c.phone == p) ≤ 1) ∧
      (tapWorld.store.backend = .sql ∨
          (∀ a ∈ doubleTap, ':' ∉ a.workspace.id.toList) ∧ S.world.issued < 16 ^ 12 →
        ∀ t a c m, doubleTap[t]? = some a → S.stages t = .working c m →
          (∃ m' ∈ S.world.store.messages, m'.id = m.id ∧ a.inbound.RecordedAs c.id m') ∧
          ∃ c' ∈ S.world.store.conversations, c'.id = c.id ∧ c'.workspaceId = a.workspace.id ∧
            c'.phone = a.sender tapWorld.setup) := by
  have hcheck : (match State.performAll doubleTap (start doubleTap tapWorld) doubleTapSchedule with
    | some S => match S.stages 0, S.stages 1 with
      | .working _ _, .working _ _ => true
      | _, _ => false
    | none => false) = true := by decide +kernel
  split at hcheck
  · rename_i S hS
    split at hcheck
    · rename_i c m c' m' h0 h1
      have hrun := run_of_performAll hS
      exact ⟨S, hrun, ⟨c, m, c', m', h0, h1⟩, one_conversation_per_customer rfl rfl hrun⟩
    · cases hcheck
  · cases hcheck

/-! ### Two customers of one key -/

/-- A setup whose default country code holds a colon and a plus sign. -/
def colonSetup : Setup :=
  { automation := Config.automationDefaults.override [("default_country_code", .str "1:+")] }

/-- A store without conversations, under that setup. -/
def colonWorld : World := { setup := colonSetup, clock := ⟨0, 0, some 0⟩ }

/-- Two customers of one key: in workspace `a` the number `25` becomes `+1:+25`, and in
workspace `a:+1` the number `+25` stays as it is. -/
def sharedArrivals : List Arrival :=
  [⟨{ phone := "25", messageId := "wamid.in1", text := "hello" },
     { id := "a", phoneId := "1001", accessToken := "TOKEN" }, ⟨0, 0, some 0⟩⟩,
   ⟨{ phone := "+25", messageId := "wamid.in2", text := "hi" },
     { id := "a:+1", phoneId := "1002", accessToken := "TOKEN" }, ⟨0, 0, some 0⟩⟩]

/-- The first handler creates its conversation, records and leaves; then the second enters,
looks its conversation up and records. -/
def sharedSchedule : List Action :=
  [.lock (.enter 0), .find 0, .create 0, .record 0, .lock (.leave 0), .lock (.enter 1), .find 1,
   .record 1]

/-- In memory, the second customer's handler finds the first customer's conversation under the
key the two share and records its message there, and no conversation of its own workspace and
number is ever stored. -/
theorem sharedKey_recorded_elsewhere :
    ∃ S, Relation.ReflTransGen (Step sharedArrivals) (start sharedArrivals colonWorld) S ∧
      ∃ a c m, sharedArrivals[1]? = some a ∧ a.customer colonWorld.setup = ("a:+1", "+25") ∧
        S.stages 1 = .working c m ∧ m.conversationId = c.id ∧ c.customer = ("a", "+1:+25") ∧
        ("a:+1", "+25") ∉ S.world.store.conversations.map Conversation.customer := by
  -- the schedule is carried out on the concrete world and its end state checked
  have hcheck : (match State.performAll sharedArrivals (start sharedArrivals colonWorld)
      sharedSchedule with
    | some S => match S.stages 1 with
      | .working c m => m.conversationId == c.id && c.customer == ("a", "+1:+25") &&
          !(S.world.store.conversations.map Conversation.customer).contains ("a:+1", "+25")
      | _ => false
    | none => false) = true := by decide +kernel
  split at hcheck
  · rename_i S hS
    split at hcheck
    · rename_i c m hst
      simp only [Bool.and_eq_true, beq_iff_eq, Bool.not_eq_true'] at hcheck
      exact ⟨S, run_of_performAll hS, _, c, m, rfl, by decide +kernel, hst, hcheck.1.1,
        hcheck.1.2, by simpa using hcheck.2⟩
    · cases hcheck
  · cases hcheck

end Processor

end Autoresponder
