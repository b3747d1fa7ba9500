import Autoresponder.Proofs.Effects

/-!
# How the store keeps conversations

A patch of known fields always applies: `Store.updateConversation` gives it the update time
`now` unless it sets one, and replaces every stored conversation of its id by the patched one,
kept as the store keeps times (a database reads them back as UTC wall times). `Store.patched`
is that change as a plain function of the store, so that a run that writes a conversation is
computed by `simp`; the lemmas here say which conversations a patch leaves and which it
changes.
-/

namespace Autoresponder

open Autoresponder.Time Autoresponder.Text Autoresponder.Flow Autoresponder.Op

theorem mem_upsertBy {α : Type} {key : α → String} {xs : List α} {x y : α}
    (h : y ∈ upsertBy key xs x) : y = x ∨ (y ∈ xs ∧ key y ≠ key x) := by
  unfold upsertBy at h
  split at h
  · obtain ⟨z, hz, rfl⟩ := List.mem_map.mp h
    by_cases hk : key z = key x
    · left
      simp [hk]
    · right
      simp [hk, hz]
  · rcases List.mem_append.mp h with hy | hy
    · right
      refine ⟨hy, fun hk => ?_⟩
      rename_i hany
      exact hany (List.any_eq_true.mpr ⟨y, hy, by simp [hk]⟩)
    · left
      exact List.mem_singleton.mp hy

theorem find?_upsertBy {α : Type} (key : α → String) (xs : List α) (x : α) :
    (upsertBy key xs x).find? (key · == key x) = some x := by
  unfold upsertBy
  split
  · rename_i hany
    rw [List.find?_map]
    -- putting `x` in changes no item's key test
    have hp : ((key · == key x) ∘ fun y => if key y == key x then x else y) = (key · == key x) := by
      funext y
      by_cases hy : key y = key x <;> simp [hy]
    rw [hp]
    obtain ⟨z, hz⟩ : ∃ z, xs.find? (key · == key x) = some z := by
      obtain ⟨z, hz, hzk⟩ := List.any_eq_true.mp hany
      exact Option.isSome_iff_exists.mp (List.find?_isSome.mpr ⟨z, hz, hzk⟩)
    have hzk : key z = key x := by simpa using List.find?_some hz
    simp [hz, hzk]
  · rename_i hany
    rw [List.find?_append]
    have hnone : xs.find? (key · == key x) = none := by
      rw [List.find?_eq_none]
      intro z hz hzk
      exact hany (List.any_eq_true.mpr ⟨z, hz, hzk⟩)
    simp [hnone]

namespace Conversation

/-- A patch with its update time: the one it sets, else `now`. -/
def Patch.at (p : Patch) (now : Stamp) : Patch := { p with updatedAt := some (p.updatedAt.getD now) }

@[simp] theorem apply_id (c : Conversation) (p : Patch) : (c.apply p).id = c.id := rfl

@[simp] theorem apply_chatbotId (c : Conversation) (p : Patch) :
    (c.apply p).chatbotId = p.chatbotId.getD c.chatbotId := rfl

@[simp] theorem apply_currentNode (c : Conversation) (p : Patch) :
    (c.apply p).currentNode = p.currentNode.getD c.currentNode := rfl

@[simp] theorem apply_chatbotTimeout (c : Conversation) (p : Patch) :
    (c.apply p).chatbotTimeout = p.chatbotTimeout.getD c.chatbotTimeout := rfl

@[simp] theorem apply_status (c : Conversation) (p : Patch) :
    (c.apply p).status = p.status.getD c.status := rfl

@[simp] theorem apply_handoff (c : Conversation) (p : Patch) :
    (c.apply p).handoff = p.handoff.getD c.handoff := rfl

@[simp] theorem Patch.at_chatbotId (p : Patch) (now : Stamp) : (p.at now).chatbotId = p.chatbotId :=
  rfl

@[simp] theorem Patch.at_currentNode (p : Patch) (now : Stamp) :
    (p.at now).currentNode = p.currentNode := rfl

@[simp] theorem Patch.at_chatbotTimeout (p : Patch) (now : Stamp) :
    (p.at now).chatbotTimeout = p.chatbotTimeout := rfl

@[simp] theorem Patch.at_status (p : Patch) (now : Stamp) : (p.at now).status = p.status := rfl

@[simp] theorem Patch.at_handoff (p : Patch) (now : Stamp) : (p.at now).handoff = p.handoff := rfl

end Conversation

namespace Store

/-- A time as the store keeps it: as given in memory, as a UTC wall time in the database. -/
def keepStamp (s : Store) (t : Stamp) : Stamp :=
  match s.backend with
  | .memory => t
  | .sql => t.keptAsUtc

/-- A conversation as the store keeps it. -/
def keepConversation (s : Store) (c : Conversation) : Conversation :=
  match s.backend with
  | .memory => c
  | .sql => c.keptInDatabase

@[simp] theorem keepStamp_keepStamp (s : Store) (t : Stamp) :
    s.keepStamp (s.keepStamp t) = s.keepStamp t := by
  unfold keepStamp
  split <;> rfl

@[simp] theorem keepConversation_id (s : Store) (c : Conversation) :
    (s.keepConversation c).id = c.id := by
  unfold keepConversation
  split <;> rfl

@[simp] theorem keepConversation_workspaceId (s : Store) (c : Conversation) :
    (s.keepConversation c).workspaceId = c.workspaceId := by
  unfold keepConversation
  split <;> rfl

@[simp] theorem keepConversation_phone (s : Store) (c : Conversation) :
    (s.keepConversation c).phone = c.phone := by
  unfold keepConversation
  split <;> rfl

@[simp] theorem keepConversation_chatbotId (s : Store) (c : Conversation) :
    (s.keepConversation c).chatbotId = c.chatbotId := by
  unfold keepConversation
  split <;> rfl

@[simp] theorem keepConversation_currentNode (s : Store) (c : Conversation) :
    (s.keepConversation c).currentNode = c.currentNode := by
  unfold keepConversation
  split <;> rfl

@[simp] theorem keepConversation_status (s : Store) (c : Conversation) :
    (s.keepConversation c).status = c.status := by
  unfold keepConversation
  split <;> rfl

@[simp] theorem keepConversation_handoff (s : Store) (c : Conversation) :
    (s.keepConversation c).handoff = c.handoff := by
  unfold keepConversation
  split <;> rfl

@[simp] theorem keepConversation_chatbotTimeout (s : Store) (c : Conversation) :
    (s.keepConversation c).chatbotTimeout = c.chatbotTimeout.map s.keepStamp := by
  unfold keepConversation keepStamp
  split
  · simp
  · rfl

/-- Store `s` with conversation `id`, if it has one, changed by a patch whose update time is
set. -/
def patched (s : Store) (id : String) (q : Conversation.Patch) : Store :=
  match s.conversation? id with
  | none => s
  | some c => { s with conversations := upsertBy (·.id) s.conversations (s.keepConversation (c.apply q)) }

@[simp] theorem patched_backend (s : Store) (id : String) (q : Conversation.Patch) :
    (s.patched id q).backend = s.backend := by
  unfold patched
  split <;> rfl

@[simp] theorem patched_chatbots (s : Store) (id : String) (q : Conversation.Patch) :
    (s.patched id q).chatbots = s.chatbots := by
  unfold patched
  split <;> rfl

@[simp] theorem patched_messages (s : Store) (id : String) (q : Conversation.Patch) :
    (s.patched id q).messages = s.messages := by
  unfold patched
  split <;> rfl

theorem conversation?_some {s : Store} {id : String} {c : Conversation}
    (h : s.conversation? id = some c) : c ∈ s.conversations ∧ c.id = id := by
  have hc := List.find?_some h
  exact ⟨List.mem_of_find?_eq_some h, by simpa using hc⟩

theorem id_refetched (s : Store) (c : Conversation) : ((s.conversation? c.id).getD c).id = c.id := by
  cases h : s.conversation? c.id with
  | none => rfl
  | some c' => exact (conversation?_some h).2

/-- After a patch, the conversations of other ids are as they were and those of id `id` are
the one conversation patched. -/
theorem mem_patched {s : Store} {id : String} {q : Conversation.Patch} {c' : Conversation}
    (h : c' ∈ (s.patched id q).conversations) :
    (c' ∈ s.conversations ∧ c'.id ≠ id) ∨
      ∃ c, s.conversation? id = some c ∧ c' = s.keepConversation (c.apply q) := by
  unfold patched at h
  split at h
  · rename_i hnone
    left
    refine ⟨h, fun hid => ?_⟩
    rw [conversation?, List.find?_eq_none] at hnone
    exact hnone c' h (by simp [hid])
  · rename_i c hc
    rcases mem_upsertBy h with rfl | ⟨hmem, hne⟩
    · exact Or.inr ⟨c, hc, rfl⟩
    · left
      refine ⟨hmem, fun hid => hne ?_⟩
      simp [hid, (conversation?_some hc).2]

theorem conversation?_patched {s : Store} {id : String} {q : Conversation.Patch} {c : Conversation}
    (h : s.conversation? id = some c) :
    (s.patched id q).conversation? id = some (s.keepConversation (c.apply q)) := by
  have hid : (s.keepConversation (c.apply q)).id = id := by
    simp [Conversation.apply, (conversation?_some h).2]
  unfold patched
  rw [h]
  have hfind := find?_upsertBy (·.id) s.conversations (s.keepConversation (c.apply q))
  rw [hid] at hfind
  exact hfind

/-- A patch of known fields always applies; its update time is `now` unless it sets one. -/
theorem updateConversation_eq (s : Store) (id : String) (p : Conversation.Patch) (now : Stamp)
    (hp : p.unknown = []) :
    s.updateConversation id p now =
      .ok ((s.conversation? id).map fun c => s.keepConversation (c.apply (p.at now)),
        s.patched id (p.at now)) := by
  unfold updateConversation patched keepConversation Conversation.Patch.at
  split
  · split <;> simp_all
  · simp only [hp, List.isEmpty_nil, Bool.not_true, Bool.false_eq_true, if_false]
    split <;> simp_all

end Store

theorem Store.keepStamp_of_backend {s s' : Store} (h : s'.backend = s.backend) :
    s'.keepStamp = s.keepStamp := by
  funext t
  unfold Store.keepStamp
  rw [h]

end Autoresponder
