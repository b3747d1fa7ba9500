import Autoresponder.Proofs.FlowExpiry

/-!
# Which chatbot a message starts

Among the published chatbots with a trigger that is not blank, a message starts the first whose
trigger it matches exactly, ignoring case, blank space at the ends and leading slashes; failing
that, the first whose trigger it contains. An exact match is always a match
(`fires_of_isExact`), so the message starts no chatbot exactly when it matches none
(`trigger_selection_law`). For the same reason a text that is exactly the trigger of the
conversation's own chatbot restarts it whether the wait has expired or not
(`Flow.handle_restarts_on_exact_trigger`).
-/

namespace Autoresponder.Trigger

open Autoresponder.Text

/-- A chatbot a message may start: published, with a trigger that is not blank. -/
def Startable (b : Chatbot) : Bool := b.publish && !(trim b.trigger).isEmpty

/-- `b` is the first chatbot of the list that satisfies `p`. -/
def FirstWith (p : Chatbot → Bool) (bots : List Chatbot) (b : Chatbot) : Prop :=
  ∃ before after, bots = before ++ b :: after ∧ p b = true ∧ ∀ x ∈ before, p x = false

theorem find?_eq_some_iff_firstWith {p : Chatbot → Bool} {bots : List Chatbot} {b : Chatbot} :
    bots.find? p = some b ↔ FirstWith p bots b := by
  rw [List.find?_eq_some_iff_append]
  constructor
  · rintro ⟨hb, before, after, rfl, hbefore⟩
    exact ⟨before, after, rfl, hb, fun x hx => by simpa using hbefore x hx⟩
  · rintro ⟨before, after, rfl, hb, hbefore⟩
    exact ⟨hb, before, after, rfl, fun x hx => by simp [hbefore x hx]⟩

/-- Stripping leading characters leaves text only where there was text. -/
theorem isEmpty_of_dropStartOf {s : String} {cs : List Char}
    (h : (dropStartOf s cs).isEmpty = false) : s.isEmpty = false := by
  cases hs : s.isEmpty with
  | false => rfl
  | true =>
    have hempty : s = "" := String.isEmpty_iff.mp hs
    subst hempty
    simp [dropStartOf] at h

/-- An exact trigger is a trigger: both read the same bare forms, and the containment test is
reached only when they differ. -/
theorem fires_of_isExact {message trigger : String} (h : isExact message trigger = true) :
    fires message trigger = true := by
  unfold isExact at h
  unfold fires
  -- the normal forms are opaque here: evaluating them would unfold the case tables
  generalize normalize message = msg at h ⊢
  generalize normalize trigger = trig at h ⊢
  simp only [Bool.and_eq_true, Bool.not_eq_true', beq_iff_eq] at h
  obtain ⟨hbare, hsame⟩ := h
  have htrig : trig.isEmpty = false := isEmpty_of_dropStartOf hbare
  have hmsg : msg.isEmpty = false := isEmpty_of_dropStartOf (hsame ▸ hbare)
  simp [hmsg, htrig, hsame]

/-- The choice as two scans of the whole list: the first exact candidate, else the first
candidate that matches. -/
theorem find?_eq_or (message : String) (bots : List Chatbot) :
    find? message bots =
      (bots.find? fun b => Startable b && isExact message b.trigger).or
        (bots.find? fun b => Startable b && fires message b.trigger) := by
  have hscan : ∀ q : Chatbot → Bool,
      (bots.filter Startable).find? q = bots.find? fun b => Startable b && q b := by
    intro q
    rw [List.find?_filter]
    congr 1
    funext b
    simp
  have hcandidates : (bots.filter fun b => b.publish && !(trim b.trigger).isEmpty) =
      bots.filter Startable := rfl
  simp only [find?]
  rw [hcandidates, hscan, hscan]
  cases bots.find? fun b => Startable b && isExact message b.trigger <;> rfl

theorem find?_eq_none_iff (message : String) (bots : List Chatbot) :
    find? message bots = none ↔ ∀ b ∈ bots, Startable b = true → fires message b.trigger = false := by
  rw [find?_eq_or, Option.or_eq_none_iff, List.find?_eq_none, List.find?_eq_none]
  constructor
  · rintro ⟨-, hnone⟩ b hb hstart
    simpa [hstart] using hnone b hb
  · intro hnone
    -- no candidate fires, so none is exact either
    have hfires : ∀ b ∈ bots, ¬ (Startable b && fires message b.trigger) = true := by
      intro b hb hboth
      rw [Bool.and_eq_true] at hboth
      simp [hnone b hb hboth.1] at hboth
    refine ⟨fun b hb hboth => ?_, hfires⟩
    rw [Bool.and_eq_true] at hboth
    exact hfires b hb (by simp [hboth.1, fires_of_isExact hboth.2])

theorem find?_eq_some_iff (message : String) (bots : List Chatbot) (b : Chatbot) :
    find? message bots = some b ↔
      FirstWith (fun x => Startable x && isExact message x.trigger) bots b ∨
      ((∀ x ∈ bots, Startable x = true → isExact message x.trigger = false) ∧
        FirstWith (fun x => Startable x && fires message x.trigger) bots b) := by
  rw [find?_eq_or, Option.or_eq_some_iff, find?_eq_some_iff_firstWith,
    find?_eq_some_iff_firstWith, List.find?_eq_none]
  have hnone : (∀ x ∈ bots, ¬ (Startable x && isExact message x.trigger) = true) ↔
      ∀ x ∈ bots, Startable x = true → isExact message x.trigger = false := by
    refine forall₂_congr fun x _ => ?_
    cases Startable x <;> simp
  rw [hnone]

/-- The trigger selection law. A message starts no chatbot exactly when no published chatbot
with a trigger that is not blank matches it. Otherwise it starts the first such chatbot, in list
order, that it matches exactly when there is one, and else the first that it matches. This rests
on every exact match being a match, for all messages and triggers. -/
theorem trigger_selection_law (message : String) (bots : List Chatbot) :
    (find? message bots = none ↔
      ∀ b ∈ bots, Startable b = true → fires message b.trigger = false) ∧
    (∀ b, find? message bots = some b ↔
      FirstWith (fun x => Startable x && isExact message x.trigger) bots b ∨
      ((∀ x ∈ bots, Startable x = true → isExact message x.trigger = false) ∧
        FirstWith (fun x => Startable x && fires message x.trigger) bots b)) ∧
    ∀ m t, isExact m t = true → fires m t = true :=
  ⟨find?_eq_none_iff message bots, find?_eq_some_iff message bots,
    fun _ _ h => fires_of_isExact h⟩

end Autoresponder.Trigger

namespace Autoresponder.Flow

open Autoresponder.Time Autoresponder.Op

/-- A text that is exactly the trigger of the conversation's own chatbot starts that chatbot
afresh, whether its wait has expired or not: after expiry such a text also fires the trigger. -/
theorem handle_restarts_on_exact_trigger {conv : Conversation} {ws : Workspace} {bot : Chatbot}
    {inbound : Inbound} {id : String} {now : Stamp} {w : World} {expired : Bool}
    (htext : inbound.isText = true) (hid : conv.chatbotId = some id)
    (hstored : w.store.chatbot? id = some bot) (hexpiry : expiredAt conv now = .ok expired)
    (hexact : Trigger.isExact inbound.text bot.trigger = true) :
    exec (handle conv ws inbound now) w = exec (start conv ws bot now (some inbound)) w := by
  cases hpick : inbound.pick with
  | none =>
    cases expired with
    | true =>
      exact handle_trigger_after_expiry hpick htext hid hstored hexpiry
        (Trigger.fires_of_isExact hexact)
    | false =>
      unfold handle
      simp only [hpick, htext, Option.isSome_none, Bool.or_false, Bool.not_true,
        Bool.false_eq_true, if_false, hid, exec_store, hstored, exec_bind, exec_lift, hexpiry,
        hexact, Bool.and_self, if_true]
  | some p =>
    -- a picked reply skips the expiry branch and meets the exact test directly
    unfold handle
    cases expired <;>
      simp only [hpick, htext, Option.isSome_some, Bool.or_true, Bool.not_true,
        Bool.false_eq_true, if_false, hid, exec_store, hstored, exec_bind, exec_lift, hexpiry,
        if_true, hexact, Bool.and_self]

end Autoresponder.Flow
