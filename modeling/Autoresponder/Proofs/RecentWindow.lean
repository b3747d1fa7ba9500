import Autoresponder.Store.Basic

/-!
# The window of recent messages

Reading the latest messages of a conversation sorts them by time and cuts a window at the
newest end. Newest first, both stores give the `limit` newest messages, in order of
non-increasing time. Oldest first, they give that window reversed, except that the in-memory
store cuts its window with a slice from the back, which keeps every message when the limit is
zero (`zeroLimit_oldestFirst_not_reversed`). The in-memory store also sorts the stamps itself,
and a conversation whose stamps mix naive and aware ones cannot be sorted.

Main statement: `recent_messages_window`.
-/

namespace Autoresponder.Store

open Autoresponder.Time

/-- The messages of a conversation, in the order stored. -/
def messagesOf (s : Store) (conversationId : String) : List Message :=
  s.messages.filter (·.conversationId == conversationId)

/-- `newest` holds the `limit` newest messages of `mine`, newest first: as many as the limit
allows, in order of non-increasing time, and none of the others is newer than any of them. -/
structure Window (mine : List Message) (limit : Nat) (newest : List Message) : Prop where
  length : newest.length = min limit mine.length
  sorted : newest.Pairwise fun a b => b.createdAt.instant ≤ a.createdAt.instant
  newest : ∃ older, (newest ++ older).Perm mine ∧
    ∀ a ∈ newest, ∀ b ∈ older, b.createdAt.instant ≤ a.createdAt.instant

/-- A conversation's messages in order of time, the first stored first among equal times. -/
def byTime (mine : List Message) : List Message :=
  mine.mergeSort fun a b => decide (a.createdAt.instant ≤ b.createdAt.instant)

theorem byTime_sorted (mine : List Message) :
    (byTime mine).Pairwise fun a b => a.createdAt.instant ≤ b.createdAt.instant := by
  have hsorted := @List.pairwise_mergeSort Message
    (fun a b => decide (a.createdAt.instant ≤ b.createdAt.instant))
    (fun a b c hab hbc => by
      simp only [decide_eq_true_eq] at hab hbc ⊢
      exact Int.le_trans hab hbc)
    (fun a b => by
      simp only [Bool.or_eq_true, decide_eq_true_eq]
      exact Int.le_total _ _) mine
  exact hsorted.imp fun h => by simpa using h

/-- Cutting a window at the newest end of the messages in order of time gives the newest. -/
theorem window_byTime (mine : List Message) (limit : Nat) :
    Window mine limit ((byTime mine).reverse.take limit) := by
  have hdesc : (byTime mine).reverse.Pairwise
      fun a b => b.createdAt.instant ≤ a.createdAt.instant :=
    List.pairwise_reverse.mpr (byTime_sorted mine)
  have hsplit := List.take_append_drop limit (byTime mine).reverse
  rw [← hsplit, List.pairwise_append] at hdesc
  obtain ⟨hsorted, -, hacross⟩ := hdesc
  refine ⟨?_, hsorted, (byTime mine).reverse.drop limit, ?_, hacross⟩
  · simp [byTime, List.length_mergeSort]
  · rw [hsplit]
    exact (List.reverse_perm _).trans (List.mergeSort_perm _ _)

/-- Newest first, both stores cut the window at the newest end. -/
theorem recentMessages_newestFirst (s : Store) (conversationId : String) (limit : Nat) :
    s.recentMessages conversationId limit true =
      (byTime (s.messagesOf conversationId)).reverse.take limit := by
  have hnn : ¬ (limit : Int) < 0 := by omega
  cases hb : s.backend <;>
    simp [recentMessages, hb, sliceFront, hnn, byTime, messagesOf]

/-- Oldest first, the database reverses the window, and so does the in-memory store for a
positive limit: its slice from the back then keeps the same messages. -/
theorem recentMessages_oldestFirst (s : Store) (conversationId : String) (limit : Nat)
    (hcut : s.backend = .sql ∨ 0 < limit) :
    s.recentMessages conversationId limit false =
      ((byTime (s.messagesOf conversationId)).reverse.take limit).reverse := by
  have hnn : ¬ (limit : Int) < 0 := by omega
  cases hb : s.backend with
  | sql => simp [recentMessages, hb, hnn, byTime, messagesOf]
  | memory =>
    have hpos : limit ≠ 0 := by
      have : 0 < limit := by simpa [hb] using hcut
      omega
    simp [recentMessages, hb, sliceBack, hpos, List.take_reverse, byTime, messagesOf]

/-- The store answers with its window unless it must sort stamps that mix naive and aware
ones itself. -/
theorem findRecentMessages_eq (s : Store) (conversationId : String) (limit : Int)
    (newestFirst : Bool)
    (hsorts : s.backend = .sql ∨
      mixesNaive ((s.messagesOf conversationId).map (·.createdAt)) = false) :
    s.findRecentMessages conversationId limit newestFirst =
      .ok (s.recentMessages conversationId limit newestFirst) := by
  cases hb : s.backend with
  | sql => simp [findRecentMessages, hb]
  | memory =>
    have hmix : mixesNaive ((s.messagesOf conversationId).map (·.createdAt)) = false := by
      simpa [hb] using hsorts
    simp only [messagesOf] at hmix
    simp [findRecentMessages, hb, hmix]

/-- The recent-message window. On a store that can sort the conversation's stamps (the
database, or the in-memory store when the stamps are all naive or all aware), reading newest
first with a limit gives the `limit` newest messages of the conversation, or all of them when
there are fewer, in order of non-increasing time. Reading oldest first gives that list reversed
on the database, and on the in-memory store whenever the limit is positive. -/
theorem recent_messages_window (s : Store) (conversationId : String) (limit : Nat)
    (hsorts : s.backend = .sql ∨
      mixesNaive ((s.messagesOf conversationId).map (·.createdAt)) = false) :
    ∃ newest, s.findRecentMessages conversationId limit true = .ok newest ∧
      Window (s.messagesOf conversationId) limit newest ∧
      (s.backend = .sql ∨ 0 < limit →
        s.findRecentMessages conversationId limit false = .ok newest.reverse) := by
  refine ⟨(byTime (s.messagesOf conversationId)).reverse.take limit, ?_,
    window_byTime _ limit, fun hcut => ?_⟩
  · rw [findRecentMessages_eq s conversationId limit true hsorts,
      recentMessages_newestFirst]
  · rw [findRecentMessages_eq s conversationId limit false hsorts,
      recentMessages_oldestFirst s conversationId limit hcut]

/-- An in-memory conversation with a message stored at noon and one at one o'clock, both
aware, and one message of another conversation in between. -/
def twoAtNoon : Store :=
  { messages :=
      [{ id := "a", conversationId := "c1", workspaceId := "w", message := "first",
         createdAt := ⟨20745, 43200000000, some 0⟩ },
       { id := "b", conversationId := "c2", workspaceId := "w", message := "elsewhere",
         createdAt := ⟨20745, 45000000000, some 0⟩ },
       { id := "c", conversationId := "c1", workspaceId := "w", message := "second",
         createdAt := ⟨20745, 46800000000, some 0⟩ }] }

theorem twoAtNoon_window :
    (twoAtNoon.backend = .sql ∨
      mixesNaive ((twoAtNoon.messagesOf "c1").map (·.createdAt)) = false) ∧
    ∃ newest, twoAtNoon.findRecentMessages "c1" 1 true = .ok newest ∧
      Window (twoAtNoon.messagesOf "c1") 1 newest ∧
      (twoAtNoon.backend = .sql ∨ 0 < 1 →
        twoAtNoon.findRecentMessages "c1" 1 false = .ok newest.reverse) := by
  have hsorts : twoAtNoon.backend = .sql ∨
      mixesNaive ((twoAtNoon.messagesOf "c1").map (·.createdAt)) = false :=
    Or.inr (by decide)
  exact ⟨hsorts, recent_messages_window twoAtNoon "c1" 1 hsorts⟩

/-- One message stored in memory. -/
def soloStore : Store :=
  { messages := [{ id := "a", conversationId := "c1", workspaceId := "w", message := "first",
                   createdAt := ⟨20745, 43260000000, some 0⟩ }] }

/-- With a limit of zero, the in-memory store reads no message newest first but every message
oldest first, so oldest first is not newest first reversed. -/
theorem zeroLimit_oldestFirst_not_reversed :
    soloStore.findRecentMessages "c1" 0 true = .ok [] ∧
    soloStore.findRecentMessages "c1" 0 false = .ok soloStore.messages := by
  constructor <;>
    simp [soloStore, findRecentMessages, mixesNaive, recentMessages, sliceFront, sliceBack]

end Autoresponder.Store
