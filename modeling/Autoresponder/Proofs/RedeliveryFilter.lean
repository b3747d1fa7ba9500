import Autoresponder.Channel.Dedup
import Autoresponder.Proofs.DoubleOrder
import Mathlib.Data.List.Induction

/-!
# The redelivery filter over a run of checks

A run of checks at a clock that never goes back admits a key when the filter does not hold it,
and the filter then holds the key until it falls below the cutoff `now - ttl` or `maxSize` later
admissions push it out. Whatever the run, the filter holds a stretch at the end of the run's
admissions, one entry per key (`Tracks`), so whether a check finds a duplicate depends on the
key's latest admission alone: it does when that admission is not below the check's cutoff and
fewer than `maxSize` admissions came after it (`redelivery_law`). The filter never holds more
than `maxSize + 1` keys.
-/

namespace Autoresponder.Channel.Dedup

open Autoresponder.Number

/-- Entries in order of time, as a run's checks are when the clock never goes back. -/
def Chronological (l : List (String × Double)) : Prop := l.Pairwise fun a b => a.2 ≤ b.2

instance : DecidablePred Chronological := fun l => inferInstanceAs (Decidable (l.Pairwise _))

@[simp] theorem prune_ttl (d : Dedup) (now : Double) : (d.prune now).ttl = d.ttl := by
  unfold prune
  dsimp only
  split <;> rfl

@[simp] theorem prune_maxSize (d : Dedup) (now : Double) :
    (d.prune now).maxSize = d.maxSize := by
  unfold prune
  dsimp only
  split <;> rfl

@[simp] theorem check_ttl (d : Dedup) (key : String) (now : Double) :
    (d.check key now).2.ttl = d.ttl := by
  unfold check
  split
  · rfl
  · dsimp only
    split <;> simp

@[simp] theorem check_maxSize (d : Dedup) (key : String) (now : Double) :
    (d.check key now).2.maxSize = d.maxSize := by
  unfold check
  split
  · rfl
  · dsimp only
    split <;> simp

theorem prune_sublist (d : Dedup) (now : Double) : (d.prune now).seen.Sublist d.seen := by
  unfold prune
  dsimp only
  split
  · exact List.filter_sublist.trans List.filter_sublist
  · exact List.filter_sublist

/-! ### Pruning a chronological filter -/

/-- In a chronological list the entries below a cutoff come first, so keeping the others
drops a first stretch. -/
theorem filter_live_eq_drop {l : List (String × Double)} (hl : Chronological l) (c : Double) :
    ∃ j, l.filter (fun e => !decide (e.2 < c)) = l.drop j ∧
      ∀ i (hi : i < l.length), l[i].2 < c ↔ i < j := by
  induction l with
  | nil => exact ⟨0, rfl, fun i hi => absurd hi (Nat.not_lt_zero i)⟩
  | cons e rest ih =>
    rw [Chronological, List.pairwise_cons] at hl
    obtain ⟨hafter, hrest⟩ := hl
    by_cases he : e.2 < c
    · obtain ⟨j, hj, hbelow⟩ := ih hrest
      refine ⟨j + 1, by simp [he, hj], ?_⟩
      intro i hi
      cases i with
      | zero => simpa using he
      | succ i =>
        have := hbelow i (by simpa using hi)
        simp only [List.getElem_cons_succ] at this ⊢
        rw [this, Nat.succ_lt_succ_iff]
    · -- the first entry is not below the cutoff, and every later one is at least as late
      have hlater : ∀ x ∈ rest, ¬ x.2 < c :=
        fun x hx hxc => he (Double.lt_of_le_of_lt (hafter x hx) hxc)
      refine ⟨0, ?_, ?_⟩
      · rw [List.drop_zero, List.filter_cons_of_pos (by simpa using he)]
        congr 1
        rw [List.filter_eq_self]
        intro x hx
        simpa using hlater x hx
      · intro i hi
        cases i with
        | zero => simpa using he
        | succ i => simpa using hlater _ (List.getElem_mem (by simpa using hi))

/-- Forgetting the keys of a first stretch of a list with one entry per key forgets that
stretch. -/
theorem filter_not_keys_append {u v : List (String × Double)}
    (huv : ((u ++ v).map (·.1)).Nodup) :
    (u ++ v).filter (fun e => !(u.map (·.1)).contains e.1) = v := by
  rw [List.map_append, List.nodup_append] at huv
  obtain ⟨-, -, hdisj⟩ := huv
  have hu : u.filter (fun e => !(u.map (·.1)).contains e.1) = [] := by
    rw [List.filter_eq_nil_iff]
    intro e he
    simpa using List.mem_map_of_mem (f := (·.1)) he
  have hv : v.filter (fun e => !(u.map (·.1)).contains e.1) = v := by
    rw [List.filter_eq_self]
    intro e he
    have hout : e.1 ∉ u.map (·.1) :=
      fun hin => hdisj _ hin _ (List.mem_map_of_mem he) rfl
    simpa using hout
  rw [List.filter_append, hu, hv, List.nil_append]

/-- Pruning a chronological filter with one entry per key drops the `j` entries below the
cutoff and then the oldest beyond the size limit. -/
theorem prune_seen_eq {d : Dedup} (now : Double) {l : List (String × Double)}
    (hseen : d.seen = l) (hsorted : Chronological l) (hnodup : (l.map (·.1)).Nodup) :
    ∃ j, (d.prune now).seen = l.drop (j + (((l.length - j : Nat) : Int) - d.maxSize).toNat) ∧
      ∀ i (hi : i < l.length), l[i].2 < now - d.ttl ↔ i < j := by
  obtain ⟨j, hlive, hbelow⟩ := filter_live_eq_drop hsorted (now - d.ttl)
  refine ⟨j, ?_, hbelow⟩
  have hchron : Chronological (l.drop j) := hsorted.sublist (List.drop_sublist _ _)
  have hkeys : ((l.drop j).map (·.1)).Nodup := hnodup.sublist ((List.drop_sublist _ _).map _)
  unfold prune
  simp only [hseen, hlive, List.length_drop]
  split
  · -- the oldest are the first: sorting what is already in order changes nothing
    rename_i hexcess
    rw [List.mergeSort_of_pairwise (hchron.imp fun h => by simpa using h)]
    have hsplit := List.take_append_drop (((l.length - j : Nat) : Int) - d.maxSize).toNat
      (l.drop j)
    have := filter_not_keys_append (hsplit ▸ hkeys)
    rw [hsplit] at this
    simp only [this, List.drop_drop]
  · rename_i hexcess
    have hnone : (((l.length - j : Nat) : Int) - d.maxSize).toNat = 0 := by omega
    simp [hnone]

/-! ### What a run leaves in the filter -/

/-- The filter after a run whose admissions are `A`, ready for a check at `t`: `A` is in order
of time and no later than `t`, and the filter holds `A` from some point on, one entry per key,
at most `maxSize + 1` of them; every admission before that point is below the cutoff at `t`
or has at least `maxSize` admissions after it. -/
structure Tracks (d : Dedup) (A : List (String × Double)) (t : Double) : Prop where
  chronological : Chronological A
  before : ∀ e ∈ A, e.2 ≤ t
  nodup : (d.seen.map (·.1)).Nodup
  size : d.seen.length ≤ d.maxSize.toNat + 1
  dropped : ∃ s, d.seen = A.drop s ∧ ∀ i (hi : i < A.length), i < s →
    A[i].2 < t - d.ttl ∨ d.maxSize ≤ ((A.length - (i + 1) : Nat) : Int)

theorem tracks_fresh {d : Dedup} (hfresh : d.seen = []) (t : Double) : Tracks d [] t where
  chronological := List.Pairwise.nil
  before := fun _ h => absurd h List.not_mem_nil
  nodup := by
    rw [hfresh]
    exact List.nodup_nil
  size := by
    rw [hfresh]
    exact Nat.zero_le _
  dropped := ⟨0, hfresh, fun _ hi => absurd hi (Nat.not_lt_zero _)⟩

/-- A filter ready for a check at `t` is ready for one at any later time. -/
theorem Tracks.later {d : Dedup} {A : List (String × Double)} {t t' : Double}
    (h : Tracks d A t) (ht : t ≤ t') : Tracks d A t' where
  chronological := h.chronological
  before := fun e he => Double.le_trans (h.before e he) ht
  nodup := h.nodup
  size := h.size
  dropped := by
    obtain ⟨s, hseen, hgone⟩ := h.dropped
    refine ⟨s, hseen, fun i hi his => ?_⟩
    rcases hgone i hi his with hexp | hcount
    · exact .inl (Double.lt_sub_of_le hexp ht)
    · exact .inr hcount

/-- Pruning at `t` keeps exactly the admissions not below the cutoff with fewer than `maxSize`
admissions after them, and they are a stretch at the end. -/
theorem Tracks.prune {d : Dedup} {A : List (String × Double)} {t : Double} (h : Tracks d A t) :
    ∃ s ≤ A.length, (d.prune t).seen = A.drop s ∧
      ∀ i (hi : i < A.length),
        s ≤ i ↔ ¬ A[i].2 < t - d.ttl ∧ ((A.length - (i + 1) : Nat) : Int) < d.maxSize := by
  obtain ⟨s, hseen, hgone⟩ := h.dropped
  have hsorted : Chronological (A.drop s) := h.chronological.sublist (List.drop_sublist _ _)
  have hnodup : ((A.drop s).map (·.1)).Nodup := hseen ▸ h.nodup
  obtain ⟨j, hpruned, hbelow⟩ := prune_seen_eq t hseen hsorted hnodup
  simp only [List.length_drop, List.drop_drop] at hpruned hbelow
  -- the stretch the prune keeps starts after the old one, the entries below the cutoff and the
  -- entries pushed out by the size limit
  have hstart : A.drop (s + (j + (((A.length - s - j : Nat) : Int) - d.maxSize).toNat)) =
      A.drop (min (s + (j + (((A.length - s - j : Nat) : Int) - d.maxSize).toNat)) A.length) := by
    rcases Nat.le_total (s + (j + (((A.length - s - j : Nat) : Int) - d.maxSize).toNat))
      A.length with hle | hle
    · rw [Nat.min_eq_left hle]
    · rw [Nat.min_eq_right hle, List.drop_eq_nil_of_le hle, List.drop_length]
  -- the cutoff read at positions of the whole run rather than of the stretch
  have hbelowAt : ∀ i (hi : i < A.length), s ≤ i → (A[i].2 < t - d.ttl ↔ i - s < j) := by
    intro i hi his
    have := hbelow (i - s) (by omega)
    simpa only [List.getElem_drop, show s + (i - s) = i by omega] using this
  refine ⟨_, Nat.min_le_right _ _, hpruned.trans hstart, fun i hi => ?_⟩
  constructor
  · intro hle
    exact ⟨fun hexp => by have := (hbelowAt i hi (by omega)).mp hexp; omega, by omega⟩
  · rintro ⟨hlive, hcount⟩
    have his : s ≤ i := by
      refine Nat.le_of_not_lt fun his => ?_
      rcases hgone i hi his with hexp | hmany
      · exact hlive hexp
      · omega
    have hij : j ≤ i - s := Nat.le_of_not_lt fun hij => hlive ((hbelowAt i hi his).mpr hij)
    omega

/-- The last entry of a list with a given key: the one no later entry shares its key with. -/
theorem exists_last_key {l : List (String × Double)} {k : String} (hk : k ∈ l.map (·.1)) :
    ∃ front τ back, l = front ++ (k, τ) :: back ∧ k ∉ back.map (·.1) := by
  induction l with
  | nil => simp at hk
  | cons x rest ih =>
    by_cases hrest : k ∈ rest.map (·.1)
    · obtain ⟨front, τ, back, rfl, hback⟩ := ih hrest
      exact ⟨x :: front, τ, back, rfl, hback⟩
    · have hx : x.1 = k := (by simpa [hrest] using hk : k = x.1).symm
      exact ⟨[], x.2, rest, by simp [← hx], hrest⟩

/-- A key is held from position `s` on exactly when its latest entry is at `s` or later. -/
theorem mem_keys_drop_iff {A : List (String × Double)} {s : Nat} {k : String}
    (hs : s ≤ A.length) :
    k ∈ (A.drop s).map (·.1) ↔
      ∃ front τ back, A = front ++ (k, τ) :: back ∧ k ∉ back.map (·.1) ∧ s ≤ front.length := by
  constructor
  · intro hk
    obtain ⟨front, τ, back, hdrop, hback⟩ := exists_last_key hk
    refine ⟨A.take s ++ front, τ, back, ?_, hback, by simp; omega⟩
    rw [List.append_assoc, ← hdrop, List.take_append_drop]
  · rintro ⟨front, τ, back, rfl, -, hs⟩
    rw [List.drop_append_of_le_length hs]
    simp

/-- In `front ++ e :: back` the entry at the length of `front` is `e`, with `back` after it. -/
theorem getElem_middle {A front back : List (String × Double)} {e : String × Double}
    (hA : A = front ++ e :: back) :
    ∃ hpos : front.length < A.length,
      A[front.length] = e ∧ A.length - (front.length + 1) = back.length := by
  subst hA
  refine ⟨by simp, by simp, ?_⟩
  simp only [List.length_append, List.length_cons]
  omega

theorem any_key_iff {l : List (String × Double)} {k : String} :
    l.any (·.1 == k) = true ↔ k ∈ l.map (·.1) := by
  rw [List.any_eq_true, List.mem_map]
  exact exists_congr fun e => and_congr_right fun _ => beq_iff_eq

/-- The pruned filter holds at most `maxSize` keys. -/
theorem Tracks.length_prune {d : Dedup} {A : List (String × Double)} {t : Double}
    (h : Tracks d A t) : (d.prune t).seen.length ≤ d.maxSize.toNat := by
  obtain ⟨s, -, hseen, hkept⟩ := h.prune
  rw [hseen, List.length_drop]
  by_cases hlt : s < A.length
  · have := ((hkept s hlt).mp (Nat.le_refl s)).2
    omega
  · omega

/-! ### One check -/

/-- Whether a check admits its key: the key is not empty and was not found. -/
def admits (d : Dedup) (key : String) (now : Double) : Bool :=
  !(d.check key now).1 && !key.isEmpty

theorem check_of_isEmpty {d : Dedup} {key : String} (now : Double) (hk : key.isEmpty = true) :
    d.check key now = (false, d) := by
  simp [check, hk]

theorem check_of_found {d : Dedup} {key : String} {now : Double} (hk : key.isEmpty = false)
    (hfound : (d.prune now).seen.any (·.1 == key) = true) :
    d.check key now = (true, d.prune now) := by
  simp [check, hk, hfound]

theorem check_of_not_found {d : Dedup} {key : String} {now : Double} (hk : key.isEmpty = false)
    (hfound : (d.prune now).seen.any (·.1 == key) = false) :
    d.check key now =
      (false, { d.prune now with seen := (d.prune now).seen ++ [(key, now)] }) := by
  simp [check, hk, hfound]

/-- After a check the filter holds at most `maxSize + 1` keys. -/
theorem Tracks.length_check {d : Dedup} {A : List (String × Double)} {t : Double}
    (h : Tracks d A t) (k : String) : (d.check k t).2.seen.length ≤ d.maxSize.toNat + 1 := by
  cases hk : k.isEmpty with
  | true => simpa [check_of_isEmpty t hk] using h.size
  | false =>
    have hpruned := h.length_prune
    cases hfound : (d.prune t).seen.any (·.1 == k) with
    | true =>
      rw [check_of_found hk hfound]
      exact Nat.le_succ_of_le hpruned
    | false =>
      rw [check_of_not_found hk hfound, List.length_append, List.length_singleton]
      omega

/-- A check finds a duplicate exactly when the key is not empty and its latest admission is not
below the cutoff and has fewer than `maxSize` admissions after it. -/
theorem Tracks.check_answer {d : Dedup} {A : List (String × Double)} {t : Double}
    (h : Tracks d A t) (k : String) :
    (d.check k t).1 = true ↔ k ≠ "" ∧ ∃ front τ back, A = front ++ (k, τ) :: back ∧
      k ∉ back.map (·.1) ∧ ¬ τ < t - d.ttl ∧ (back.length : Int) < d.maxSize := by
  cases hk : k.isEmpty with
  | true =>
    have hempty : k = "" := String.isEmpty_iff.mp hk
    rw [check_of_isEmpty t hk]
    simp [hempty]
  | false =>
    have hne : k ≠ "" := fun h => by simp [h] at hk
    obtain ⟨s, hs, hseen, hkept⟩ := h.prune
    have hfound : (d.check k t).1 = (d.prune t).seen.any (·.1 == k) := by
      cases hany : (d.prune t).seen.any (·.1 == k) with
      | true => rw [check_of_found hk hany]
      | false => rw [check_of_not_found hk hany]
    rw [hfound, any_key_iff, hseen, mem_keys_drop_iff hs]
    -- the latest entry's position decides, through the prune's characterization
    constructor
    · rintro ⟨front, τ, back, hA, hback, hle⟩
      obtain ⟨hpos, hat, hlen⟩ := getElem_middle hA
      have := (hkept front.length hpos).mp hle
      rw [hat, hlen] at this
      exact ⟨hne, front, τ, back, hA, hback, this⟩
    · rintro ⟨-, front, τ, back, hA, hback, hlive, hcount⟩
      obtain ⟨hpos, hat, hlen⟩ := getElem_middle hA
      refine ⟨front, τ, back, hA, hback, (hkept front.length hpos).mpr ?_⟩
      rw [hat, hlen]
      exact ⟨hlive, hcount⟩

/-- One check keeps the filter tracking the admissions, with its own key added when it admits
it, for a next check at any later time. -/
theorem Tracks.check {d : Dedup} {A : List (String × Double)} {t t' : Double}
    (h : Tracks d A t) (ht : t ≤ t') (k : String) :
    Tracks (d.check k t).2 (A ++ if d.admits k t then [(k, t)] else []) t' := by
  cases hk : k.isEmpty with
  | true => simpa [admits, check_of_isEmpty t hk, hk] using h.later ht
  | false =>
  obtain ⟨s, hs, hseen, hkept⟩ := h.prune
  -- what the prune dropped is below the cutoff or pushed out by the size limit
  have hgone : ∀ i (hi : i < A.length), i < s →
      A[i].2 < t - d.ttl ∨ d.maxSize ≤ ((A.length - (i + 1) : Nat) : Int) := by
    intro i hi his
    by_cases hexp : A[i].2 < t - d.ttl
    · exact .inl hexp
    · have hnot := mt (hkept i hi).mpr (by omega)
      simp only [hexp, not_false_eq_true, true_and, Int.not_lt] at hnot
      exact .inr hnot
  have hsize := h.length_prune
  have hnodup : ((d.prune t).seen.map (·.1)).Nodup :=
    h.nodup.sublist ((prune_sublist d t).map _)
  cases hfound : (d.prune t).seen.any (·.1 == k) with
  | true =>
    -- a duplicate: the filter is the pruned one and nothing is admitted
    have hpruned : Tracks (d.prune t) A t :=
      ⟨h.chronological, h.before, hnodup, by simp only [prune_maxSize]; omega, s, hseen,
        by simpa only [prune_ttl, prune_maxSize] using hgone⟩
    simpa [admits, check_of_found hk hfound] using hpruned.later ht
  | false =>
    -- an admission: the key joins the end of the stretch the filter holds
    have hadmit : d.admits k t = true := by simp [admits, check_of_not_found hk hfound, hk]
    have hnew : k ∉ (d.prune t).seen.map (·.1) := by
      rw [← any_key_iff, hfound]
      exact Bool.false_ne_true
    rw [check_of_not_found hk hfound, hadmit, if_pos rfl]
    refine ⟨?_, ?_, ?_, ?_, s, ?_, fun i hi his => ?_⟩
    · refine List.pairwise_append.mpr ⟨h.chronological, List.pairwise_singleton _ _, ?_⟩
      intro a ha b hb
      rw [List.mem_singleton] at hb
      subst hb
      exact h.before a ha
    · intro e he
      rw [List.mem_append, List.mem_singleton] at he
      rcases he with he | rfl
      · exact Double.le_trans (h.before e he) ht
      · exact ht
    · rw [List.map_append, List.nodup_append]
      refine ⟨hnodup, by simp, fun a ha b hb hab => ?_⟩
      rw [List.map_singleton, List.mem_singleton] at hb
      rw [hab, hb] at ha
      exact hnew ha
    · simp only [List.length_append, List.length_singleton, prune_maxSize]
      omega
    · simp [hseen, List.drop_append_of_le_length hs]
    · have hiA : i < A.length := by omega
      rw [List.getElem_append_left hiA]
      simp only [prune_ttl, prune_maxSize, List.length_append, List.length_singleton]
      rcases hgone i hiA his with hexp | hcount
      · exact .inl (Double.lt_sub_of_le hexp ht)
      · exact .inr (by omega)

/-! ### A run of checks -/

/-- The answers of a run of checks, in order, and the filter after the last. -/
def run (d : Dedup) (calls : List (String × Double)) : List Bool × Dedup :=
  calls.foldl (fun acc c => (acc.1 ++ [(acc.2.check c.1 c.2).1], (acc.2.check c.1 c.2).2)) ([], d)

/-- The admissions of a run: the checks with a key that found no duplicate, in order. -/
def admissions (d : Dedup) (calls : List (String × Double)) : List (String × Double) :=
  ((calls.zip (d.run calls).1).filter fun p => !p.2 && !p.1.1.isEmpty).map (·.1)

theorem run_append_singleton (d : Dedup) (calls : List (String × Double))
    (c : String × Double) :
    d.run (calls ++ [c]) = ((d.run calls).1 ++ [((d.run calls).2.check c.1 c.2).1],
      ((d.run calls).2.check c.1 c.2).2) := by
  simp [run, List.foldl_append]

theorem length_run (d : Dedup) (calls : List (String × Double)) :
    (d.run calls).1.length = calls.length := by
  induction calls using List.reverseRecOn with
  | nil => rfl
  | append_singleton calls c ih => simp [run_append_singleton, ih]

@[simp] theorem run_ttl (d : Dedup) (calls : List (String × Double)) :
    (d.run calls).2.ttl = d.ttl := by
  induction calls using List.reverseRecOn with
  | nil => rfl
  | append_singleton calls c ih => simp [run_append_singleton, ih]

@[simp] theorem run_maxSize (d : Dedup) (calls : List (String × Double)) :
    (d.run calls).2.maxSize = d.maxSize := by
  induction calls using List.reverseRecOn with
  | nil => rfl
  | append_singleton calls c ih => simp [run_append_singleton, ih]

theorem admissions_append_singleton (d : Dedup) (calls : List (String × Double))
    (c : String × Double) :
    d.admissions (calls ++ [c]) =
      d.admissions calls ++ if (d.run calls).2.admits c.1 c.2 then [c] else [] := by
  unfold admissions
  rw [run_append_singleton, List.zip_append (length_run d calls).symm]
  cases hadmit : (d.run calls).2.admits c.1 c.2 <;> simp_all [admits]

/-- A run at a clock that never goes back leaves a fresh filter tracking the run's admissions,
ready for a check at any time no earlier than the run's last. -/
theorem tracks_run {d : Dedup} (hfresh : d.seen = []) {calls : List (String × Double)}
    {t : Double} (hclock : Chronological calls) (hbefore : ∀ c ∈ calls, c.2 ≤ t) :
    Tracks (d.run calls).2 (d.admissions calls) t := by
  induction calls using List.reverseRecOn generalizing t with
  | nil => exact tracks_fresh hfresh t
  | append_singleton calls c ih =>
    rw [Chronological, List.pairwise_append] at hclock
    obtain ⟨hclock, -, hlast⟩ := hclock
    have hc : Tracks (d.run calls).2 (d.admissions calls) c.2 :=
      ih hclock fun x hx => hlast x hx c (List.mem_singleton_self c)
    rw [run_append_singleton, admissions_append_singleton]
    exact hc.check (hbefore c (by simp)) c.1

/-- The redelivery law. Run checks on a fresh filter with span `ttl` and size limit `m` at a
clock that never goes back. A check of key `k` at time `t` finds a duplicate exactly when `k` is
not empty and has been admitted, and its latest admission is not below the cutoff `t - ttl` and
has fewer than `m` admissions after it. After the check the filter holds at most `m + 1`
keys. -/
theorem redelivery_law (ttl : Double) (m : Int) (pre : List (String × Double)) (k : String)
    (t : Double) (hm : 0 ≤ m) (hclock : Chronological (pre ++ [(k, t)])) :
    let d : Dedup := { ttl, maxSize := m }
    (((d.run pre).2.check k t).1 = true ↔ k ≠ "" ∧ ∃ front τ back,
        d.admissions pre = front ++ (k, τ) :: back ∧ k ∉ back.map (·.1) ∧
          ¬ τ < t - ttl ∧ (back.length : Int) < m) ∧
      (((d.run pre).2.check k t).2.seen.length : Int) ≤ m + 1 := by
  intro d
  rw [Chronological, List.pairwise_append] at hclock
  obtain ⟨hpre, -, hlast⟩ := hclock
  have htracks : Tracks (d.run pre).2 (d.admissions pre) t :=
    tracks_run rfl hpre fun c hc => hlast c hc (k, t) (List.mem_singleton_self _)
  have hsize := htracks.length_check k
  rw [run_maxSize] at hsize
  refine ⟨by simpa using htracks.check_answer k, ?_⟩
  have hm' : (d.maxSize.toNat : Int) = m := Int.toNat_of_nonneg hm
  omega

/-- Admissions of `a` at 0 and of `b` at 5. -/
def twoAdmissions : List (String × Double) := [("a", .ofInt 0), ("b", .ofInt 5)]

theorem twoAdmissions_law :
    (0 : Int) ≤ 1 ∧ Chronological (twoAdmissions ++ [("a", .ofInt 6)]) ∧
      let d : Dedup := { ttl := .ofInt 10, maxSize := 1 }
      ((((d.run twoAdmissions).2.check "a" (.ofInt 6)).1 = true ↔ "a" ≠ "" ∧ ∃ front τ back,
          d.admissions twoAdmissions = front ++ ("a", τ) :: back ∧ "a" ∉ back.map (·.1) ∧
            ¬ τ < .ofInt 6 - .ofInt 10 ∧ (back.length : Int) < 1) ∧
        (((d.run twoAdmissions).2.check "a" (.ofInt 6)).2.seen.length : Int) ≤ 1 + 1) := by
  have hclock : Chronological (twoAdmissions ++ [("a", .ofInt 6)]) := by decide +kernel
  exact ⟨by decide, hclock,
    redelivery_law (.ofInt 10) 1 twoAdmissions "a" (.ofInt 6) (by decide) hclock⟩

-- an admission exactly at the cutoff is not below it
example : (run { ttl := .ofInt 10, maxSize := 2 } [("a", .ofInt 0), ("a", .ofInt 10)]).1 =
    [false, true] := by decide +kernel

-- with no room, pruning empties the filter before every check
example : (run { ttl := .ofInt 10, maxSize := 0 } [("a", .ofInt 0), ("a", .ofInt 0)]).1 =
    [false, false] := by decide +kernel

end Autoresponder.Channel.Dedup
