import Mathlib.Data.List.Nodup
import Mathlib.Data.List.Perm.Subperm
import Autoresponder.Proofs.Traversal

/-!
# A walk follows its route

The route of a walk from key `s` in a context is the sequence of keys `s = p₀, p₁, …` where
each key after the first is where the node of the one before leads: a condition node's branch,
else the node's `next`. The walk stops at the first key that ends it, checked in this order: no
key (the flow completes), a key visited before (a cycle), the step limit reached, a key with no
node, an agent node (visited, then handed off), a node that waits for a reply (visited, then
waiting). `Route` is that sequence as a relation and `Ends` the stop, each case with the
traversal it gives; the walk's sends are the visited nodes that are no connectors.

Main statement (`walk_iff_route`): a walk gives a traversal exactly when its route ends with it,
and fails exactly when a condition met on its route cannot be evaluated. So its sends come from
distinct keys, hold no connector, and number at most the step limit and the graph's size.
-/

namespace Autoresponder.Flow

/-- Where a node leads in a context: a condition node to its branch, any other to its `next`. -/
def Node.successor (n : Node) (context : Value) : Except Fault (Option String) :=
  if n.kind == .condition then branch n context else pure n.next

/-- The nodes a walk sends for the keys it visited: each visited node that is no connector, in
visiting order. -/
def Graph.emittedAlong (g : Graph) (vs : List String) : List Node :=
  vs.filterMap fun k => (g.get? k).filter fun n => !n.kind.isConnector

/-- Key `k`, met after visiting `vs`, is passed through: it is new, the step limit `m` is not
reached, it names a node, and that node neither hands off nor waits. -/
structure Graph.PassesAt (g : Graph) (m : Nat) (vs : List String) (k : String) (n : Node) :
    Prop where
  fresh : k ∉ vs
  within : vs.length < m
  found : g.get? k = some n
  not_agent : n.kind ≠ .agent
  not_waiting : n.waitsForReply = false

/-- The walk from `start` in `context` under step limit `m` visits the keys `vs` in order and
then meets pointer `p`. -/
inductive Route (g : Graph) (context : Value) (m : Nat) (start : String) :
    List String → Option String → Prop
  | start : Route g context m start [] (some start)
  | step {vs : List String} {k : String} {n : Node} {p : Option String} :
      Route g context m start vs (some k) → g.PassesAt m vs k n → n.successor context = .ok p →
      Route g context m start (vs ++ [k]) p

/-- How a walk that visited `vs` ends on meeting pointer `p`, with the traversal it gives. -/
inductive Ends (g : Graph) (m : Nat) (vs : List String) : Option String → Traversal → Prop
  | completed : Ends g m vs none ⟨.completed, g.emittedAlong vs, vs.getLast?, ""⟩
  | cycle {k : String} : k ∈ vs →
      Ends g m vs (some k) ⟨.handoff, g.emittedAlong vs, vs.getLast?, "cycle at node '" ++ k ++ "'"⟩
  | exceeded {k : String} : k ∉ vs → m ≤ vs.length →
      Ends g m vs (some k)
        ⟨.handoff, g.emittedAlong vs, vs.getLast?, "exceeded " ++ (StepLimit.whole m).text ++ " steps"⟩
  | missing {k : String} : k ∉ vs → vs.length < m → g.get? k = none →
      Ends g m vs (some k)
        ⟨.handoff, g.emittedAlong vs, vs.getLast?, "node '" ++ k ++ "' not found"⟩
  | agent {k : String} {n : Node} : k ∉ vs → vs.length < m → g.get? k = some n →
      n.kind = .agent → Ends g m vs (some k) ⟨.handoff, g.emittedAlong (vs ++ [k]), some k, ""⟩
  | waits {k : String} {n : Node} : k ∉ vs → vs.length < m → g.get? k = some n →
      n.kind ≠ .agent → n.waitsForReply = true →
      Ends g m vs (some k) ⟨.waiting, g.emittedAlong (vs ++ [k]), some k, ""⟩

variable {g : Graph} {context : Value} {m : Nat} {start : String}

/-! ### Sends along a route -/

theorem emittedAlong_append_found {vs : List String} {k : String} {n : Node}
    (h : g.get? k = some n) :
    g.emittedAlong (vs ++ [k]) = g.emittedAlong vs ++ (if n.kind.isConnector then [] else [n]) := by
  unfold Graph.emittedAlong
  rw [List.filterMap_append, List.filterMap_cons, List.filterMap_nil, h]
  cases hc : n.kind.isConnector <;> simp [Option.filter, hc]

theorem not_connector_of_mem_emittedAlong {vs : List String} {n : Node}
    (h : n ∈ g.emittedAlong vs) : n.kind.isConnector = false := by
  obtain ⟨k, -, hk⟩ := List.mem_filterMap.mp h
  obtain ⟨-, hn⟩ := Option.filter_eq_some_iff.mp hk
  simpa using hn

theorem length_emittedAlong_le (vs : List String) : (g.emittedAlong vs).length ≤ vs.length :=
  List.length_filterMap_le _ _

/-- Distinct keys that each name a node are no more than the graph's nodes. -/
theorem length_le_size_of_found {vs : List String} (hnd : vs.Nodup)
    (hfound : ∀ k ∈ vs, ∃ n, g.get? k = some n) : vs.length ≤ g.size := by
  have hsub : vs ⊆ g.nodes.map Prod.fst := fun k hk => by
    obtain ⟨n, hn⟩ := hfound k hk
    exact List.mem_map.mpr ⟨(k, n), Graph.mem_of_get g hn, rfl⟩
  simpa [Graph.size] using (List.Nodup.subperm hnd hsub).length_le

/-! ### What a route keeps -/

namespace Route

variable {vs : List String} {p : Option String}

theorem nodup (h : Route g context m start vs p) : vs.Nodup := by
  induction h with
  | start => exact List.nodup_nil
  | step _ hpass _ ih => simpa using List.Nodup.concat hpass.fresh ih

theorem found (h : Route g context m start vs p) : ∀ k ∈ vs, ∃ n, g.get? k = some n := by
  induction h with
  | start => simp
  | step _ hpass _ ih =>
    intro k hk
    rcases List.mem_append.mp hk with hk | hk
    · exact ih k hk
    · exact ⟨_, (List.mem_singleton.mp hk) ▸ hpass.found⟩

theorem length_le_limit (h : Route g context m start vs p) : vs.length ≤ m := by
  induction h with
  | start => exact Nat.zero_le _
  | step _ hpass _ _ =>
    have := hpass.within
    simp only [List.length_append, List.length_singleton]
    omega

theorem length_le_size (h : Route g context m start vs p) : vs.length ≤ g.size :=
  length_le_size_of_found h.nodup h.found

/-- Two routes of one length are one route: each step is decided by the key before it. -/
theorem eq_of_length_eq {vs' : List String} {p' : Option String}
    (h : Route g context m start vs p) (h' : Route g context m start vs' p')
    (hlen : vs.length = vs'.length) : vs = vs' ∧ p = p' := by
  induction h generalizing vs' p' with
  | start =>
    cases h' with
    | start => exact ⟨rfl, rfl⟩
    | step => simp at hlen
  | step hr hpass hsucc ih =>
    cases h' with
    | start => simp at hlen
    | step hr' hpass' hsucc' =>
      simp only [List.length_append, List.length_singleton, Nat.add_right_cancel_iff] at hlen
      obtain ⟨rfl, hk⟩ := ih hr' hlen
      cases hk
      obtain rfl : _ = _ := Option.some.inj (hpass.found.symm.trans hpass'.found)
      exact ⟨rfl, Except.ok.inj (hsucc.symm.trans hsucc')⟩

/-- A shorter route is passed by a longer one: it goes on through its pointer. -/
theorem passes_of_length_lt {vs' : List String} {p' : Option String}
    (h : Route g context m start vs p) (h' : Route g context m start vs' p')
    (hlt : vs.length < vs'.length) :
    ∃ k n q, p = some k ∧ g.PassesAt m vs k n ∧ n.successor context = .ok q ∧
      vs ++ [k] <+: vs' := by
  induction h' with
  | start => simp at hlt
  | @step vs₁ k₁ n₁ p₁ hr₁ hpass₁ hsucc₁ ih =>
    simp only [List.length_append, List.length_singleton] at hlt
    rcases Nat.lt_or_eq_of_le (Nat.le_of_lt_succ hlt) with hlt | heq
    · obtain ⟨k, n, q, hp, hpass, hsucc, hpre⟩ := ih hlt
      exact ⟨k, n, q, hp, hpass, hsucc, hpre.trans (List.prefix_append _ _)⟩
    · obtain ⟨rfl, rfl⟩ := eq_of_length_eq h hr₁ heq
      exact ⟨k₁, n₁, p₁, rfl, hpass₁, hsucc₁, List.prefix_refl _⟩

end Route

/-! ### Where a route stops -/

/-- A key that ends a walk is not passed through. -/
theorem Ends.not_passes {vs : List String} {k : String} {n : Node} {t : Traversal}
    (he : Ends g m vs (some k) t) (hpass : g.PassesAt m vs k n) : False := by
  cases he with
  | cycle hk => exact hpass.fresh hk
  | exceeded _ hm => exact absurd hpass.within (by omega)
  | missing _ _ hget => simp [hpass.found] at hget
  | agent _ _ hget hagent =>
    obtain rfl : _ = _ := Option.some.inj (hget.symm.trans hpass.found)
    exact hpass.not_agent hagent
  | waits _ _ hget _ hwaits =>
    obtain rfl : _ = _ := Option.some.inj (hget.symm.trans hpass.found)
    simp [hpass.not_waiting] at hwaits

/-- A route that ends is never passed by another. -/
theorem Route.length_le_of_ends {vs vs' : List String} {p p' : Option String} {t : Traversal}
    (h : Route g context m start vs p) (he : Ends g m vs p t)
    (h' : Route g context m start vs' p') : vs'.length ≤ vs.length := by
  by_contra hlt
  obtain ⟨k, n, -, rfl, hpass, -, -⟩ := h.passes_of_length_lt h' (by omega)
  exact he.not_passes hpass

/-- A route ends in one way only: the stops exclude each other in the order they are checked. -/
theorem Ends.unique {vs : List String} {p : Option String} {t t' : Traversal}
    (he : Ends g m vs p t) (he' : Ends g m vs p t') : t = t' := by
  cases he with
  | completed => cases he'; rfl
  | cycle hk =>
    cases he' with
    | cycle => rfl
    | exceeded hk' | missing hk' | agent hk' | waits hk' => exact absurd hk hk'
  | exceeded hk hm =>
    cases he' with
    | cycle hk' => exact absurd hk' hk
    | exceeded => rfl
    | missing _ hm' | agent _ hm' | waits _ hm' => omega
  | missing hk _ hget =>
    cases he' with
    | cycle hk' => exact absurd hk' hk
    | exceeded _ hm' => omega
    | missing => rfl
    | agent _ _ hget' | waits _ _ hget' => simp [hget] at hget'
  | agent hk _ hget hagent =>
    cases he' with
    | cycle hk' => exact absurd hk' hk
    | exceeded _ hm' => omega
    | missing _ _ hget' => simp [hget] at hget'
    | agent => rfl
    | waits _ _ hget' hnot _ =>
      obtain rfl : _ = _ := Option.some.inj (hget.symm.trans hget')
      exact absurd hagent hnot
  | waits hk _ hget hnot hwaits =>
    cases he' with
    | cycle hk' => exact absurd hk' hk
    | exceeded _ hm' => omega
    | missing _ _ hget' => simp [hget] at hget'
    | agent _ _ hget' hagent =>
      obtain rfl : _ = _ := Option.some.inj (hget.symm.trans hget')
      exact absurd hagent hnot
    | waits => rfl

/-- A route that fails is never passed by another. -/
theorem Route.length_le_of_fails {vs vs' : List String} {k : String} {n : Node} {f : Fault}
    {p' : Option String} (h : Route g context m start vs (some k)) (hpass : g.PassesAt m vs k n)
    (hfail : n.successor context = .error f) (h' : Route g context m start vs' p') :
    vs'.length ≤ vs.length := by
  by_contra hlt
  obtain ⟨k₀, n₀, q, hk, hpass₀, hsucc, -⟩ := h.passes_of_length_lt h' (by omega)
  cases hk
  obtain rfl : _ = _ := Option.some.inj (hpass.found.symm.trans hpass₀.found)
  rw [hfail] at hsucc
  cases hsucc

/-! ### The walk follows its route -/

/-- What a walk may give, by its route: the traversal of the route's end, or the failure of a
condition met on the route. -/
def Route.Yields (g : Graph) (context : Value) (m : Nat) (start : String) :
    Except Fault Traversal → Prop
  | .ok t => ∃ vs p, Route g context m start vs p ∧ Ends g m vs p t
  | .error f => ∃ vs k n, Route g context m start vs (some k) ∧ g.PassesAt m vs k n ∧
      n.successor context = .error f

theorem reverse_emittedAlong_append_found {vs : List String} {k : String} {n : Node}
    (h : g.get? k = some n) :
    (g.emittedAlong (vs ++ [k])).reverse =
      if n.kind.isConnector then (g.emittedAlong vs).reverse else n :: (g.emittedAlong vs).reverse := by
  rw [emittedAlong_append_found h]
  cases n.kind.isConnector <;> simp

/-- From any point of its route, with fuel beyond the nodes it can still visit, a walk gives
what its route yields. The keys seen, the sends and the last key are those of the route. -/
theorem walkFrom_yields {fuel : Nat} {vs : List String} {key : Option String}
    {seen : List String} {emitted : List Node} {last : Option String}
    (hr : Route g context m start vs key) (hfuel : g.size < fuel + vs.length)
    (hseen : seen = vs.reverse) (hemitted : emitted = (g.emittedAlong vs).reverse)
    (hlast : last = vs.getLast?) :
    Route.Yields g context m start (walkFrom g context (.whole m) fuel key seen emitted last) := by
  -- induction on the fuel, the route growing by one key at each step
  induction fuel generalizing vs key seen emitted last with
  | zero => exact absurd hr.length_le_size (by omega)
  | succ fuel ih =>
    subst hseen hemitted hlast
    cases key with
    | none => exact ⟨vs, none, hr, by simpa using Ends.completed⟩
    | some k =>
      simp only [walkFrom]
      split
      · rename_i hcycle
        exact ⟨vs, some k, hr, by simpa using Ends.cycle (by simpa using hcycle)⟩
      rename_i hfresh
      have hk : k ∉ vs := by simpa using hfresh
      split
      · rename_i hlimit
        exact ⟨vs, some k, hr, by
          simpa using Ends.exceeded hk (by simpa [StepLimit.reached] using hlimit)⟩
      rename_i hwithin
      have hm : vs.length < m := by
        simp only [StepLimit.reached, List.length_reverse, decide_eq_true_eq] at hwithin
        omega
      split
      · rename_i hget
        exact ⟨vs, some k, hr, by simpa using Ends.missing hk hm hget⟩
      rename_i n hget
      have hsends : (g.emittedAlong (vs ++ [k])).reverse = _ :=
        reverse_emittedAlong_append_found hget
      split
      · rename_i hagent
        refine ⟨vs, some k, hr, ?_⟩
        rw [← hsends, List.reverse_reverse]
        exact Ends.agent hk hm hget (by simpa using hagent)
      rename_i hnot
      split
      · rename_i hwaits
        refine ⟨vs, some k, hr, ?_⟩
        rw [← hsends, List.reverse_reverse]
        exact Ends.waits hk hm hget (by simpa using hnot) hwaits
      rename_i hnowait
      have hpass : g.PassesAt m vs k n :=
        ⟨hk, hm, hget, by simpa using hnot, by simpa using hnowait⟩
      -- the node is passed through: the walk goes on from where it leads
      have hsucc : ∀ {β : Type} (F : Option String → Except Fault β),
          (if n.kind == .condition then branch n context >>= F else pure n.next >>= F) =
            n.successor context >>= F := by
        intro β F
        unfold Node.successor
        split <;> rfl
      rw [hsucc]
      cases hs : n.successor context with
      | error f => exact ⟨vs, k, n, hr, hpass, hs⟩
      | ok q =>
        exact ih (hr.step hpass hs) (by simp; omega) (by simp) hsends.symm (by simp)

theorem walk_yields (g : Graph) (start : String) (context : Value) (m : Nat) :
    Route.Yields g context m start (walk g start context (.whole m)) :=
  walkFrom_yields .start (by simp) rfl rfl rfl

/-- A walk's sends on a route that ends come from distinct keys of the graph, at most the step
limit of them. -/
theorem Ends.emitted_along {vs : List String} {p : Option String} {t : Traversal}
    (h : Route g context m start vs p) (he : Ends g m vs p t) :
    ∃ us : List String, us.Nodup ∧ (∀ k ∈ us, ∃ n, g.get? k = some n) ∧ us.length ≤ m ∧
      t.emitted = g.emittedAlong us := by
  have hlim := h.length_le_limit
  cases he with
  | completed | cycle _ | exceeded _ _ | missing _ _ _ =>
    exact ⟨vs, h.nodup, h.found, hlim, rfl⟩
  | @agent k n hk hm hget _ | @waits k n hk hm hget _ _ =>
    refine ⟨vs ++ [k], by simpa using List.Nodup.concat hk h.nodup, ?_, ?_, rfl⟩
    · intro k' hk'
      rcases List.mem_append.mp hk' with hk' | hk'
      · exact h.found k' hk'
      · exact ⟨_, (List.mem_singleton.mp hk') ▸ hget⟩
    · simp only [List.length_append, List.length_singleton]
      omega

/-- No route both ends and fails: neither passes the other, so they are one route, and a key
that ends a walk is not passed through. -/
theorem Route.ends_not_fails {vs vs' : List String} {p : Option String} {t : Traversal}
    {k : String} {n : Node} {f : Fault} (h : Route g context m start vs p) (he : Ends g m vs p t)
    (h' : Route g context m start vs' (some k)) (hpass : g.PassesAt m vs' k n)
    (hfail : n.successor context = .error f) : False := by
  have heq := Nat.le_antisymm (h'.length_le_of_fails hpass hfail h) (h.length_le_of_ends he h')
  obtain ⟨rfl, rfl⟩ := h.eq_of_length_eq h' heq
  exact he.not_passes hpass

theorem walk_of_ends {vs : List String} {p : Option String} {t : Traversal}
    (h : Route g context m start vs p) (he : Ends g m vs p t) :
    walk g start context (.whole m) = .ok t := by
  have hy := walk_yields g start context m
  rcases hw : walk g start context (.whole m) with f | t'
  · rw [hw] at hy
    obtain ⟨vs', k, n, h', hpass, hfail⟩ := hy
    exact (h.ends_not_fails he h' hpass hfail).elim
  · rw [hw] at hy
    obtain ⟨vs', p', h', he'⟩ := hy
    have heq := Nat.le_antisymm (h'.length_le_of_ends he' h) (h.length_le_of_ends he h')
    obtain ⟨rfl, rfl⟩ := h.eq_of_length_eq h' heq
    rw [he'.unique he]

theorem walk_of_fails {vs : List String} {k : String} {n : Node} {f : Fault}
    (h : Route g context m start vs (some k)) (hpass : g.PassesAt m vs k n)
    (hfail : n.successor context = .error f) : walk g start context (.whole m) = .error f := by
  have hy := walk_yields g start context m
  rcases hw : walk g start context (.whole m) with f' | t'
  · rw [hw] at hy
    obtain ⟨vs', k', n', h', hpass', hfail'⟩ := hy
    have heq := Nat.le_antisymm (h'.length_le_of_fails hpass' hfail' h)
      (h.length_le_of_fails hpass hfail h')
    obtain ⟨rfl, hk⟩ := h.eq_of_length_eq h' heq
    cases hk
    obtain rfl : _ = _ := Option.some.inj (hpass.found.symm.trans hpass'.found)
    rw [hfail] at hfail'
    cases hfail'
    rfl
  · rw [hw] at hy
    obtain ⟨vs', p', h', he'⟩ := hy
    exact (h'.ends_not_fails he' h hpass hfail).elim

/-- A walk under a whole step limit `m` gives traversal `t` exactly when its route ends with `t`,
and fails exactly when a condition met on its route cannot be evaluated. Its sends are the
visited nodes that are no connectors, in visiting order, from distinct keys, and there are at
most `min m |g|` of them. -/
theorem walk_iff_route (g : Graph) (start : String) (context : Value) (m : Nat) :
    (∀ t, walk g start context (.whole m) = .ok t ↔
      ∃ vs p, Route g context m start vs p ∧ Ends g m vs p t) ∧
    (∀ f, walk g start context (.whole m) = .error f ↔
      ∃ vs k n, Route g context m start vs (some k) ∧ g.PassesAt m vs k n ∧
        n.successor context = .error f) ∧
    (∀ t, walk g start context (.whole m) = .ok t →
      (∀ n ∈ t.emitted, n.kind.isConnector = false) ∧ t.emitted.length ≤ min m g.size ∧
      ∃ vs : List String, vs.Nodup ∧ t.emitted = g.emittedAlong vs) := by
  have hy := walk_yields g start context m
  refine ⟨fun t => ⟨fun h => ?_, fun ⟨vs, p, h, he⟩ => walk_of_ends h he⟩,
    fun f => ⟨fun h => ?_, fun ⟨vs, k, n, h, hpass, hfail⟩ => walk_of_fails h hpass hfail⟩,
    fun t h => ?_⟩
  · rw [h] at hy
    exact hy
  · rw [h] at hy
    exact hy
  · -- the sends are those of the route's end: distinct found keys within the step limit
    rw [h] at hy
    obtain ⟨vs, p, hr, he⟩ := hy
    obtain ⟨us, hnd, hfound, hlim, hemitted⟩ := he.emitted_along hr
    have hsize := length_le_size_of_found hnd hfound
    refine ⟨fun n hn => not_connector_of_mem_emittedAlong (hemitted ▸ hn), ?_, us, hnd, hemitted⟩
    have := length_emittedAlong_le (g := g) us
    rw [hemitted]
    omega

end Autoresponder.Flow
