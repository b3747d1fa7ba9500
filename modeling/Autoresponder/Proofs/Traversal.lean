import Autoresponder.Flow.Walk

/-!
# Sound graphs and where walks and replies lead

A graph is sound when it has a `start` node and every `next` pointer, of a node or of a
child of one, names a node; `Graph.problems` is empty exactly for sound graphs.

Every walk ends in one of six ways (`WalkEnd`): waiting at a node that waits for a reply,
completing, handing off at an agent node, meeting a node twice, reaching its step limit, or
meeting a key with no node. The key in the last case is the start or a pointer of a stored
node, so a walk from a key of a sound graph never meets a missing node. A reply to a node of a
sound graph leads nowhere, to the end of the flow, or to a node of the graph; it fails only for
a numbered answer too long to read as a whole number.
-/

namespace Autoresponder.Flow

open Autoresponder.Text

/-! ### Sound graphs -/

/-- The targets a node points to: its own `next` and the `next` of each child. -/
def Node.Points (n : Node) (k : String) : Prop :=
  n.next = some k ∨ ∃ c ∈ n.children, c.next = some k

namespace Graph

/-- A graph with a start node whose every pointer names a node. -/
def Sound (g : Graph) : Prop :=
  g.has "start" = true ∧ ∀ p ∈ g.nodes, ∀ k, p.2.Points k → g.has k = true

theorem has_iff_get (g : Graph) (k : String) : g.has k = true ↔ ∃ n, g.get? k = some n := by
  simp only [has, Option.isSome_iff_exists]

theorem mem_of_get (g : Graph) {k : String} {n : Node} (h : g.get? k = some n) :
    (k, n) ∈ g.nodes := by
  obtain ⟨l₁, l₂, hl, -⟩ := List.lookup_eq_some_iff.mp h
  rw [hl]
  exact List.mem_append_right _ List.mem_cons_self

/-- `problems` is empty exactly for sound graphs. -/
theorem problems_eq_nil_iff (g : Graph) : g.problems = [] ↔ g.Sound := by
  simp only [problems, Sound, List.append_eq_nil_iff, List.flatMap_eq_nil_iff,
    List.filterMap_eq_nil_iff, Node.Points]
  constructor
  · rintro ⟨hstart, hnodes⟩
    refine ⟨?_, ?_⟩
    · cases hs : g.has "start" with
      | true => rfl
      | false => simp [hs] at hstart
    · rintro ⟨key, n⟩ hp k (hk | ⟨c, hc, hk⟩)
      · have hown := (hnodes (key, n) hp).1
        rw [hk] at hown
        cases hh : g.has k with
        | true => rfl
        | false => simp [hh] at hown
      · have hkid := (hnodes (key, n) hp).2 c hc
        rw [hk] at hkid
        cases hh : g.has k with
        | true => rfl
        | false => simp [hh] at hkid
  · rintro ⟨hstart, hnodes⟩
    refine ⟨by simp [hstart], fun ⟨key, n⟩ hp => ⟨?_, fun c hc => ?_⟩⟩
    · cases hk : n.next with
      | none => rfl
      | some k => simp [hnodes (key, n) hp k (Or.inl hk)]
    · cases hk : c.next with
      | none => rfl
      | some k => simp [hnodes (key, n) hp k (Or.inr ⟨c, hc, hk⟩)]

/-- A key a walk from `start` may meet: the start itself, or a pointer of a stored node. -/
def Pointed (g : Graph) (start k : String) : Prop :=
  k = start ∨ ∃ p ∈ g.nodes, p.2.Points k

theorem Sound.has_of_pointed {g : Graph} (hg : g.Sound) {start k : String}
    (hs : g.has start = true) (hk : g.Pointed start k) : g.has k = true := by
  rcases hk with rfl | ⟨p, hp, hk⟩
  · exact hs
  · exact hg.2 p hp k hk

end Graph

/-! ### How a walk ends -/

theorem findM?_mem {α : Type} {p : α → Except Fault Bool} {xs : List α} {a : α}
    (h : xs.findM? p = .ok (some a)) : a ∈ xs := by
  induction xs with
  | nil => simp [List.findM?, pure, Except.pure] at h
  | cons x xs ih =>
    simp only [List.findM?, bind, Except.bind] at h
    cases hp : p x with
    | error e => simp [hp] at h
    | ok b =>
      cases b with
      | true =>
        simp only [hp, pure, Except.pure, Except.ok.injEq, Option.some.injEq] at h
        exact h ▸ List.mem_cons_self
      | false =>
        simp only [hp] at h
        exact List.mem_cons_of_mem x (ih h)

/-- A condition node leads to its own `next` or the `next` of one of its children. -/
theorem branch_points {n : Node} {context : Value} {k : String}
    (h : branch n context = .ok (some k)) : n.Points k := by
  simp only [branch, bind, Except.bind] at h
  split at h
  · simp at h
  · rename_i chosen hc
    cases chosen with
    | some c => exact Or.inr ⟨c, findM?_mem hc, by simpa [pure, Except.pure] using h⟩
    | none => exact Or.inl (by simpa [pure, Except.pure] using h)

/-- The ways a walk from `start` under step limit `m` can end. -/
inductive WalkEnd (g : Graph) (start : String) (m : StepLimit) (t : Traversal) : Prop
  | waits (k : String) (n : Node) : t.outcome = .waiting → t.last = some k → g.get? k = some n →
      n.waitsForReply = true → t.error = "" → WalkEnd g start m t
  | completes : t.outcome = .completed → t.error = "" → WalkEnd g start m t
  | agent (k : String) (n : Node) : t.outcome = .handoff → t.last = some k → g.get? k = some n →
      n.kind = .agent → t.error = "" → WalkEnd g start m t
  | cycle (k : String) : t.outcome = .handoff → t.error = "cycle at node '" ++ k ++ "'" →
      WalkEnd g start m t
  | limit : t.outcome = .handoff → t.error = "exceeded " ++ m.text ++ " steps" → WalkEnd g start m t
  | missing (k : String) : t.outcome = .handoff → t.error = "node '" ++ k ++ "' not found" →
      g.get? k = none → g.Pointed start k → WalkEnd g start m t

theorem walkFrom_ends {g : Graph} {context : Value} {m : StepLimit} {start : String} {fuel : Nat}
    {key : Option String} {seen : List String} {emitted : List Node} {last : Option String}
    {t : Traversal} (h : walkFrom g context m fuel key seen emitted last = .ok t)
    (hkey : ∀ k, key = some k → g.Pointed start k) : WalkEnd g start m t := by
  -- induction on the fuel; each step keeps every key it may meet pointed from the graph
  induction fuel generalizing key seen emitted last with
  | zero =>
    simp only [walkFrom, Except.ok.injEq] at h
    exact .limit (by rw [← h]) (by rw [← h])
  | succ fuel ih =>
    cases key with
    | none =>
      simp only [walkFrom, Except.ok.injEq] at h
      exact .completes (by rw [← h]) (by rw [← h])
    | some k =>
      simp only [walkFrom] at h
      split at h
      · simp only [Except.ok.injEq] at h
        exact .cycle k (by rw [← h]) (by rw [← h])
      split at h
      · simp only [Except.ok.injEq] at h
        exact .limit (by rw [← h]) (by rw [← h])
      split at h
      · rename_i hget
        simp only [Except.ok.injEq] at h
        exact .missing k (by rw [← h]) (by rw [← h]) hget (hkey k rfl)
      rename_i n hget
      split at h
      · rename_i hagent
        simp only [Except.ok.injEq] at h
        exact .agent k n (by rw [← h]) (by rw [← h]) hget (by simpa using hagent) (by rw [← h])
      split at h
      · rename_i hwaits
        simp only [Except.ok.injEq] at h
        exact .waits k n (by rw [← h]) (by rw [← h]) hget hwaits (by rw [← h])
      -- the next key is a condition node's branch, or the node's own `next`
      have hmem := Graph.mem_of_get g hget
      simp only [bind, Except.bind] at h
      split at h
      · split at h
        · simp at h
        · rename_i nextKey hnext
          exact ih h fun k' hk' => Or.inr ⟨(k, n), hmem, branch_points (hk' ▸ hnext)⟩
      · simp only [pure, Except.pure] at h
        exact ih h fun k' hk' => Or.inr ⟨(k, n), hmem, Or.inl hk'⟩

theorem walk_ends {g : Graph} {start : String} {context : Value} {m : StepLimit} {t : Traversal}
    (h : walk g start context m = .ok t) : WalkEnd g start m t :=
  walkFrom_ends h fun _ hk => Or.inl (Option.some.inj hk).symm

/-- A walk that ends waiting stops at a node of the graph that waits for a reply. -/
theorem walk_waiting {g : Graph} {start : String} {context : Value} {m : StepLimit}
    {t : Traversal} (h : walk g start context m = .ok t) (hw : t.outcome = .waiting) :
    ∃ k n, t.last = some k ∧ g.get? k = some n ∧ n.waitsForReply = true := by
  cases walk_ends h with
  | waits k n _ hl hg hn _ => exact ⟨k, n, hl, hg, hn⟩
  | completes ho _ | agent _ _ ho _ _ _ _ | cycle _ ho _ | limit ho _ | missing _ ho _ _ _ =>
    rw [hw] at ho
    cases ho

/-! ### Where a reply leads -/

namespace Selection

/-- A selection lands in a graph when it leads nowhere, to the end of the flow, or to one of
the graph's nodes. -/
def Lands (g : Graph) : Selection → Prop
  | .goTo k => g.has k = true
  | .complete | .noMatch => True

end Selection

theorem childByTitle_mem {n c : Node} {title : String} (h : childByTitle n title = some c) :
    c ∈ n.children := by
  simp only [childByTitle] at h
  split at h
  · cases h
  · exact List.mem_of_find?_eq_some h

theorem childTarget_lands {g : Graph} {c : Node} (hc : ∀ k, c.next = some k → g.has k = true) :
    (childTarget g c).Lands g := by
  unfold childTarget
  split
  · rename_i h
    simp only [Bool.and_eq_true] at h
    exact h.2
  · split
    · rename_i nx hnx
      exact hc nx hnx
    · trivial

/-- A numbered answer too long to read as a whole number: a text reply to a node with
children whose trimmed text is more than `Number.maxWholeDigits` decimal digits. -/
def LongNumeral (cur : Node) (m : Inbound) : Prop :=
  m.pick = none ∧ cur.children ≠ [] ∧ allDecimal (trim m.text) = true ∧
    Number.maxWholeDigits < (trim m.text).length

theorem selectReply_long {g : Graph} {cur : Node} {m : Inbound} (h : LongNumeral cur m) :
    selectReply g (some cur) m = .error (Value.tooManyDigits (trim m.text).length) := by
  obtain ⟨hpick, hkids, hdec, hlen⟩ := h
  have hne : cur.children.isEmpty = false := List.isEmpty_eq_false_iff.mpr hkids
  simp [selectReply, hpick, hne, hdec, hlen]

/-- Every reply to a node whose pointers name nodes of the graph lands in the graph, unless it
is a numbered answer too long to read. -/
theorem selectReply_lands {g : Graph} {cur : Node} {m : Inbound}
    (hcur : ∀ k, cur.Points k → g.has k = true) (hshort : ¬LongNumeral cur m) :
    ∃ s, selectReply g (some cur) m = .ok s ∧ s.Lands g := by
  have hkid : ∀ c ∈ cur.children, ∀ k, c.next = some k → g.has k = true :=
    fun c hc k hk => hcur k (Or.inr ⟨c, hc, hk⟩)
  unfold selectReply
  cases hp : m.pick with
  | some p =>
    -- a picked button: its id when it names a node, else the child with its title
    simp only [Option.bind_some]
    split
    · rename_i h
      simp only [Bool.and_eq_true] at h
      exact ⟨_, rfl, h.2⟩
    · generalize hc : childByTitle cur p.title = byTitle
      cases byTitle with
      | some c => exact ⟨_, rfl, childTarget_lands (hkid c (childByTitle_mem hc))⟩
      | none => exact ⟨_, rfl, trivial⟩
  | none =>
    simp only
    generalize htext : trim m.text = text
    split
    · rename_i hkids
      split
      · rename_i hdec
        split
        · rename_i hlen
          refine absurd ⟨hp, ?_, htext ▸ hdec, htext ▸ hlen⟩ hshort
          simpa using hkids
        · generalize hc : cur.children[selectReply.decimalNumber text - 1]? = picked
          cases picked with
          | some c =>
            refine ⟨_, rfl, ?_⟩
            split
            · exact childTarget_lands (hkid c (List.mem_of_getElem? hc))
            · trivial
          | none => exact ⟨_, rfl, trivial⟩
      · generalize hc : childByTitle cur text = byTitle
        cases byTitle with
        | some c => exact ⟨_, rfl, childTarget_lands (hkid c (childByTitle_mem hc))⟩
        | none => exact ⟨_, rfl, trivial⟩
    · split
      · exact ⟨_, rfl, trivial⟩
      · cases hnx : cur.next with
        | some nx => exact ⟨_, rfl, hcur nx (Or.inl hnx)⟩
        | none => exact ⟨_, rfl, trivial⟩

/-! ### Sound graphs are safe to walk and to answer -/

theorem Graph.Sound.points_has {g : Graph} (hg : g.Sound) {key : String} {cur : Node}
    (h : g.get? key = some cur) : ∀ k, cur.Points k → g.has k = true :=
  fun k hk => hg.2 (key, cur) (Graph.mem_of_get g h) k hk

/-- How a walk over a sound graph hands off: at a cycle, at the step limit, or at an agent
node; never at a missing node. -/
theorem Graph.Sound.walk_handoff {g : Graph} (hg : g.Sound) {s : String} (hs : g.has s = true)
    {context : Value} {m : StepLimit} {t : Traversal} (h : walk g s context m = .ok t)
    (ho : t.outcome = .handoff) :
    (∃ k, t.error = "cycle at node '" ++ k ++ "'") ∨ t.error = "exceeded " ++ m.text ++ " steps" ∨
      (t.error = "" ∧ ∃ k n, t.last = some k ∧ g.get? k = some n ∧ n.kind = .agent) := by
  cases walk_ends h with
  | waits _ _ hw _ _ _ _ => rw [ho] at hw; cases hw
  | completes hc _ => rw [ho] at hc; cases hc
  | agent k n _ hl hget hkind he => exact Or.inr (Or.inr ⟨he, k, n, hl, hget, hkind⟩)
  | cycle k _ he => exact Or.inl ⟨k, he⟩
  | limit _ he => exact Or.inr (Or.inl he)
  | missing k _ _ hget hk =>
    have hhas := hg.has_of_pointed hs hk
    rw [Graph.has_iff_get, hget] at hhas
    simp at hhas

/-- The reason of a handoff at a missing node differs from every other reason. -/
theorem missing_reason_ne {k : String} {reason : String}
    (h : (∃ k', reason = "cycle at node '" ++ k' ++ "'") ∨ (∃ x, reason = "exceeded " ++ x ++ " steps") ∨
      reason = "") : reason ≠ "node '" ++ k ++ "' not found" := by
  intro he
  rcases h with ⟨k', rfl⟩ | ⟨x, rfl⟩ | rfl
  all_goals
    have hl := congrArg String.toList he
    simp at hl

/-- A graph is navigable when a walk from its start or from any of its keys never meets a
missing node, so that every handoff is a cycle, the step limit or an agent node; and a reply to
any of its nodes leads nowhere, to the end of the flow or to one of its nodes, failing only for
a numbered answer too long to read as a whole number. -/
def Graph.Navigable (g : Graph) : Prop :=
  (∀ s, (s = "start" ∨ g.has s = true) → ∀ context m t, walk g s context m = .ok t →
    t.outcome = .handoff →
      (∀ k, t.error ≠ "node '" ++ k ++ "' not found") ∧
      ((∃ k, t.error = "cycle at node '" ++ k ++ "'") ∨
        t.error = "exceeded " ++ m.text ++ " steps" ∨
        (t.error = "" ∧ ∃ k n, t.last = some k ∧ g.get? k = some n ∧ n.kind = .agent))) ∧
  (∀ key, g.has key = true → ∀ msg, ∃ cur, g.get? key = some cur ∧
    (LongNumeral cur msg →
      selectReply g (g.get? key) msg = .error (Value.tooManyDigits (trim msg.text).length)) ∧
    (¬LongNumeral cur msg → ∃ sel, selectReply g (g.get? key) msg = .ok sel ∧ sel.Lands g))

/-- A graph that `problems` finds sound is navigable. -/
theorem navigable_of_problems_eq_nil (g : Graph) (hg : g.problems = []) : g.Navigable := by
  have hsound := (Graph.problems_eq_nil_iff g).mp hg
  refine ⟨fun s hs context m t h ho => ?_, fun key hkey msg => ?_⟩
  · have hhas : g.has s = true := by
      rcases hs with rfl | hs
      · exact hsound.1
      · exact hs
    have reason := hsound.walk_handoff hhas h ho
    refine ⟨fun k => missing_reason_ne ?_, reason⟩
    rcases reason with hc | he | ⟨he, -⟩
    · exact Or.inl hc
    · exact Or.inr (Or.inl ⟨m.text, he⟩)
    · exact Or.inr (Or.inr he)
  · obtain ⟨cur, hcur⟩ := (Graph.has_iff_get g key).mp hkey
    rw [hcur]
    exact ⟨cur, rfl, selectReply_long, selectReply_lands (hsound.points_has hcur)⟩

/-- A start node leading to a one-option menu whose option closes with a text. -/
def sampleOption : Node := { nodeId := "a", kind := .option, message := "A", next := some "end" }

/-- The menu of `sampleGraph`. -/
def sampleMenu : Node :=
  { nodeId := "menu", kind := .optionMessage, message := "Pick", children := [sampleOption] }

/-- The graph read from `start → menu → (a → end)`, with the option indexed by its id. -/
def sampleGraph : Graph :=
  ⟨[("start", { nodeId := "start", kind := .start, next := some "menu" }), ("menu", sampleMenu),
    ("end", { nodeId := "end", kind := .text, message := "Bye" }), ("a", sampleOption)]⟩

theorem sampleGraph_navigable : sampleGraph.problems = [] ∧ sampleGraph.Navigable :=
  ⟨by decide +kernel, navigable_of_problems_eq_nil sampleGraph (by decide +kernel)⟩

/-- A text reply of 4301 zeros: a numeral for zero with more digits than a whole number may
have. -/
def zerosReply : Inbound := { phone := "+1", text := String.ofList (List.replicate 4301 '0') }

theorem isBlank_zero : isBlank '0' = false := by decide +kernel

theorem isDecimal_zero : isDecimal '0' = true := by decide +kernel

theorem trim_zeros (n : Nat) :
    trim (String.ofList (List.replicate n '0')) = String.ofList (List.replicate n '0') := by
  simp [trim, trimStart, trimEnd, isBlank_zero]

theorem allDecimal_zeros {n : Nat} (h : 0 < n) :
    allDecimal (String.ofList (List.replicate n '0')) = true := by
  simp [allDecimal, List.all_replicate, isDecimal_zero]
  omega

theorem zerosReply_long : LongNumeral sampleMenu zerosReply := by
  refine ⟨rfl, by simp [sampleMenu], ?_, ?_⟩
  · rw [zerosReply, trim_zeros]
    exact allDecimal_zeros (by decide)
  · rw [zerosReply, trim_zeros, String.length_ofList, List.length_replicate]
    decide

/-- A sound graph does not answer every reply: a numbered answer of 4301 digits to its menu
fails. -/
theorem sound_menu_refuses_long_numeral :
    sampleGraph.problems = [] ∧ sampleGraph.has "menu" = true ∧
      ¬∃ sel, selectReply sampleGraph (sampleGraph.get? "menu") zerosReply = .ok sel := by
  refine ⟨by decide +kernel, by decide +kernel, ?_⟩
  rintro ⟨sel, h⟩
  have hget : sampleGraph.get? "menu" = some sampleMenu := rfl
  rw [hget, selectReply_long zerosReply_long] at h
  cases h

end Autoresponder.Flow
