import Autoresponder.Proofs.Processor

/-!
# Normalised phone numbers

Normalising keeps the digits and plus signs of a number and attaches a country code. Against a
default code of ASCII digits the result is empty exactly when the number keeps nothing, and
otherwise a plus sign followed by decimal digits (`Phone.Normal`), which normalising leaves as
it is. The digits after the plus sign are what the Cloud API address of the number holds.

They are empty for a few degenerate numbers (`Phone.Degenerate`): one that keeps only plus
signs, and one whose digits are two ASCII zeros with no plus sign before them, since the `00`
prefix is taken for an international call prefix. Routing refuses a message as coming from an
invalid number exactly when its number normalises to nothing, so these numbers are let
through with an address that has no digit.

Main statement (`phone_normal_form`).
-/

namespace Autoresponder

open Autoresponder.Text Autoresponder.Time Autoresponder.Op

namespace Phone

/-! ### Characters -/

theorem isDecimal_of_isDigit {c : Char} (h : c.isDigit = true) : isDecimal c = true := by
  obtain ⟨hc, hk⟩ := ofNat_asciiDigit h
  have hdigits : ∀ k < 10, isDecimal (Char.ofNat (48 + k)) = true := by decide +kernel
  rw [← hc]
  exact hdigits _ hk

theorem isDecimal_plus : isDecimal '+' = false := by decide +kernel

/-- A kept character other than the plus sign is a decimal digit. -/
theorem kept_and_ne_plus (c : Char) : (kept c && c != '+') = isDecimal c := by
  by_cases hc : c = '+'
  · subst hc
    rw [isDecimal_plus]
    rfl
  · unfold kept bne
    rw [beq_false_of_ne hc]
    simp

theorem kept_of_isDecimal {c : Char} (h : isDecimal c = true) : kept c = true := by
  simp [kept, h]

/-- The digits of the kept characters are the decimal digits of the number. -/
theorem filter_kept_filter_ne_plus (p : String) :
    (p.toList.filter kept).filter (· != '+') = p.toList.filter isDecimal := by
  rw [List.filter_filter]
  congr 1
  funext c
  rw [Bool.and_comm, kept_and_ne_plus]

/-- A country code of ASCII digits has no plus sign to drop. -/
theorem dropStartOf_of_digits {cc : String} (hcc : ∀ c ∈ cc.toList, c.isDigit = true) :
    dropStartOf cc ['+'] = cc := by
  unfold dropStartOf
  cases h : cc.toList with
  | nil => simp [← String.toList_inj, h]
  | cons c rest =>
    have hc : c ≠ '+' := by
      intro hplus
      have := hcc c (by simp [h])
      simp [hplus] at this
    rw [List.dropWhile_cons_of_neg (by simpa using hc), ← h, String.ofList_toList]

/-! ### The shape of a normalised number -/

/-- A normalised number that is not empty: a plus sign and decimal digits. -/
def Normal (s : String) : Prop :=
  ∃ ds : List Char, (∀ c ∈ ds, isDecimal c = true) ∧ s = "+" ++ String.ofList ds

/-- The numbers that normalise to a bare plus sign: they keep some character, and their digits
are none, or two ASCII zeros with no plus sign kept before them. -/
def Degenerate (p : String) : Prop :=
  p.toList.filter kept ≠ [] ∧ (p.toList.filter isDecimal = [] ∨
    (p.toList.filter isDecimal = ['0', '0'] ∧ (p.toList.filter kept).head? ≠ some '+'))

theorem normalize_eq_empty_iff (p cc : String) :
    normalize p cc = "" ↔ p.toList.filter kept = [] := by
  unfold normalize
  dsimp only
  split
  · simp_all
  · rename_i rest hcl
    simp [hcl, ← String.toList_inj]
  · rename_i cleaned hne _
    constructor
    · intro h
      split at h
      · simp [← String.toList_inj] at h
      · split at h
        · simp [← String.toList_inj] at h
        · split at h <;> simp [← String.toList_inj] at h
    · intro h
      exact absurd h hne

/-- Off its first character, the kept characters of a number not starting with a plus sign
give its digits with that character first. -/
theorem digits_of_head_ne_plus {p : String} {c : Char} {rest : List Char}
    (hcl : p.toList.filter kept = c :: rest) (hc : c ≠ '+') :
    p.toList.filter isDecimal = c :: rest.filter (· != '+') := by
  rw [← filter_kept_filter_ne_plus, hcl, List.filter_cons_of_pos (by simpa using hc)]

theorem isDecimal_of_mem_digits {p : String} {c : Char} (h : c ∈ p.toList.filter isDecimal) :
    isDecimal c = true :=
  (List.mem_filter.mp h).2

/-- Against a default code of ASCII digits, a number that keeps a character normalises to a
plus sign and decimal digits, and these are none exactly for a degenerate number. -/
theorem normalize_normal {p cc : String} (hcc : ∀ c ∈ cc.toList, c.isDigit = true)
    (hne : p.toList.filter kept ≠ []) :
    ∃ ds : List Char, (∀ c ∈ ds, isDecimal c = true) ∧ normalize p cc = "+" ++ String.ofList ds ∧
      (ds = [] ↔ Degenerate p) := by
  have hccDecimal : ∀ c ∈ cc.toList, isDecimal c = true :=
    fun c hc => isDecimal_of_isDigit (hcc c hc)
  unfold normalize
  dsimp only
  rw [dropStartOf_of_digits hcc]
  split
  · exact absurd ‹_› hne
  · -- a leading plus sign: the digits are those of the number
    rename_i rest hcl
    have hdigits : p.toList.filter isDecimal = rest.filter (· != '+') := by
      rw [← filter_kept_filter_ne_plus, hcl, List.filter_cons_of_neg (by simp)]
    refine ⟨rest.filter (· != '+'), fun c hc => ?_, rfl, ?_⟩
    · rw [← hdigits] at hc
      exact isDecimal_of_mem_digits hc
    · simp only [Degenerate, hcl, hdigits, ne_eq, reduceCtorEq, not_false_eq_true, true_and,
        List.head?_cons, not_true_eq_false, and_false, or_false]
  · -- a leading digit: the digits of the number are not empty
    rename_i cleaned hnil hplus
    obtain ⟨c, rest, hcl⟩ := List.exists_cons_of_ne_nil hnil
    have hc : c ≠ '+' := by
      rintro rfl
      exact hplus rest hcl
    have hdigits := digits_of_head_ne_plus hcl hc
    simp only [filter_kept_filter_ne_plus] at *
    have hdec : ∀ d ∈ p.toList.filter isDecimal, isDecimal d = true :=
      fun d hd => isDecimal_of_mem_digits hd
    have hnotDeg : ¬(p.toList.filter isDecimal = [] ∨ p.toList.filter isDecimal = ['0', '0']) →
        ¬Degenerate p := by
      rintro hnot ⟨-, hdeg | ⟨hdeg, -⟩⟩
      · exact hnot (.inl hdeg)
      · exact hnot (.inr hdeg)
    split
    · -- the international prefix `00`
      rename_i hzeros
      refine ⟨(p.toList.filter isDecimal).drop 2, fun d hd => hdec d (List.mem_of_mem_drop hd),
        rfl, ?_⟩
      have htake : (p.toList.filter isDecimal).take 2 = ['0', '0'] := by simpa using hzeros
      constructor
      · intro hdrop
        refine ⟨by simp [hcl], .inr ⟨?_, by simp [hcl, hc]⟩⟩
        rw [← List.take_append_drop 2 (p.toList.filter isDecimal), htake, hdrop, List.append_nil]
      · rintro ⟨-, hdeg | ⟨hdeg, -⟩⟩
        · rw [hdeg] at hdigits
          simp at hdigits
        · rw [hdeg]
          rfl
    · rename_i hzeros
      have hnot : ¬(p.toList.filter isDecimal = [] ∨ p.toList.filter isDecimal = ['0', '0']) := by
        rintro (hdeg | hdeg)
        · rw [hdeg] at hdigits
          simp at hdigits
        · simp [hdeg] at hzeros
      split
      · -- the number starts with the default code
        refine ⟨p.toList.filter isDecimal, hdec, rfl, ?_⟩
        constructor
        · intro hnil'
          rw [hnil'] at hdigits
          simp at hdigits
        · exact fun hdeg => absurd hdeg (hnotDeg hnot)
      · -- the default code replaces a national `0`, or goes in front
        rename_i hprefix
        have hcc_ne : cc.toList ≠ [] := by
          intro hcc_nil
          simp [hcc_nil] at hprefix
        split
        · rename_i rest' hzero
          refine ⟨cc.toList ++ rest', fun d hd => ?_, ?_, ?_⟩
          · rcases List.mem_append.mp hd with hd | hd
            · exact hccDecimal d hd
            · exact hdec d (by rw [hzero]; exact List.mem_cons_of_mem _ hd)
          · simp [← String.toList_inj]
          · simp only [List.append_eq_nil_iff, hcc_ne, false_and, false_iff]
            exact hnotDeg hnot
        · refine ⟨cc.toList ++ p.toList.filter isDecimal, fun d hd => ?_, ?_, ?_⟩
          · rcases List.mem_append.mp hd with hd | hd
            · exact hccDecimal d hd
            · exact hdec d hd
          · simp [← String.toList_inj]
          · simp only [List.append_eq_nil_iff, hcc_ne, false_and, false_iff]
            exact hnotDeg hnot

/-- A plus sign and decimal digits are already normal, against any default code. -/
theorem normalize_of_normal {s : String} (cc : String) (hs : Normal s) : normalize s cc = s := by
  obtain ⟨ds, hds, rfl⟩ := hs
  have hkept : ("+" ++ String.ofList ds).toList.filter kept = '+' :: ds := by
    simp only [String.toList_append, String.toList_ofList]
    rw [show "+".toList = ['+'] from rfl, List.singleton_append,
      List.filter_cons_of_pos (by simp [kept]), List.filter_eq_self.mpr fun c hc =>
        kept_of_isDecimal (hds c hc)]
  have hnoPlus : ds.filter (· != '+') = ds :=
    List.filter_eq_self.mpr fun c hc => by
      have := hds c hc
      have hne : c ≠ '+' := by
        rintro rfl
        simp [isDecimal_plus] at this
      simpa using hne
  unfold normalize
  rw [hkept]
  simp only [hnoPlus]

/-- The Cloud API address of a normal number is its digits. -/
theorem waId_of_normal {ds : List Char} (hds : ∀ c ∈ ds, isDecimal c = true) :
    waId ("+" ++ String.ofList ds) = String.ofList ds := by
  unfold waId
  simp only [String.toList_append, String.toList_ofList]
  rw [show "+".toList = ['+'] from rfl, List.singleton_append,
    List.filter_cons_of_neg (by simp [isDecimal_plus]), List.filter_eq_self.mpr hds]

end Phone

/-! ### Refusing invalid numbers -/

/-- The answer to a message whose number normalises to nothing. -/
def invalidNumber : Routed := { route := "none", error := "invalid phone number" }

/-- A message from a number that normalises to something is recorded, so its routing changes
the world. -/
theorem routeInbound_records {m : Inbound} {ws : Workspace} {now : Stamp} {w w' : World}
    {r : Routed} (hphone : m.sender w.setup ≠ "") (h : exec (routeInbound m ws now) w = (.ok r, w')) :
    w.store.messages.length < w'.store.messages.length := by
  rw [Processor.exec_routeInbound_of_sender hphone] at h
  obtain ⟨snapshot, w₁, hsnap, h⟩ := exec_bind_ok h
  obtain ⟨_, w₂, hrec, h⟩ := exec_bind_ok h
  obtain ⟨msg, hrec⟩ := exec_discard_ok hrec
  obtain ⟨c, hc, -⟩ := recordInbound_ok hrec
  have h₁ : w₁.store.messages = w.store.messages :=
    (keeps_conversationFor_messages _ _ _).of_run hsnap
  obtain ⟨sent, hsent, -⟩ := (Processor.keeps_respond flowFrame_botAppends m snapshot ws now).of_run h
  rw [hsent, hc, h₁]
  simp

/-- Routing refuses a message, touching nothing, exactly when its number normalises to
nothing. -/
theorem routeInbound_invalid_iff (m : Inbound) (ws : Workspace) (now : Stamp) (w : World) :
    exec (routeInbound m ws now) w = (.ok invalidNumber, w) ↔ m.sender w.setup = "" := by
  constructor
  · intro h
    by_contra hphone
    have := routeInbound_records hphone h
    omega
  · exact Processor.exec_routeInbound_of_invalid

/-- Against a default code of ASCII digits, a number normalises to nothing exactly when it has
no digit and no plus sign, and otherwise to a plus sign followed by decimal digits whose Cloud
API address is those digits; the digits are missing only for degenerate numbers. Normalising
twice is normalising once. Routing refuses a message as coming from an invalid number exactly
when its number normalises to nothing. -/
theorem phone_normal_form (p cc : String) (hcc : ∀ c ∈ cc.toList, c.isDigit = true)
    (m : Inbound) (ws : Workspace) (now : Stamp) (w : World) :
    (Phone.normalize p cc = "" ↔ ∀ c ∈ p.toList, Phone.kept c = false) ∧
    (Phone.normalize p cc = "" ∨ ∃ ds : List Char, (∀ c ∈ ds, isDecimal c = true) ∧
      Phone.normalize p cc = "+" ++ String.ofList ds ∧
      Phone.waId (Phone.normalize p cc) = String.ofList ds ∧ (ds = [] ↔ Phone.Degenerate p)) ∧
    Phone.normalize (Phone.normalize p cc) cc = Phone.normalize p cc ∧
    (exec (routeInbound m ws now) w = (.ok invalidNumber, w) ↔ m.sender w.setup = "") := by
  have hempty := Phone.normalize_eq_empty_iff p cc
  have hshape : Phone.normalize p cc = "" ∨ ∃ ds : List Char, (∀ c ∈ ds, isDecimal c = true) ∧
      Phone.normalize p cc = "+" ++ String.ofList ds ∧ (ds = [] ↔ Phone.Degenerate p) := by
    by_cases hkept : p.toList.filter Phone.kept = []
    · exact .inl (hempty.mpr hkept)
    · exact .inr (Phone.normalize_normal hcc hkept)
  refine ⟨by simp [hempty, List.filter_eq_nil_iff], ?_, ?_, routeInbound_invalid_iff m ws now w⟩
  · rcases hshape with h | ⟨ds, hds, h, hdeg⟩
    · exact .inl h
    · exact .inr ⟨ds, hds, h, by rw [h, Phone.waId_of_normal hds], hdeg⟩
  · rcases hshape with h | ⟨ds, hds, h, -⟩
    · rw [h]
      rfl
    · exact Phone.normalize_of_normal cc ⟨ds, hds, h⟩

/-- A national number, sent to a workspace of an empty store. -/
def nationalNumber : Inbound := { phone := "0803 123 4567", messageId := "wamid.n1", text := "hi" }

def nationalWorkspace : Workspace := { id := "ws_1", phoneId := "1001", accessToken := "TOKEN" }

def emptyWorld : World := { clock := ⟨0, 0, some 0⟩ }

theorem nationalNumber_normal_form :
    (∀ c ∈ "234".toList, c.isDigit = true) ∧
      ((Phone.normalize "0803 123 4567" "234" = "" ↔
          ∀ c ∈ "0803 123 4567".toList, Phone.kept c = false) ∧
        (Phone.normalize "0803 123 4567" "234" = "" ∨
          ∃ ds : List Char, (∀ c ∈ ds, isDecimal c = true) ∧
            Phone.normalize "0803 123 4567" "234" = "+" ++ String.ofList ds ∧
            Phone.waId (Phone.normalize "0803 123 4567" "234") = String.ofList ds ∧
            (ds = [] ↔ Phone.Degenerate "0803 123 4567")) ∧
        Phone.normalize (Phone.normalize "0803 123 4567" "234") "234" =
          Phone.normalize "0803 123 4567" "234" ∧
        (exec (routeInbound nationalNumber nationalWorkspace ⟨0, 0, some 0⟩) emptyWorld =
            (.ok invalidNumber, emptyWorld) ↔ nationalNumber.sender emptyWorld.setup = "")) :=
  ⟨by simp, phone_normal_form "0803 123 4567" "234" (by simp) nationalNumber
    nationalWorkspace ⟨0, 0, some 0⟩ emptyWorld⟩

/-- A lone plus sign normalises to a bare plus sign, whose Cloud API address has no digit. -/
theorem lonePlus_has_no_digit :
    Phone.normalize "+" "234" = "+" ∧ Phone.waId (Phone.normalize "+" "234") = "" := by
  decide +kernel

end Autoresponder
