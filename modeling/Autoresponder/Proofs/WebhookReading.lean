import Autoresponder.Channel.Webhook
import Autoresponder.Proofs.PlaceholderFilling
import Autoresponder.Proofs.SettingsDocument
import Mathlib.Data.List.Forall2

/-!
# Reading webhook deliveries

A delivery laid out as the Cloud API lays it out (`deliveryLaidOut`: entries of changes, each
change's value with its metadata, contacts, messages and statuses, every member that the
reader looks at absent or of its kind, and every leaf a text) is read in one pass. Each message
that names a sender gives one inbound message, in delivery order, whose phone is the sender
with a plus sign in front of its digits; each status that names a message and a status gives
one status update.

The send time is the one part that can fail. The reader keeps it when its text is all
characters with a digit value, and then converts it as a decimal number of seconds; but
superscripts and other such characters have a digit value without being decimal digits, and a
decimal number may lie beyond the calendar or be too long to convert. A delivery is read
exactly when every timestamp of a message with a sender is either not all digits or denotes an
instant (`Denotes`), and the message then carries that instant (`webhook_reading`).
-/

namespace Autoresponder

namespace Value

/-- Whether a value is an object. -/
def isObject : Value → Bool
  | .dict _ => true
  | _ => false

/-- The text under `key`, or `d` when that member is absent or no text. -/
def textOr (o : Value) (key d : String) : String :=
  match o.get? key with
  | some (.str s) => s
  | _ => d

/-- The text under `key`, or the empty text. -/
def textAt (o : Value) (key : String) : String := o.textOr key ""

/-- The object under `key`, or the empty object when it is absent. -/
def objectAt (o : Value) (key : String) : Value := (o.get? key).getD (.dict [])

/-- The items of the list under `key`, or none. -/
def itemsAt (o : Value) (key : String) : List Value :=
  match o.get? key with
  | some (.list xs) => xs
  | _ => []

/-- Whether the member under `key` is absent or a text. -/
def textOrAbsent (o : Value) (key : String) : Bool :=
  match o.get? key with
  | none | some (.str _) => true
  | some _ => false

/-- Whether the member under `key` is absent or an object that `ok` accepts. -/
def objectOrAbsent (o : Value) (key : String) (ok : Value → Bool) : Bool :=
  match o.get? key with
  | none => true
  | some (.dict kvs) => ok (.dict kvs)
  | some _ => false

/-- Whether the member under `key` is absent or a list of objects that `ok` accepts. -/
def objectsOrAbsent (o : Value) (key : String) (ok : Value → Bool) : Bool :=
  match o.get? key with
  | none => true
  | some (.list xs) => xs.all fun x => x.isObject && ok x
  | some _ => false

/-! ### Reading laid-out members -/

section Members

variable {o : Value} {key : String}

/-- An object's member is looked up; the reading fails only on values that are no object. -/
theorem field_of_isObject (ho : o.isObject = true) (d : Value) :
    o.field key d = .ok ((o.get? key).getD d) := by
  cases o with
  | dict kvs => rfl
  | _ => simp [isObject] at ho

theorem field_text (ho : o.isObject = true) (h : o.textOrAbsent key = true) (d : String) :
    o.field key (.str d) = .ok (.str (o.textOr key d)) := by
  rw [field_of_isObject ho]
  simp only [textOrAbsent] at h
  simp only [textOr]
  cases hk : o.get? key with
  | none => rfl
  | some v =>
    rw [hk] at h
    cases v <;> simp_all

/-- A member read with null for its absence is true exactly when it is a text that is not
empty, and is then that text. -/
theorem field_truthy (ho : o.isObject = true) (h : o.textOrAbsent key = true) :
    ∃ v, o.field key = .ok v ∧ v.truthy = !(o.textAt key).isEmpty ∧
      (v.truthy = true → v = .str (o.textAt key)) := by
  rw [field_of_isObject ho]
  simp only [textOrAbsent] at h
  simp only [textAt, textOr]
  cases hk : o.get? key with
  | none => exact ⟨.null, rfl, rfl, by simp [truthy]⟩
  | some v =>
    rw [hk] at h
    cases v <;> simp_all [truthy]

/-- An object part, absent or empty, reads as the empty object. -/
theorem field_object {ok : Value → Bool} (ho : o.isObject = true)
    (h : o.objectOrAbsent key ok = true) (hempty : ok (.dict []) = true) :
    ∃ v, o.field key = .ok v ∧ v.orElse (.dict []) = o.objectAt key ∧
      (o.objectAt key).isObject = true ∧ ok (o.objectAt key) = true := by
  rw [field_of_isObject ho]
  simp only [objectOrAbsent] at h
  simp only [objectAt]
  cases hk : o.get? key with
  | none => exact ⟨.null, rfl, rfl, rfl, hempty⟩
  | some v =>
    rw [hk] at h
    cases v with
    | dict kvs =>
      refine ⟨.dict kvs, rfl, ?_, rfl, h⟩
      -- an empty object is false, and stands in for itself
      cases kvs <;> rfl
    | _ => simp at h

/-- A list part, absent or empty, reads as no items. -/
theorem field_items {ok : Value → Bool} (ho : o.isObject = true)
    (h : o.objectsOrAbsent key ok = true) :
    ∃ v, o.field key = .ok v ∧ v.itemsOf = .ok (o.itemsAt key) ∧
      ∀ x ∈ o.itemsAt key, x.isObject = true ∧ ok x = true := by
  rw [field_of_isObject ho]
  simp only [objectsOrAbsent] at h
  simp only [itemsAt]
  cases hk : o.get? key with
  | none => exact ⟨.null, rfl, rfl, by simp⟩
  | some v =>
    rw [hk] at h
    cases v with
    | list xs =>
      refine ⟨.list xs, rfl, ?_, by simpa using h⟩
      cases xs <;> rfl
    | _ => simp at h

end Members

end Value

namespace Text

/-- Every decimal digit has a digit value. -/
theorem isDigitLike_of_isDecimal {c : Char} (h : isDecimal c = true) : isDigitLike c = true := by
  obtain ⟨p, hp, hlo, hhi⟩ := spanSearch_sound h
  -- the decimal digits are a few dozen runs of ten: check each of their code points
  have hall : ∀ p ∈ decimalSpans.toList, ∀ i ≤ p.2 - p.1,
      isDigitLike (Char.ofNat (p.1 + i)) = true := by
    decide +kernel
  have := hall p hp (c.toNat - p.1) (by omega)
  rwa [show p.1 + (c.toNat - p.1) = c.toNat by omega, Char.ofNat_toNat] at this

theorem allDigitLike_of_allDecimal {s : String} (h : allDecimal s = true) :
    allDigitLike s = true := by
  simp only [allDecimal, allDigitLike, Bool.and_eq_true, List.all_eq_true] at h ⊢
  exact ⟨h.1, fun c hc => isDigitLike_of_isDecimal (h.2 c hc)⟩

end Text

/-! ### Reading lists item by item -/

section Sifting

variable {α β ε : Type} {f : α → Except ε (Option β)} {keep : α → Bool} {good : α → Prop}
  {R : α → β → Prop}

/-- What a reading step `f` does with an item: it drops one that `keep` refuses; one that
`keep` takes it reads exactly when `good` holds of it, into something `R` relates to it. -/
def Sifts (f : α → Except ε (Option β)) (keep : α → Bool) (good : α → Prop)
    (R : α → β → Prop) (a : α) : Prop :=
  (keep a = false → f a = .ok none) ∧
    (keep a = true → ((∃ r, f a = .ok r) ↔ good a) ∧ ∀ r, f a = .ok r → ∃ b, r = some b ∧ R a b)

/-- Reading a list with a step that sifts each item succeeds exactly when every item kept is
good, and then gives one result for each item kept, in order. -/
theorem filterMapM_sifts {xs : List α} (h : ∀ a ∈ xs, Sifts f keep good R a) :
    ((∃ ys, xs.filterMapM f = .ok ys) ↔ ∀ a ∈ xs, keep a = true → good a) ∧
      ∀ ys, xs.filterMapM f = .ok ys → List.Forall₂ R (xs.filter keep) ys := by
  induction xs with
  | nil =>
    refine ⟨⟨fun _ => by simp, fun _ => ⟨[], rfl⟩⟩, fun ys hys => ?_⟩
    cases hys
    exact List.Forall₂.nil
  | cons a l ih =>
    obtain ⟨hdrop, htake⟩ := h a List.mem_cons_self
    obtain ⟨ihok, ihrel⟩ := ih fun b hb => h b (List.mem_cons_of_mem a hb)
    rw [List.filterMapM_cons]
    cases hk : keep a
    · -- a dropped item leaves the rest to read
      rw [hdrop hk]
      simp only [bind, Except.bind]
      refine ⟨?_, fun ys hys => by simpa [hk] using ihrel ys hys⟩
      rw [ihok]
      simp [hk]
    · obtain ⟨hgood, hkept⟩ := htake hk
      by_cases hg : good a
      · obtain ⟨r, hr⟩ := hgood.2 hg
        obtain ⟨b, rfl, hb⟩ := hkept _ hr
        rw [hr]
        simp only [bind, Except.bind]
        cases hrest : l.filterMapM f with
        | ok ys =>
          refine ⟨⟨fun _ => ?_, fun _ => ⟨_, rfl⟩⟩, fun zs hzs => ?_⟩
          · have := ihok.1 ⟨ys, hrest⟩
            simp only [List.mem_cons, forall_eq_or_imp]
            exact ⟨fun _ => hg, this⟩
          · cases hzs
            simpa [hk] using List.Forall₂.cons hb (ihrel ys hrest)
        | error e =>
          refine ⟨⟨fun hys => ?_, fun hall => ?_⟩, fun zs hzs => ?_⟩
          · obtain ⟨ys, hys⟩ := hys
            cases hys
          · obtain ⟨ys, hys⟩ := ihok.2 fun b hb => hall b (List.mem_cons_of_mem a hb)
            rw [hrest] at hys
            cases hys
          · cases hzs
      · -- a kept item that is not good stops the reading
        cases hr : f a with
        | ok r => exact absurd (hgood.1 ⟨r, hr⟩) hg
        | error e =>
          simp only [bind, Except.bind]
          refine ⟨⟨fun hys => ?_, fun hall => absurd (hall a List.mem_cons_self hk) hg⟩,
            fun zs hzs => ?_⟩
          · obtain ⟨ys, hys⟩ := hys
            cases hys
          · cases hzs

end Sifting

namespace Channel

open Autoresponder.Text Autoresponder.Time

/-! ### Send times -/

/-- The whole number a text of decimal digits writes. -/
def decimalOf (s : String) : Nat := s.toList.foldl (fun n c => n * 10 + (decimalValue? c).getD 0) 0

/-- A timestamp text denotes the instant `st`: it is written in decimal digits, at most 4300 of
them (the longest number the reader converts), and that many seconds after 1970-01-01 UTC lie
within the calendar. -/
def Denotes (s : String) (st : Stamp) : Prop :=
  allDecimal s = true ∧ s.length ≤ 4300 ∧ Stamp.ofEpochSeconds (decimalOf s) = .ok st

/-- A timestamp the reader takes: one that is not all digits, or one that denotes an instant. -/
def TimeReadable (s : String) : Prop := allDigitLike s = true → ∃ st, Denotes s st

theorem Denotes.unique {s : String} {st st' : Stamp} (h : Denotes s st) (h' : Denotes s st') :
    st = st' := by
  have := h.2.2.symm.trans h'.2.2
  injection this

theorem readWhole_of_decimal {s : String} (hd : allDecimal s = true) (hl : s.length ≤ 4300) :
    readWhole s = .ok (decimalOf s) := by
  simp only [allDecimal, Bool.and_eq_true, Bool.not_eq_true'] at hd
  have hall : s.all isDecimal = true := by simpa using hd.2
  simp [readWhole, hall, hd.1, Nat.not_lt.2 hl, decimalOf]

theorem readWhole_error {s : String} (h : ¬ (allDecimal s = true ∧ s.length ≤ 4300)) :
    ∃ e, readWhole s = .error e := by
  unfold readWhole
  split
  · exact ⟨_, rfl⟩
  · rename_i hdec
    split
    · exact ⟨_, rfl⟩
    · rename_i hlen
      refine absurd ⟨?_, by omega⟩ h
      simp only [Bool.or_eq_true, Bool.not_eq_true', not_or, Bool.not_eq_false] at hdec
      simp only [allDecimal, Bool.and_eq_true, Bool.not_eq_true']
      exact ⟨by simpa using hdec.2, by simpa using hdec.1⟩

/-- A send time is read exactly when the timestamp text is readable, and it is then the instant
the text denotes, or none. -/
theorem sendTime_text (s : String) :
    (TimeReadable s ↔ ∃ t, sendTime (.str s) = .ok t) ∧
      ∀ t, sendTime (.str s) = .ok t → ∀ st, t = some st ↔ Denotes s st := by
  by_cases hdig : allDigitLike s = true
  · by_cases hread : allDecimal s = true ∧ s.length ≤ 4300
    · have hwhole := readWhole_of_decimal hread.1 hread.2
      cases hst : Stamp.ofEpochSeconds (decimalOf s) with
      | ok st =>
        have hsend : sendTime (.str s) = .ok (some st) := by
          simp [sendTime, Value.display, hdig, hwhole, hst, bind, Except.bind, pure, Except.pure]
        have hden : Denotes s st := ⟨hread.1, hread.2, hst⟩
        refine ⟨⟨fun _ => ⟨_, hsend⟩, fun _ _ => ⟨st, hden⟩⟩, fun t ht st' => ?_⟩
        rw [hsend] at ht
        injection ht with ht
        subst ht
        exact ⟨fun h => by injection h with h; exact h ▸ hden,
          fun h => by rw [hden.unique h]⟩
      | error e =>
        have hsend : ∃ f, sendTime (.str s) = .error f :=
          ⟨Fault.ofTime e, by
            simp [sendTime, Value.display, hdig, hwhole, hst, bind, Except.bind]
            rfl⟩
        obtain ⟨f, hf⟩ := hsend
        refine ⟨⟨fun h => ?_, (by rintro ⟨t, ht⟩; rw [hf] at ht; cases ht)⟩,
          fun t ht => by rw [hf] at ht; cases ht⟩
        obtain ⟨st, -, -, hst'⟩ := h hdig
        rw [hst] at hst'
        cases hst'
    · obtain ⟨e, he⟩ := readWhole_error hread
      have hf : ∃ f, sendTime (.str s) = .error f :=
        ⟨e, by simp [sendTime, Value.display, hdig, he, bind, Except.bind]⟩
      obtain ⟨f, hf⟩ := hf
      refine ⟨⟨fun h => ?_, (by rintro ⟨t, ht⟩; rw [hf] at ht; cases ht)⟩,
        fun t ht => by rw [hf] at ht; cases ht⟩
      obtain ⟨st, hd, hl, -⟩ := h hdig
      exact absurd ⟨hd, hl⟩ hread
  · -- a text that is not all digits is no send time, and denotes no instant
    have hsend : sendTime (.str s) = .ok none := by
      simp [sendTime, Value.display, hdig, pure, Except.pure]
    refine ⟨⟨fun _ => ⟨_, hsend⟩, fun _ h => absurd h hdig⟩, fun t ht st => ?_⟩
    rw [hsend] at ht
    injection ht with ht
    subst ht
    exact ⟨fun h => (by cases h), fun h => absurd (allDigitLike_of_allDecimal h.1) hdig⟩

/-! ### Messages -/

open Value in
/-- Whether a message is laid out as the reader expects: its sender, kind, timestamp and id are
texts or absent, and each part that some kind of message reads is absent or an object whose
members read are texts or absent. -/
def messageLaidOut (m : Value) : Bool :=
  ["from", "type", "timestamp", "id"].all m.textOrAbsent &&
  m.objectOrAbsent "text" (·.textOrAbsent "body") &&
  m.objectOrAbsent "interactive" (fun i => i.textOrAbsent "type" &&
    ["button_reply", "list_reply"].all fun k =>
      i.objectOrAbsent k fun r => r.textOrAbsent "id" && r.textOrAbsent "title") &&
  m.objectOrAbsent "button" (fun b => b.textOrAbsent "payload" && b.textOrAbsent "text") &&
  m.objectOrAbsent "location"
    (fun l => l.textOrAbsent "latitude" && l.textOrAbsent "longitude") &&
  mediaKinds.all fun k => m.objectOrAbsent k fun o => o.textOrAbsent "caption" && o.textOrAbsent "id"

theorem pickOf_texts (kind id title : String) :
    pickOf kind (.str id) (.str title) = .ok ⟨kind, id, title⟩ := rfl

/-- What a laid-out message carries is texts, whatever its kind. -/
theorem messageContent_texts {m : Value} (ho : m.isObject = true) (hm : messageLaidOut m = true)
    (k : String) : ∃ t pick l, messageContent m (.str k) = .ok (.str t, pick, .str l) := by
  simp only [messageLaidOut, Bool.and_eq_true, List.all_cons, List.all_nil, Bool.and_true] at hm
  obtain ⟨⟨⟨⟨⟨-, htext⟩, hinter⟩, hbutton⟩, hlocation⟩, hmedia⟩ := hm
  unfold messageContent
  split
  · -- a text message: its body
    obtain ⟨v, hv, hor, hobj, hbody⟩ := Value.field_object ho htext rfl
    simp only [hv, bind, Except.bind, hor, Value.field_text hobj hbody]
    exact ⟨_, _, _, rfl⟩
  · -- an interactive reply: the button or row picked, when its type names one
    obtain ⟨v, hv, hor, hobj, hraw⟩ := Value.field_object ho hinter rfl
    simp only [Bool.and_eq_true] at hraw
    obtain ⟨htype, hbr, hlr⟩ := hraw
    simp only [hv, bind, Except.bind, hor, Value.field_text hobj htype]
    split
    · rename_i hpick
      have hreply : (m.objectAt "interactive").objectOrAbsent
          ((m.objectAt "interactive").textOr "type" "")
          (fun r => r.textOrAbsent "id" && r.textOrAbsent "title") = true := by
        simp only [Bool.or_eq_true, beq_iff_eq] at hpick
        rcases hpick with h | h <;> rw [h] <;> assumption
      obtain ⟨r, hr, hror, hrobj, hids⟩ := Value.field_object hobj hreply rfl
      simp only [Bool.and_eq_true] at hids
      simp only [hr, hror, Value.field_text hrobj hids.1, Value.field_text hrobj hids.2,
        pickOf_texts]
      exact ⟨_, _, _, rfl⟩
    · exact ⟨_, _, _, rfl⟩
  · -- a button of a template: its payload and text
    obtain ⟨v, hv, hor, hobj, hraw⟩ := Value.field_object ho hbutton rfl
    simp only [Bool.and_eq_true] at hraw
    simp only [hv, bind, Except.bind, hor, Value.field_text hobj hraw.1,
      Value.field_text hobj hraw.2, pickOf_texts]
    exact ⟨_, _, _, rfl⟩
  · -- a location: written out whatever its coordinates are
    obtain ⟨v, hv, hor, hobj, -⟩ := Value.field_object ho hlocation rfl
    cases hobj' : v.orElse (.dict []) with
    | dict kvs =>
      simp only [hv, bind, Except.bind, hobj']
      exact ⟨_, _, _, rfl⟩
    | _ => simp [hor ▸ hobj', Value.isObject] at hobj
  next _ kind _ _ _ _ _ =>
    -- a media kind: its caption and id
    split
    · rename_i hkind
      have hkm : kind ∈ mediaKinds := by simpa using hkind
      obtain ⟨v, hv, hor, hobj, hids⟩ :=
        Value.field_object ho (List.all_eq_true.1 hmedia kind hkm) rfl
      simp only [Bool.and_eq_true] at hids
      simp only [hv, bind, Except.bind, hor, Value.field_text hobj hids.1,
        Value.field_text hobj hids.2]
      exact ⟨_, _, _, rfl⟩
    · exact ⟨_, _, _, rfl⟩
  · exact ⟨_, _, _, rfl⟩

/-! ### Contacts -/

/-- Profile names read so far, each a text. -/
def TextNames (names : List (String × Value)) : Prop := ∀ kv ∈ names, ∃ s, kv.2 = .str s

theorem TextNames.setIn {names : List (String × Value)} (hn : TextNames names) (k s : String) :
    TextNames (Value.setIn names k (.str s)) := by
  intro kv hkv
  unfold Value.setIn at hkv
  split at hkv
  · obtain ⟨⟨k', v'⟩, hmem, rfl⟩ := List.mem_map.1 hkv
    dsimp only
    split
    · exact ⟨s, rfl⟩
    · exact hn _ hmem
  · rcases List.mem_append.1 hkv with h | h
    · exact hn kv h
    · rw [List.mem_singleton.1 h]
      exact ⟨s, rfl⟩

/-- The profile name of a sender is a text, the empty one when none is known. -/
theorem TextNames.lookup {names : List (String × Value)} (hn : TextNames names) (k : String) :
    ∃ t, (names.lookup k).getD (.str "") = .str t := by
  cases hk : names.lookup k with
  | none => exact ⟨"", rfl⟩
  | some v =>
    obtain ⟨l₁, l₂, hsplit, -⟩ := List.lookup_eq_some_iff.1 hk
    exact hn (k, v) (by simp [hsplit])

open Value in
/-- Whether a contact is laid out as the reader expects: its number a text and its profile an
object with a name text, each absent or so. -/
def contactLaidOut (c : Value) : Bool :=
  c.textOrAbsent "wa_id" && c.objectOrAbsent "profile" (·.textOrAbsent "name")

/-- A walk over a list keeps an invariant that every step keeps. -/
theorem foldlM_keeps {α β ε : Type} {f : β → α → Except ε β} (P : β → Prop) :
    ∀ {xs : List α} {b : β}, (∀ b a, a ∈ xs → P b → ∃ b', f b a = .ok b' ∧ P b') →
      P b → ∃ b', xs.foldlM f b = .ok b' ∧ P b'
  | [], b, _, hb => ⟨b, rfl, hb⟩
  | a :: as, b, hf, hb => by
    obtain ⟨b₁, h₁, hb₁⟩ := hf b a List.mem_cons_self hb
    rw [List.foldlM_cons, h₁]
    exact foldlM_keeps P (fun b a ha => hf b a (List.mem_cons_of_mem _ ha)) hb₁

/-- Laid-out contacts give profile names that are all texts. -/
theorem contactNames_texts {contacts : Value} {cs : List Value} (hcs : contacts.itemsOf = .ok cs)
    (hc : ∀ c ∈ cs, c.isObject = true ∧ contactLaidOut c = true) :
    ∃ names, contactNames contacts = .ok names ∧ TextNames names := by
  unfold contactNames
  rw [hcs]
  refine foldlM_keeps TextNames (fun names c hmem hn => ?_) (fun _ h => by cases h)
  obtain ⟨ho, hlaid⟩ := hc c hmem
  simp only [contactLaidOut, Bool.and_eq_true] at hlaid
  obtain ⟨v, hv, hor, hobj, hname⟩ := Value.field_object ho hlaid.2 rfl
  simp only [hv, bind, Except.bind, hor, Value.field_text hobj hname,
    Value.field_text ho hlaid.1, Value.hashable, Bool.not_true]
  exact ⟨_, rfl, hn.setIn _ _⟩

/-! ### Messages and statuses -/

/-- Whether a message names a sender. -/
def hasSender (m : Value) : Bool := !(m.textAt "from").isEmpty

/-- An inbound message read from the message `m`: its phone is the sender with one plus sign in
front of its digits, its id is the message's, and it carries a send time exactly when the
timestamp denotes one, that one. -/
def Received (m : Value) (inb : Inbound) : Prop :=
  inb.phone = "+" ++ dropStartOf (m.textAt "from") ['+'] ∧ inb.messageId = m.textAt "id" ∧
    ∀ st, inb.timestamp = some st ↔ Denotes (m.textAt "timestamp") st

/-- A laid-out message without a sender is skipped; one with a sender is read exactly when its
timestamp is readable. -/
theorem readMessage_sifts {m : Value} (ho : m.isObject = true) (hm : messageLaidOut m = true)
    {names : List (String × Value)} (hn : TextNames names) (phoneNumberId : String) :
    Sifts (readMessage · phoneNumberId names) hasSender
      (fun m => TimeReadable (m.textAt "timestamp")) Received m := by
  have hparts := hm
  simp only [messageLaidOut, Bool.and_eq_true, List.all_cons, List.all_nil, Bool.and_true]
    at hparts
  obtain ⟨⟨⟨⟨⟨⟨hfrom, htype, hts, hid⟩, -⟩, -⟩, -⟩, -⟩, -⟩ := hparts
  obtain ⟨t, pick, l, hcontent⟩ := messageContent_texts ho hm (m.textOr "type" "text")
  obtain ⟨c, hc⟩ := hn.lookup (m.textAt "from")
  obtain ⟨hreadable, htime⟩ := sendTime_text (m.textAt "timestamp")
  have hread : readMessage m phoneNumberId names = (do
      if !(Value.str (m.textAt "from")).truthy then return none
      let timestamp ← sendTime (.str (m.textAt "timestamp"))
      return some (Inbound.mk ("+" ++ dropStartOf (m.textAt "from") ['+']) (m.textAt "id")
        (m.textOr "type" "text") t pick c phoneNumberId timestamp l)) := by
    unfold readMessage
    simp only [Value.textAt] at hc ⊢
    simp only [Value.field_text ho hfrom, Value.field_text ho htype, Value.field_text ho hts,
      Value.field_text ho hid, hcontent, hc, Check.text_str, Checked.under_ok, Checked.issues_ok,
      List.append_nil, List.isEmpty_nil, Bool.not_true, Bool.false_eq_true, if_false,
      Checked.getD_ok, bind, Except.bind]
    by_cases hsender : (!(Value.str (m.textOr "from" "")).truthy) = true
    · simp only [hsender, if_true]
    · simp only [hsender, Bool.false_eq_true, if_false]
      cases sendTime (.str (m.textOr "timestamp" "")) <;> rfl
  refine ⟨fun hk => ?_, fun hk => ?_⟩
  · simp only [hasSender, Bool.not_eq_false', String.isEmpty_iff] at hk
    simp [hread, Value.truthy, hk, pure, Except.pure]
  · have hsender : (Value.str (m.textAt "from")).truthy = true := hk
    simp only [hread, hsender, Bool.not_true, Bool.false_eq_true, if_false]
    cases hst : sendTime (.str (m.textAt "timestamp")) with
    | error e =>
      refine ⟨⟨(by rintro ⟨r, hr⟩; cases hr), fun h => ?_⟩, fun r hr => (by cases hr)⟩
      obtain ⟨t', ht'⟩ := hreadable.1 h
      rw [hst] at ht'
      cases ht'
    | ok ts =>
      refine ⟨⟨fun _ => hreadable.2 ⟨ts, hst⟩, fun _ => ⟨_, rfl⟩⟩, fun r hr => ?_⟩
      cases hr
      exact ⟨_, rfl, rfl, rfl, htime ts hst⟩

/-- A status update read from the status `st`: its message, status and recipient. -/
def Reported (st : Value) (u : StatusUpdate) : Prop :=
  u.messageId = st.textAt "id" ∧ u.status = st.textAt "status" ∧
    u.recipient = st.textAt "recipient_id"

/-- Whether a status names a message and a status. -/
def reportable (st : Value) : Bool := !(st.textAt "id").isEmpty && !(st.textAt "status").isEmpty

open Value in
/-- Whether a status is laid out as the reader expects: its id, status and recipient are texts
or absent. -/
def statusLaidOut (st : Value) : Bool :=
  ["id", "status", "recipient_id"].all st.textOrAbsent

/-- A laid-out status is always read: skipped when it names no message or no status. -/
theorem readStatus_sifts {st : Value} (ho : st.isObject = true) (hs : statusLaidOut st = true) :
    Sifts readStatus reportable (fun _ => True) Reported st := by
  simp only [statusLaidOut, List.all_cons, List.all_nil, Bool.and_true, Bool.and_eq_true] at hs
  obtain ⟨hid, hstatus, hrecipient⟩ := hs
  obtain ⟨i, hi, hitruthy, histr⟩ := Value.field_truthy ho hid
  obtain ⟨s, hs, hstruthy, hsstr⟩ := Value.field_truthy ho hstatus
  refine ⟨fun hk => ?_, fun hk => ?_⟩ <;> unfold readStatus <;>
    simp only [hi, hs, Value.field_text ho hrecipient, bind, Except.bind]
  · simp only [reportable, Bool.and_eq_false_iff, Bool.not_eq_false'] at hk
    rcases hk with hk | hk
    · simp [hitruthy, hk, pure, Except.pure]
    · by_cases hit : i.truthy = true
      · simp [hit, hstruthy, hk, pure, Except.pure]
      · simp [hit, pure, Except.pure]
  · simp only [reportable, Bool.and_eq_true, Bool.not_eq_true'] at hk
    have hit : i.truthy = true := by rw [hitruthy, hk.1]; rfl
    have hst : s.truthy = true := by rw [hstruthy, hk.2]; rfl
    simp only [hit, hst, Bool.not_true, Bool.false_eq_true, if_false]
    rw [histr hit, hsstr hst]
    refine ⟨⟨fun _ => trivial, fun _ => ⟨_, rfl⟩⟩, fun r hr => ?_⟩
    cases hr
    exact ⟨_, rfl, rfl, rfl, rfl⟩

/-! ### Changes and deliveries -/

open Value in
/-- Whether a change's value is laid out as the reader expects: its metadata an object with a
phone number id text, and its contacts, messages and statuses lists of laid-out objects, each
absent or so. -/
def valueLaidOut (v : Value) : Bool :=
  v.objectOrAbsent "metadata" (·.textOrAbsent "phone_number_id") &&
    v.objectsOrAbsent "contacts" contactLaidOut && v.objectsOrAbsent "messages" messageLaidOut &&
    v.objectsOrAbsent "statuses" statusLaidOut

/-- Whether a change is laid out as the reader expects: its value absent or laid out. -/
def changeLaidOut (c : Value) : Bool := c.objectOrAbsent "value" valueLaidOut

/-- Whether an entry is laid out as the reader expects: its changes a list of laid-out
changes, or absent. -/
def entryLaidOut (e : Value) : Bool := e.objectsOrAbsent "changes" changeLaidOut

/-- Whether a delivery is laid out as the Cloud API lays it out: an object whose entries are a
list of laid-out entries, or absent. -/
def deliveryLaidOut (p : Value) : Bool := p.isObject && p.objectsOrAbsent "entry" entryLaidOut

/-- The messages of a change that name a sender, in order. -/
def changeMessages (c : Value) : List Value :=
  ((c.objectAt "value").itemsAt "messages").filter hasSender

/-- The statuses of a change that name a message and a status, in order. -/
def changeStatuses (c : Value) : List Value :=
  ((c.objectAt "value").itemsAt "statuses").filter reportable

/-- The messages of a delivery that name a sender, in delivery order. -/
def sentMessages (p : Value) : List Value :=
  (p.itemsAt "entry").flatMap fun e => (e.itemsAt "changes").flatMap changeMessages

/-- The statuses of a delivery that name a message and a status, in delivery order. -/
def reportedStatuses (p : Value) : List Value :=
  (p.itemsAt "entry").flatMap fun e => (e.itemsAt "changes").flatMap changeStatuses

/-- A step that adds to a delivery what an item of `dom` reports: it succeeds exactly when
`good` holds of the item, and then appends inbound messages received from `ms a` and status
updates reported by `ss a`, one for each, in order. -/
structure Reports {α : Type} (dom : α → Prop) (f : Delivery → α → Except Fault Delivery)
    (good : α → Prop) (ms ss : α → List Value) : Prop where
  ok_iff : ∀ d a, dom a → ((∃ d', f d a = .ok d') ↔ good a)
  appends : ∀ d a d', dom a → f d a = .ok d' → ∃ ims iss,
    d' = ⟨d.messages ++ ims, d.statuses ++ iss⟩ ∧ List.Forall₂ Received (ms a) ims ∧
      List.Forall₂ Reported (ss a) iss

/-- Walking a list with a step that reports each item reports the whole list. -/
theorem Reports.foldlM {α : Type} {dom : α → Prop}
    {f : Delivery → α → Except Fault Delivery} {good : α → Prop} {ms ss : α → List Value}
    (h : Reports dom f good ms ss) :
    Reports (fun xs : List α => ∀ a ∈ xs, dom a) (fun d xs => xs.foldlM f d)
      (fun xs => ∀ a ∈ xs, good a) (fun xs => xs.flatMap ms) (fun xs => xs.flatMap ss) := by
  -- induction on the list, from any delivery so far
  have key : ∀ (xs : List α) (d : Delivery), (∀ a ∈ xs, dom a) →
      ((∃ d', xs.foldlM f d = .ok d') ↔ ∀ a ∈ xs, good a) ∧
      ∀ d', xs.foldlM f d = .ok d' → ∃ ims iss,
        d' = ⟨d.messages ++ ims, d.statuses ++ iss⟩ ∧
          List.Forall₂ Received (xs.flatMap ms) ims ∧
          List.Forall₂ Reported (xs.flatMap ss) iss := by
    intro xs
    induction xs with
    | nil =>
      intro d _
      refine ⟨⟨fun _ => by simp, fun _ => ⟨d, rfl⟩⟩, fun d' hd' => ?_⟩
      cases hd'
      exact ⟨[], [], by simp, List.Forall₂.nil, List.Forall₂.nil⟩
    | cons a as ih =>
      intro d hdom
      have ha := hdom a List.mem_cons_self
      have has : ∀ b ∈ as, dom b := fun b hb => hdom b (List.mem_cons_of_mem a hb)
      rw [List.foldlM_cons]
      cases hstep : f d a with
      | error e =>
        refine ⟨⟨(by rintro ⟨d', hd'⟩; cases hd'), fun hall => ?_⟩,
          fun d' hd' => (by cases hd')⟩
        obtain ⟨d', hd'⟩ := (h.ok_iff d a ha).2 (hall a List.mem_cons_self)
        rw [hstep] at hd'
        cases hd'
      | ok d₁ =>
        have hga := (h.ok_iff d a ha).1 ⟨d₁, hstep⟩
        obtain ⟨ims₁, iss₁, rfl, hm₁, hs₁⟩ := h.appends d a d₁ ha hstep
        obtain ⟨ihok, ihrel⟩ := ih _ has
        refine ⟨?_, fun d' hd' => ?_⟩
        · simp only [List.mem_cons, forall_eq_or_imp, hga, true_and]
          exact ihok
        · obtain ⟨ims₂, iss₂, rfl, hm₂, hs₂⟩ := ihrel d' hd'
          exact ⟨ims₁ ++ ims₂, iss₁ ++ iss₂, by simp,
            by simpa using List.rel_append hm₁ hm₂, by simpa using List.rel_append hs₁ hs₂⟩
  exact ⟨fun d xs hxs => (key xs d hxs).1, fun d xs d' hxs hd' => (key xs d hxs).2 d' hd'⟩

/-- A laid-out change reads its messages and statuses with the profile names of its contacts,
which are texts. -/
theorem addChange_eq {c : Value} (ho : c.isObject = true) (hc : changeLaidOut c = true) :
    ∃ phoneNumberId names, TextNames names ∧
      (∀ m ∈ (c.objectAt "value").itemsAt "messages",
        m.isObject = true ∧ messageLaidOut m = true) ∧
      (∀ s ∈ (c.objectAt "value").itemsAt "statuses",
        s.isObject = true ∧ statusLaidOut s = true) ∧
      ∀ d : Delivery, d.addChange c = (do
        let received ← ((c.objectAt "value").itemsAt "messages").filterMapM
          fun m => readMessage m phoneNumberId names
        let updates ← ((c.objectAt "value").itemsAt "statuses").filterMapM readStatus
        return Delivery.mk (d.messages ++ received) (d.statuses ++ updates)) := by
  obtain ⟨v, hv, hvor, hvobj, hvlaid⟩ := Value.field_object ho hc rfl
  simp only [valueLaidOut, Bool.and_eq_true] at hvlaid
  obtain ⟨⟨⟨hmeta, hcontacts⟩, hmsgs⟩, hsts⟩ := hvlaid
  obtain ⟨md, hmd, hmdor, hmdobj, hpid⟩ := Value.field_object hvobj hmeta rfl
  obtain ⟨cv, hcv, hcitems, hcs⟩ := Value.field_items hvobj hcontacts
  obtain ⟨names, hnames, htexts⟩ := contactNames_texts hcitems hcs
  obtain ⟨mv, hmv, hmitems, hms⟩ := Value.field_items hvobj hmsgs
  obtain ⟨sv, hsv, hsitems, hss⟩ := Value.field_items hvobj hsts
  refine ⟨(Value.str (((c.objectAt "value").objectAt "metadata").textOr
    "phone_number_id" "")).display, names, htexts, hms, hss, fun d => ?_⟩
  unfold Delivery.addChange
  simp only [hv, hvor, hmd, hmdor, Value.field_text hmdobj hpid, hcv, hnames, hmv, hmitems, hsv,
    hsitems, bind, Except.bind]

/-- A laid-out change is read exactly when every message in it with a sender has a readable
timestamp; it adds one inbound message for each such message and one status update for each
status that names a message and a status. -/
theorem addChange_reports :
    Reports (fun c => c.isObject = true ∧ changeLaidOut c = true) Delivery.addChange
      (fun c => ∀ m ∈ changeMessages c, TimeReadable (m.textAt "timestamp"))
      changeMessages changeStatuses := by
  -- the two walks of a change, over its messages and over its statuses, sift their items
  have walks : ∀ c : Value, c.isObject = true ∧ changeLaidOut c = true →
      ∃ phoneNumberId names,
      (((∃ ys, ((c.objectAt "value").itemsAt "messages").filterMapM
          (readMessage · phoneNumberId names) = .ok ys) ↔
          ∀ m ∈ changeMessages c, TimeReadable (m.textAt "timestamp")) ∧
        ∀ ys, ((c.objectAt "value").itemsAt "messages").filterMapM
          (readMessage · phoneNumberId names) = .ok ys →
          List.Forall₂ Received (changeMessages c) ys) ∧
      (∃ zs, ((c.objectAt "value").itemsAt "statuses").filterMapM readStatus = .ok zs ∧
        List.Forall₂ Reported (changeStatuses c) zs) ∧
      ∀ d : Delivery, d.addChange c = (do
        let received ← ((c.objectAt "value").itemsAt "messages").filterMapM
          fun m => readMessage m phoneNumberId names
        let updates ← ((c.objectAt "value").itemsAt "statuses").filterMapM readStatus
        return Delivery.mk (d.messages ++ received) (d.statuses ++ updates)) := by
    rintro c ⟨ho, hc⟩
    obtain ⟨pid, names, hn, hms, hss, heq⟩ := addChange_eq ho hc
    have hmsifts := filterMapM_sifts fun m hm => readMessage_sifts (hms m hm).1 (hms m hm).2 hn pid
    have hssifts := filterMapM_sifts fun s hs => readStatus_sifts (hss s hs).1 (hss s hs).2
    obtain ⟨zs, hzs⟩ := hssifts.1.2 fun _ _ _ => trivial
    refine ⟨pid, names, ⟨hmsifts.1.trans ?_, hmsifts.2⟩, ⟨zs, hzs, hssifts.2 zs hzs⟩,
      heq⟩
    simp [changeMessages, List.mem_filter]
  constructor
  · intro d c hc
    obtain ⟨pid, names, ⟨hok, -⟩, ⟨zs, hzs, -⟩, heq⟩ := walks c hc
    rw [heq, ← hok]
    constructor
    · rintro ⟨d', hd'⟩
      cases hys : ((c.objectAt "value").itemsAt "messages").filterMapM
          (readMessage · pid names) with
      | ok ys => exact ⟨ys, rfl⟩
      | error e =>
        simp only [bind, Except.bind] at hd'
        rw [hys] at hd'
        cases hd'
    · rintro ⟨ys, hys⟩
      simp only [bind, Except.bind]
      rw [hys, hzs]
      exact ⟨_, rfl⟩
  · intro d c d' hc hd'
    obtain ⟨pid, names, ⟨-, hrel⟩, ⟨zs, hzs, hzrel⟩, heq⟩ := walks c hc
    rw [heq] at hd'
    simp only [bind, Except.bind] at hd'
    cases hys : ((c.objectAt "value").itemsAt "messages").filterMapM
        (readMessage · pid names) with
    | error e =>
      rw [hys] at hd'
      cases hd'
    | ok ys =>
      rw [hys, hzs] at hd'
      cases hd'
      exact ⟨ys, zs, rfl, hrel ys hys, hzrel⟩

/-- Reading a laid-out entry walks its changes. -/
theorem entry_reports :
    Reports (fun e => e.isObject = true ∧ entryLaidOut e = true)
      (fun d entry => do
        let changes ← (← entry.field "changes").itemsOf
        changes.foldlM Delivery.addChange d)
      (fun e => ∀ c ∈ e.itemsAt "changes", ∀ m ∈ changeMessages c,
        TimeReadable (m.textAt "timestamp"))
      (fun e => (e.itemsAt "changes").flatMap changeMessages)
      (fun e => (e.itemsAt "changes").flatMap changeStatuses) := by
  have hchanges := addChange_reports.foldlM
  have heq : ∀ e : Value, e.isObject = true ∧ entryLaidOut e = true →
      (∀ c ∈ e.itemsAt "changes", c.isObject = true ∧ changeLaidOut c = true) ∧
      ∀ d, (do
        let changes ← (← e.field "changes").itemsOf
        changes.foldlM Delivery.addChange d) =
        (e.itemsAt "changes").foldlM Delivery.addChange d := by
    rintro e ⟨ho, he⟩
    obtain ⟨v, hv, hitems, hcs⟩ := Value.field_items ho he
    exact ⟨hcs, fun d => by simp only [hv, hitems, bind, Except.bind]⟩
  constructor
  · intro d e he
    obtain ⟨hcs, hfold⟩ := heq e he
    rw [hfold d]
    exact hchanges.ok_iff d _ hcs
  · intro d e d' he hd'
    obtain ⟨hcs, hfold⟩ := heq e he
    rw [hfold d] at hd'
    exact hchanges.appends d _ d' hcs hd'

/-- A laid-out delivery is read as its entries are, one after another. -/
theorem read_eq {p : Value} (hp : deliveryLaidOut p = true) :
    (∀ e ∈ p.itemsAt "entry", e.isObject = true ∧ entryLaidOut e = true) ∧
      Delivery.read p = (p.itemsAt "entry").foldlM (fun d entry => do
        let changes ← (← entry.field "changes").itemsOf
        changes.foldlM Delivery.addChange d) {} := by
  simp only [deliveryLaidOut, Bool.and_eq_true] at hp
  obtain ⟨v, hv, hitems, hes⟩ := Value.field_items hp.1 hp.2
  refine ⟨hes, ?_⟩
  unfold Delivery.read
  simp only [hv, hitems, bind, Except.bind]

/-- A laid-out delivery is read exactly when every message in it with a sender has a readable
timestamp. -/
theorem read_ok_iff {p : Value} (hp : deliveryLaidOut p = true) :
    (∃ d, Delivery.read p = .ok d) ↔
      ∀ m ∈ sentMessages p, TimeReadable (m.textAt "timestamp") := by
  obtain ⟨hes, hread⟩ := read_eq hp
  rw [hread]
  refine (entry_reports.foldlM.ok_iff {} _ hes).trans ?_
  simp only [sentMessages, List.mem_flatMap, forall_exists_index, and_imp]
  exact ⟨fun h m e he c hc hm => h e he c hc m hm, fun h e he c hc m hm => h m e he c hc hm⟩

/-- A laid-out delivery that is read gives one inbound message for each message with a sender
and one status update for each status that names a message and a status, in delivery order. -/
theorem read_forall₂ {p : Value} (hp : deliveryLaidOut p = true) {d : Delivery}
    (hd : Delivery.read p = .ok d) :
    List.Forall₂ Received (sentMessages p) d.messages ∧
      List.Forall₂ Reported (reportedStatuses p) d.statuses := by
  obtain ⟨hes, hread⟩ := read_eq hp
  rw [hread] at hd
  obtain ⟨ims, iss, rfl, hms, hss⟩ := entry_reports.foldlM.appends {} _ d hes hd
  exact ⟨by simpa [sentMessages] using hms, by simpa [reportedStatuses] using hss⟩

/-- What reading a delivery laid out as the Cloud API lays it out does: it succeeds exactly when
every message with a sender has a timestamp that is either not all digits or a decimal numeral
of at most 4300 digits whose seconds lie within the calendar; it then gives, in delivery order,
one inbound message for each message with a sender, with the sender's number behind one plus
sign as its phone and the instant its timestamp denotes, if any, as its send time, and one
status update for each status that names a message and a status. -/
theorem webhook_reading (p : Value) (hp : deliveryLaidOut p = true) :
    ((∃ d, Delivery.read p = .ok d) ↔
      ∀ m ∈ sentMessages p, allDigitLike (m.textAt "timestamp") = true →
        ∃ st, Denotes (m.textAt "timestamp") st) ∧
    ∀ d, Delivery.read p = .ok d →
      List.Forall₂ Received (sentMessages p) d.messages ∧
        List.Forall₂ Reported (reportedStatuses p) d.statuses :=
  ⟨read_ok_iff hp, fun _ hd => read_forall₂ hp hd⟩

/-- A text message with a timestamp in digits, the status of a message sent, and a contact. -/
def menuDelivery : Value :=
  .dict [("entry", .list [.dict [("changes", .list [.dict [("value", .dict [
    ("metadata", .dict [("phone_number_id", .str "1001")]),
    ("contacts", .list [.dict [("wa_id", .str "2348012345678"),
      ("profile", .dict [("name", .str "Chidi")])]]),
    ("messages", .list [.dict [("from", .str "2348012345678"), ("id", .str "wamid.1"),
      ("timestamp", .str "1760000000"), ("type", .str "text"),
      ("text", .dict [("body", .str "menu")])]]),
    ("statuses", .list [.dict [("id", .str "wamid.out"), ("status", .str "delivered"),
      ("recipient_id", .str "2348012345678")]])])]])]])]

theorem menuDelivery_reading :
    deliveryLaidOut menuDelivery = true ∧
      ((∃ d, Delivery.read menuDelivery = .ok d) ↔
        ∀ m ∈ sentMessages menuDelivery, allDigitLike (m.textAt "timestamp") = true →
          ∃ st, Denotes (m.textAt "timestamp") st) ∧
      ∀ d, Delivery.read menuDelivery = .ok d →
        List.Forall₂ Received (sentMessages menuDelivery) d.messages ∧
          List.Forall₂ Reported (reportedStatuses menuDelivery) d.statuses :=
  ⟨by decide +kernel, webhook_reading menuDelivery (by decide +kernel)⟩

/-- A text message whose timestamp is a superscript two. -/
def superscriptMessage : Value :=
  .dict [("from", .str "234"), ("id", .str "m1"), ("timestamp", .str "²"), ("type", .str "text"),
    ("text", .dict [("body", .str "hi")])]

/-- A delivery of that message alone. -/
def superscriptDelivery : Value :=
  .dict [("entry", .list [.dict [("changes", .list [.dict [("value", .dict [("messages",
    .list [superscriptMessage])])]])]])]

/-- A superscript two passes the reader's digit guard but is no decimal digit, so a delivery
laid out as the Cloud API lays it out is refused for it. -/
theorem superscriptStamp_refused :
    deliveryLaidOut superscriptDelivery = true ∧ allDigitLike "²" = true ∧
      ¬ ∃ d, Delivery.read superscriptDelivery = .ok d := by
  refine ⟨by decide +kernel, by decide +kernel, fun hread => ?_⟩
  have hsent : sentMessages superscriptDelivery = [superscriptMessage] := rfl
  have hstamp : superscriptMessage.textAt "timestamp" = "²" := rfl
  have hreadable := (read_ok_iff (by decide +kernel)).1 hread superscriptMessage (by simp [hsent])
  rw [hstamp] at hreadable
  obtain ⟨st, hdecimal, -⟩ := hreadable (by decide +kernel)
  exact absurd hdecimal (by decide +kernel)

end Channel

end Autoresponder
