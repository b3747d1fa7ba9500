import Autoresponder.Proofs.MenuRoundTrip
import Autoresponder.Proofs.Effects

/-!
# Settings documents

A workspace's settings are stored as a document and read back through the checks that
admitted them. Reading normalises: a clock time is padded to two-digit runs, an older rule
record is brought to the current shape, and empty prompts, template names and thresholds count
as absent. The stored document leaves out each tag that the rule's id implies.

Main statement: `settings_document_round_trip`. Settings that some document checks to are
stored as a document that checks back to the same settings, field by field, and saving a
document then loading the workspace's settings gives those settings on either store.

The proof follows the data. A time that `padTime` gives is a fixed point of it
(`padTime_idem`); normalising a record of the current shape changes each entry on its own
(`lookup_normalize`), so a rule's stored record checks back to the rule (`check_members`);
and a checked list of written items is the list itself (`items_map_eq_ok`).
-/

namespace Autoresponder

open Autoresponder.Text Autoresponder.Number

/-! ## Splitting at a separator -/

namespace Text

theorem piecesBetween_of_not_mem {sep : Char} {cs : List Char} (h : sep ∉ cs) :
    piecesBetween sep cs = [cs] := by
  induction cs with
  | nil => rfl
  | cons c cs ih =>
    have hc : (c == sep) = false := beq_false_of_ne fun hcs => h (hcs ▸ List.mem_cons_self)
    simp [piecesBetween, hc, ih (fun hs => h (List.mem_cons_of_mem c hs))]

theorem piecesBetween_append_sep {sep : Char} {a : List Char} (h : sep ∉ a) (b : List Char) :
    piecesBetween sep (a ++ sep :: b) = a :: piecesBetween sep b := by
  induction a with
  | nil => simp [piecesBetween]
  | cons c a ih =>
    have hc : (c == sep) = false := beq_false_of_ne fun hcs => h (hcs ▸ List.mem_cons_self)
    simp [piecesBetween, hc, ih (fun hs => h (List.mem_cons_of_mem c hs))]

/-- An ASCII digit is the character `'0'` moved on by less than ten. -/
theorem ofNat_asciiDigit {c : Char} (h : c.isDigit = true) :
    Char.ofNat (48 + (c.toNat - 48)) = c ∧ c.toNat - 48 < 10 := by
  have hrange := Char.isDigit_iff_toNat.mp h
  simp only [Char.reduceToNat] at hrange
  exact ⟨by rw [Nat.add_sub_cancel' hrange.1, Char.ofNat_toNat], by omega⟩

end Text

/-! ## Checking records -/

namespace Checked

variable {α : Type}

@[simp] theorem under_ok (a : α) (k : String) : under k (Except.ok a : Checked α) = .ok a := rfl

@[simp] theorem issues_ok (a : α) : issues (Except.ok a : Checked α) = [] := rfl

@[simp] theorem issues_error (es : List Issue) : issues (Except.error es : Checked α) = es := rfl

@[simp] theorem getD_ok (a d : α) : getD (Except.ok a : Checked α) d = a := rfl

end Checked

namespace Check

@[simp] theorem text_str (s : String) : text (.str s) = .ok s := rfl

@[simp] theorem flag_bool (b : Bool) : flag (.bool b) = .ok b := rfl

@[simp] theorem optional_text_ofOption (o : Option String) :
    optional text (Value.ofOption o) = .ok o := by
  cases o <;> rfl

theorem choice_of_mem {options : List String} {s : String} (h : s ∈ options) :
    choice options (.str s) = .ok s := by
  simp [choice, h]

section Items

variable {α : Type} {f : Value → Checked α}

theorem items_go_eq_ok_of_forall₂ {vs : List Value} {xs : List α}
    (h : List.Forall₂ (fun v x => f v = .ok x) vs xs) (i : Nat) (acc : List α) :
    items.go f i vs acc [] = .ok (acc.reverse ++ xs) := by
  induction h generalizing i acc with
  | nil => simp [items.go]
  | @cons v x vs xs hx _ ih =>
    have hv : (f v).atIndex i = .ok x := by
      rw [hx]
      rfl
    rw [items.go, hv]
    simp only
    rw [ih]
    simp

/-- Checking the items of a list gives the list of what each item checks to. -/
theorem items_eq_ok_of_forall₂ {vs : List Value} {xs : List α}
    (h : List.Forall₂ (fun v x => f v = .ok x) vs xs) : items f vs = .ok xs := by
  cases h with
  | nil => rfl
  | cons hx hrest =>
    rw [items, items_go_eq_ok_of_forall₂ (.cons hx hrest)]
    rfl

/-- Checking the items of a list of written values gives the values' list back when each
written value checks back to its own. -/
theorem items_map_eq_ok {enc : α → Value} {xs : List α} (hf : ∀ x ∈ xs, f (enc x) = .ok x) :
    items f (xs.map enc) = .ok xs := by
  apply items_eq_ok_of_forall₂
  induction xs with
  | nil => exact .nil
  | cons x xs ih => exact .cons (hf x List.mem_cons_self) (ih fun y hy => hf y (List.mem_cons_of_mem x hy))

theorem mem_of_items_go_eq_ok {i : Nat} {xs : List Value} {acc : List α} {es : List Issue}
    {ys : List α} (h : items.go f i xs acc es = .ok ys) :
    ∀ y ∈ ys, y ∈ acc ∨ ∃ x ∈ xs, f x = .ok y := by
  induction xs generalizing i acc es with
  | nil =>
    cases es with
    | nil =>
      simp only [items.go, Except.ok.injEq] at h
      subst h
      simp
    | cons e es => simp [items.go] at h
  | cons x xs ih =>
    intro y hy
    rw [items.go] at h
    cases hfx : f x with
    | error e =>
      rw [hfx] at h
      rcases ih h y hy with hacc | ⟨x', hx', hfx'⟩
      · exact .inl hacc
      · exact .inr ⟨x', List.mem_cons_of_mem x hx', hfx'⟩
    | ok a =>
      rw [hfx] at h
      rcases ih h y hy with hacc | ⟨x', hx', hfx'⟩
      · rcases List.mem_cons.mp hacc with rfl | hacc
        · exact .inr ⟨x, List.mem_cons_self, hfx⟩
        · exact .inl hacc
      · exact .inr ⟨x', List.mem_cons_of_mem x hx', hfx'⟩

/-- Every item of a checked list is what some item of the input checked to. -/
theorem mem_of_items_eq_ok {xs : List Value} {ys : List α} (h : items f xs = .ok ys) :
    ∀ y ∈ ys, ∃ x ∈ xs, f x = .ok y := by
  intro y hy
  cases xs with
  | nil =>
    simp only [items, Except.ok.injEq] at h
    subst h
    cases hy
  | cons x xs =>
    rcases mem_of_items_go_eq_ok h y hy with hacc | hx
    · cases hacc
    · exact hx

end Items

end Check

namespace Fields

variable {α : Type} {fs : Fields} {camel snake : String} {f : Value → Checked α} {d : α}

theorem pick_of_lookup {v : Value} (h : fs.lookup camel = some v) :
    fs.pick camel snake = some (camel, v) := by
  simp [pick, h]

theorem need_of_lookup {v : Value} (h : fs.lookup camel = some v) :
    fs.need camel snake f = (f v).under camel := by
  simp [need, pick_of_lookup h]

theorem withDefault_of_lookup {v : Value} (h : fs.lookup camel = some v) :
    fs.withDefault camel snake d f = (f v).under camel := by
  simp [withDefault, pick_of_lookup h]

theorem withDefault_of_absent (hc : fs.lookup camel = none) (hs : fs.lookup snake = none) :
    fs.withDefault camel snake d f = .ok d := by
  simp [withDefault, pick, hc, hs]

end Fields

/-! ## Clock times -/

namespace DayHours

/-- What the character tables say of the ten ASCII digits. -/
theorem asciiDigit_classes : ∀ k < 10, isBlank (Char.ofNat (48 + k)) = false ∧
    isDigitLike (Char.ofNat (48 + k)) = true ∧ decimalValue? (Char.ofNat (48 + k)) = some k := by
  decide +kernel

theorem digit_classes {c : Char} (h : c.isDigit = true) :
    isBlank c = false ∧ isDigitLike c = true ∧ decimalValue? c = some (c.toNat - 48) := by
  obtain ⟨hc, hk⟩ := ofNat_asciiDigit h
  have hclasses := asciiDigit_classes (c.toNat - 48) hk
  rwa [hc] at hclasses

theorem isDigit_of_mem_twoDigits {n : Nat} {c : Char} (h : c ∈ (twoDigits n).toList) :
    c.isDigit = true := by
  have hdigits : ∀ c ∈ Nat.toDigits 10 n, c.isDigit = true :=
    fun c hc => Nat.isDigit_of_mem_toDigits (by decide) (by decide) hc
  unfold twoDigits natText at h
  split at h
  · simp only [String.toList_append, String.toList_ofList, List.mem_append] at h
    rcases h with h | h
    · simp at h
      subst h
      decide
    · exact hdigits c h
  · simp only [String.toList_ofList] at h
    exact hdigits c h

/-- On ASCII digits, reading a decimal number is reading the digits' values. -/
theorem foldlM_decimal_of_isDigit {cs : List Char} (h : ∀ c ∈ cs, c.isDigit = true)
    (init : Nat) :
    cs.foldlM (fun acc c => (decimalValue? c).map (acc * 10 + ·)) init =
      some (Nat.ofDigitChars 10 cs init) := by
  induction cs generalizing init with
  | nil => rfl
  | cons c cs ih =>
    have hc := (digit_classes (h c List.mem_cons_self)).2.2
    rw [List.foldlM_cons, hc, Nat.ofDigitChars_cons]
    simp only [Option.map_some, Option.bind_eq_bind, Option.bind_some, Char.reduceToNat]
    rw [ih (fun d hd => h d (List.mem_cons_of_mem c hd))]
    congr 2
    omega

theorem decimalNumber?_twoDigits (n : Nat) : decimalNumber? (twoDigits n).toList = some n := by
  rw [decimalNumber?, foldlM_decimal_of_isDigit (fun c hc => isDigit_of_mem_twoDigits hc)]
  unfold twoDigits natText
  split
  · simp [Nat.ofDigitChars_cons]
  · simp

theorem allDigitLike_twoDigits (n : Nat) : allDigitLike (twoDigits n) = true := by
  have hne : twoDigits n ≠ "" := by
    unfold twoDigits natText
    split <;> simp [Nat.toDigits_ne_nil]
  have hall : ∀ c ∈ (twoDigits n).toList, isDigitLike c = true :=
    fun c hc => (digit_classes (isDigit_of_mem_twoDigits hc)).2.1
  simpa [allDigitLike, hne] using hall

theorem colon_not_mem_twoDigits (n : Nat) : ':' ∉ (twoDigits n).toList := fun h => by
  have hdigit := isDigit_of_mem_twoDigits h
  revert hdigit
  decide

theorem toList_clock (h m : Nat) :
    (clock h m).toList = (twoDigits h).toList ++ ':' :: (twoDigits m).toList := by
  simp [clock]

theorem pieces_clock (h m : Nat) : pieces ':' (clock h m) = [twoDigits h, twoDigits m] := by
  rw [pieces, toList_clock, piecesBetween_append_sep (colon_not_mem_twoDigits h),
    piecesBetween_of_not_mem (colon_not_mem_twoDigits m)]
  simp

theorem trim_clock (h m : Nat) : trim (clock h m) = clock h m := by
  apply trim_of_not_blank
  intro c hc
  rw [toList_clock, List.mem_append, List.mem_cons] at hc
  rcases hc with hc | rfl | hc
  · exact (digit_classes (isDigit_of_mem_twoDigits hc)).1
  · decide +kernel
  · exact (digit_classes (isDigit_of_mem_twoDigits hc)).1

/-- A clock time is already normal. -/
theorem padTime_clock (h m : Nat) : padTime (clock h m) = .ok (clock h m) := by
  unfold padTime
  rw [trim_clock, pieces_clock]
  simp [allDigitLike_twoDigits, decimalNumber?_twoDigits]

/-- Normalising a time gives a clock time or one issue. -/
theorem padTime_cases (s : String) :
    (∃ h m, padTime s = .ok (clock h m)) ∨ ∃ e, padTime s = .error [e] := by
  unfold padTime
  generalize pieces ':' (trim s) = ps
  split
  · split
    · exact .inr ⟨_, rfl⟩
    · split
      · exact .inl ⟨_, _, rfl⟩
      · exact .inr ⟨_, rfl⟩
      · exact .inr ⟨_, rfl⟩
  · exact .inr ⟨_, rfl⟩

/-- Normalising a normal time changes nothing. -/
theorem padTime_idem {s t : String} (h : padTime s = .ok t) : padTime t = .ok t := by
  rcases padTime_cases s with ⟨hv, mv, hs⟩ | ⟨e, hs⟩
  · rw [hs] at h
    cases h
    exact padTime_clock hv mv
  · rw [hs] at h
    cases h

theorem padTime_opening : padTime "09:00" = .ok "09:00" := by
  have h : "09:00" = clock 9 0 := by decide
  rw [h]
  exact padTime_clock 9 0

theorem padTime_closing : padTime "17:00" = .ok "17:00" := by
  have h : "17:00" = clock 17 0 := by decide
  rw [h]
  exact padTime_clock 17 0

/-- A day whose times are written the way normalising writes them. -/
def Padded (d : DayHours) : Prop :=
  padTime d.startTime = .ok d.startTime ∧ padTime d.endTime = .ok d.endTime

/-- A time field checks to a normal time, or fails with an issue. -/
theorem clockField_cases (fs : Fields) (camel snake : String) {dflt : String}
    (hd : padTime dflt = .ok dflt) :
    (∃ t, fs.withDefault camel snake dflt (fun v => (Check.text v).bind padTime) = .ok t ∧
      padTime t = .ok t) ∨
    ∃ e es, fs.withDefault camel snake dflt (fun v => (Check.text v).bind padTime) =
      .error (e :: es) := by
  unfold Fields.withDefault
  split
  · next k v _ =>
    cases v with
    | str s =>
      rcases padTime_cases s with ⟨hv, mv, hp⟩ | ⟨e, hp⟩
      · refine .inl ⟨clock hv mv, ?_, padTime_clock hv mv⟩
        simp only [Check.text_str]
        rw [Except.bind, hp]
        rfl
      · refine .inr ⟨{ e with loc := .key k :: e.loc }, [], ?_⟩
        simp only [Check.text_str]
        rw [Except.bind, hp]
        rfl
    | _ => exact .inr ⟨_, [], rfl⟩
  · exact .inl ⟨dflt, rfl, hd⟩

/-- A day that checks has normal times. -/
theorem check_padded {fs : Fields} {d : DayHours} (h : check fs = .ok d) : d.Padded := by
  rcases clockField_cases fs "startTime" "start_time" padTime_opening with
    ⟨t, ht, hpt⟩ | ⟨e, es, he⟩
  · rcases clockField_cases fs "endTime" "end_time" padTime_closing with
      ⟨u, hu, hpu⟩ | ⟨e, es, he⟩
    · simp only [check, ht, hu] at h
      split at h
      · cases h
        exact ⟨hpt, hpu⟩
      · cases h
    · simp [check, he] at h
  · simp [check, he] at h

/-- A day with normal times checks back from its record. -/
theorem check_toValue {d : DayHours} (hd : d.Padded) :
    Check.record "DaySchedule" check d.toValue = .ok d := by
  simp [toValue, Check.record, check, Fields.need, Fields.withDefault, Fields.pick,
    List.lookup_cons, Except.bind, hd.1, hd.2]

end DayHours

/-! ## Records as lists of entries -/

namespace Value

theorem lookup_eraseIn (kvs : List (String × Value)) (key k : String) :
    (eraseIn kvs key).lookup k = if k = key then none else kvs.lookup k := by
  induction kvs with
  | nil => simp [eraseIn]
  | cons p kvs ih =>
    obtain ⟨k', v⟩ := p
    simp only [eraseIn] at ih ⊢
    grind

theorem lookup_map_put (kvs : List (String × Value)) (key k : String) (x : Value) :
    (kvs.map fun (k', y) => if k' == key then (k', x) else (k', y)).lookup k =
      if k = key then (if kvs.any (·.1 == key) then some x else none) else kvs.lookup k := by
  induction kvs with
  | nil => simp
  | cons p kvs ih =>
    obtain ⟨k', v⟩ := p
    grind

theorem lookup_setIn (kvs : List (String × Value)) (key k : String) (x : Value) :
    (setIn kvs key x).lookup k = if k = key then some x else kvs.lookup k := by
  unfold setIn
  split
  · next hany => rw [lookup_map_put]; simp [hany]
  · next hnone =>
    have hfresh : kvs.lookup key = none := by
      rw [List.lookup_eq_none_iff]
      grind
    rw [List.lookup_append]
    grind

end Value

/-! ## Normalising rule records -/

@[simp] theorem Tag.ofCode?_code (t : Tag) : Tag.ofCode? t.code = some t := by
  cases t <;> decide

@[simp] theorem Reply.ofCode?_code (k : Reply) : Reply.ofCode? k.code = some k := by
  cases k <;> decide

namespace Rule

theorem code_mem_tagCodes (t : Tag) : t.code ∈ tagCodes := by
  cases t <;> decide

theorem code_mem_replyCodes (k : Reply) : k.code ∈ Reply.all.map Reply.code := by
  cases k <;> decide

/-- What normalising does to the entry of an id or a reference: a value other than null
becomes its text. -/
def asText : Option Value → Option Value
  | some .null => some .null
  | some v => some (.str v.display)
  | none => none

/-- What normalising does to the entry of a prompt, a template name or a threshold: null and
the empty text count as absent. -/
def dropBlank : Option Value → Option Value
  | some .null => none
  | some (.str "") => none
  | v => v

@[simp] theorem asText_str (s : String) : asText (some (.str s)) = some (.str s) := rfl

@[simp] theorem asText_ofOption (o : Option String) :
    asText (some (Value.ofOption o)) = some (Value.ofOption o) := by
  cases o <;> rfl

@[simp] theorem dropBlank_none : dropBlank none = none := rfl

/-- The entry under a key once a record of the current shape is normalised. -/
def normalEntry (k : String) (v : Option Value) : Option Value :=
  let v := if k ∈ textKeys then asText v else v
  if k ∈ blankKeys then dropBlank v else v

theorem lookup_textAt (fs : Fields) (k k' : String) :
    (textAt fs k).lookup k' = if k' = k then asText (fs.lookup k) else fs.lookup k' := by
  unfold textAt
  split
  · next h => by_cases hk : k' = k <;> simp [hk, h, asText]
  · next h => by_cases hk : k' = k <;> simp [hk, h, asText]
  · next v h1 h2 =>
    rw [Value.lookup_setIn]
    by_cases hk : k' = k
    · subst hk
      simp only [if_true, h2]
      cases v <;> simp_all [asText]
    · simp [hk]

theorem lookup_dropBlankAt (fs : Fields) (k k' : String) :
    (dropBlankAt fs k).lookup k' = if k' = k then dropBlank (fs.lookup k) else fs.lookup k' := by
  unfold dropBlankAt
  split
  · next h => rw [Value.lookup_eraseIn]; by_cases hk : k' = k <;> simp [hk, h, dropBlank]
  · next h => rw [Value.lookup_eraseIn]; by_cases hk : k' = k <;> simp [hk, h, dropBlank]
  · next hnull hempty =>
    by_cases hk : k' = k
    · subst hk
      rw [if_pos rfl]
      generalize fs.lookup k' = e at hnull hempty ⊢
      unfold dropBlank
      split <;> simp_all
    · simp [hk]

/-- A fold over distinct keys whose step rewrites the entry of its own key, the same way for
every key, rewrites each listed entry once and leaves the others. -/
theorem lookup_foldl_keys {step : Fields → String → Fields} {g : Option Value → Option Value}
    (hstep : ∀ fs k k', (step fs k).lookup k' = if k' = k then g (fs.lookup k) else fs.lookup k')
    {keys : List String} (hkeys : keys.Nodup) (fs : Fields) (k : String) :
    (keys.foldl step fs).lookup k = if k ∈ keys then g (fs.lookup k) else fs.lookup k := by
  induction keys generalizing fs with
  | nil => simp
  | cons k₀ ks ih =>
    obtain ⟨hk₀, hks⟩ := List.nodup_cons.mp hkeys
    rw [List.foldl_cons, ih hks, hstep]
    by_cases hk : k = k₀
    · subst hk
      simp [hk₀]
    · simp [hk]

theorem lookup_fromLegacy {fs : Fields} (hcur : fs.lookup "type" = none) {k : String}
    (hk : k ≠ "type") : (fromLegacy fs).lookup k = fs.lookup k := by
  simp [fromLegacy, hcur, Value.truthy, Value.lookup_eraseIn, hk]

/-- Normalising a record without a legacy `type` key changes each entry on its own. -/
theorem lookup_normalize {fs : Fields} (hcur : fs.lookup "type" = none) {k : String}
    (hk : k ≠ "type") : (normalize fs).lookup k = normalEntry k (fs.lookup k) := by
  rw [normalize, lookup_foldl_keys lookup_dropBlankAt (by decide),
    lookup_foldl_keys lookup_textAt (by decide), lookup_fromLegacy hcur hk]
  rfl

/-! ## A rule's stored record checks back to the rule -/

/-- A text that normalising drops when empty reads back as itself. -/
theorem withDefault_dropBlank {fs : Fields} {camel snake s : String}
    (hc : fs.lookup camel = dropBlank (some (.str s))) (hs : fs.lookup snake = none) :
    fs.withDefault camel snake "" Check.text = .ok s := by
  by_cases he : s = ""
  · subst he
    exact Fields.withDefault_of_absent hc hs
  · rw [Fields.withDefault_of_lookup (v := .str s) (by rw [hc]; simp [dropBlank, he])]
    rfl

/-- A threshold reads back as itself; normalising drops an absent one. -/
theorem withDefault_threshold {fs : Fields} {t : Option Int}
    (h : fs.lookup "threshold" = t.map .int) :
    fs.withDefault "threshold" "threshold" none (Check.optional Check.whole) = .ok t := by
  cases t with
  | none => exact Fields.withDefault_of_absent h h
  | some n =>
    rw [Fields.withDefault_of_lookup h]
    rfl

/-- A written tag reads back as itself, and an absent one as none. -/
theorem withDefault_tag {fs : Fields} {b : Bool} {t : Tag}
    (h : fs.lookup "tag" = if b then some (.str t.code) else none) :
    fs.withDefault "tag" "tag" none (Check.optional (Check.choice tagCodes)) =
      .ok (if b then some t.code else none) := by
  cases b with
  | false => exact Fields.withDefault_of_absent h h
  | true =>
    rw [Fields.withDefault_of_lookup (v := .str t.code) (by simpa using h)]
    simp [Check.optional, Check.choice, code_mem_tagCodes, Except.map]

/-- The entries of a rule's record, the tag written when `withTag`. -/
def members (withTag : Bool) (r : Rule) : Fields :=
  match r.toValueWith withTag with
  | .dict kvs => kvs
  | _ => []

theorem toValueWith_eq (withTag : Bool) (r : Rule) :
    r.toValueWith withTag = .dict (r.members withTag) := rfl

section Members

variable (r : Rule) (b : Bool)

theorem lookup_members_type : (r.members b).lookup "type" = none := by
  cases b <;> simp [members, toValueWith, List.lookup_cons]

theorem lookup_normalize_members {k : String} (hk : k ≠ "type") :
    (normalize (r.members b)).lookup k = normalEntry k ((r.members b).lookup k) :=
  lookup_normalize (lookup_members_type r b) hk

/-- The entries of a rule's normalised record that its check reads. -/
theorem lookups_normalize_members :
    let fs := normalize (r.members b)
    fs.lookup "id" = some (.str r.id) ∧ fs.lookup "enabled" = some (.bool r.enabled) ∧
    fs.lookup "description" = some (.str r.description) ∧
    fs.lookup "responseType" = some (.str r.reply.code) ∧
    fs.lookup "aiPrompt" = dropBlank (some (.str r.aiPrompt)) ∧ fs.lookup "ai_prompt" = none ∧
    fs.lookup "materialId" = some (Value.ofOption r.materialId) ∧
    fs.lookup "materialName" = some (.str r.materialName) ∧
    fs.lookup "threshold" = r.threshold.map .int ∧
    fs.lookup "chatbotFlow" = some (Value.ofOption r.chatbotFlow) ∧
    fs.lookup "chatbotFlowName" = some (.str r.chatbotFlowName) ∧
    fs.lookup "templateName" = dropBlank (some (.str r.templateName)) ∧
    fs.lookup "template_name" = none ∧
    fs.lookup "tag" = if b then some (.str r.tag.code) else none := by
  refine ⟨?_, ?_, ?_, ?_, ?_, ?_, ?_, ?_, ?threshold, ?_, ?_, ?_, ?_, ?_⟩
  -- the threshold is the one entry written through a match on the rule
  case threshold =>
    rw [lookup_normalize_members r b (by decide)]
    cases h : r.threshold <;>
      simp [members, toValueWith, List.lookup_cons, normalEntry, textKeys, blankKeys, h,
        dropBlank]
  all_goals
    rw [lookup_normalize_members r b (by decide)]
    cases b <;> simp [members, toValueWith, List.lookup_cons, normalEntry, textKeys, blankKeys]

/-- A rule's record, with or without its tag, checks back to the rule, provided the tag it
leaves out is the one the id implies. -/
theorem check_members (hb : b = false → r.tag = Tag.ofRuleId r.id) :
    check (r.members b) = .ok r := by
  obtain ⟨hid, hen, hdesc, hreply, hprompt, hprompt', hmat, hmatName, hthr, hflow, hflowName,
    htpl, htpl', htag⟩ := lookups_normalize_members r b
  simp only [check, Fields.need_of_lookup hid, Fields.withDefault_of_lookup hen,
    Fields.withDefault_of_lookup hdesc, Fields.withDefault_of_lookup hreply,
    withDefault_dropBlank hprompt hprompt', Fields.withDefault_of_lookup hmat,
    Fields.withDefault_of_lookup hmatName, withDefault_threshold hthr,
    Fields.withDefault_of_lookup hflow, Fields.withDefault_of_lookup hflowName,
    withDefault_dropBlank htpl htpl', withDefault_tag htag]
  simp only [Check.text_str, Check.flag_bool, Check.optional_text_ofOption,
    Check.choice_of_mem (code_mem_replyCodes r.reply), Checked.under_ok, Checked.issues_ok,
    Checked.getD_ok, List.append_nil, List.isEmpty_nil, Bool.not_true, Reply.ofCode?_code,
    Option.getD_some]
  cases b with
  | true => simp
  | false =>
    simp only [Bool.false_eq_true, if_false, Option.bind_none, Option.getD_none]
    rw [← hb rfl]

end Members

/-- A rule's stored record checks back to the rule. -/
theorem check_toDocument (r : Rule) :
    Check.record "AutomationRule" check r.toDocument = .ok r := by
  rw [toDocument, toValueWith_eq, Check.record]
  exact check_members r _ fun h => bne_eq_false_iff_eq.mp h

end Rule

/-! ## Settings documents -/

namespace Settings

/-- A document of a holiday switch, days and rules checks to settings when each day and each
rule checks. -/
theorem read_of_items {b : Bool} {hs rules : List Value} {days : List DayHours} {rs : List Rule}
    (hdays : Check.items (Check.record "DaySchedule" DayHours.check) hs = .ok days)
    (hrules : Check.items (Check.record "AutomationRule" Rule.check) rules = .ok rs) :
    read (.dict [("holidayMode", .bool b), ("workingHours", .list hs),
      ("automationRules", .list rules)]) = .ok ⟨b, days, rs⟩ := by
  let fs : Fields := [("holidayMode", .bool b), ("workingHours", .list hs),
    ("automationRules", .list rules)]
  have hpick : fs.pick "automationRules" "automation_rules" =
      some ("automationRules", .list rules) :=
    Fields.pick_of_lookup (by simp [fs, List.lookup_cons])
  have hhours : fs.withDefault "workingHours" "working_hours" []
      (Check.list (Check.record "DaySchedule" DayHours.check)) = .ok days := by
    rw [Fields.withDefault_of_lookup (v := .list hs) (by simp [fs, List.lookup_cons]), Check.list,
      hdays]
    rfl
  have hholiday : fs.withDefault "holidayMode" "holiday_mode" false Check.flag = .ok b := by
    rw [Fields.withDefault_of_lookup (v := .bool b) (by simp [fs])]
    rfl
  have hcheck : check fs = .ok (.ok ⟨b, days, rs⟩) := by
    unfold check
    rw [hpick]
    simp only [Check.list, hrules, Checked.under_ok, hhours, hholiday]
    rfl
  show read (.dict fs) = _
  simp only [read, hcheck]

/-- Settings whose days have normal times check back from their stored document. -/
theorem read_toDocument {s : Settings} (h : ∀ d ∈ s.workingHours, d.Padded) :
    read s.toDocument = .ok s :=
  read_of_items (Check.items_map_eq_ok fun d hd => DayHours.check_toValue (h d hd))
    (Check.items_map_eq_ok fun r _ => Rule.check_toDocument r)

/-- A computation that passes had each of its steps pass. -/
theorem exists_of_bind_eq_ok {ε α β : Type} {x : Except ε α} {f : α → Except ε β} {b : β}
    (h : x >>= f = .ok b) : ∃ a, x = .ok a ∧ f a = .ok b := by
  cases x with
  | error e => cases h
  | ok a => exact ⟨a, rfl, h⟩

/-- The working hours of a check that passed are what their field checked to. -/
theorem workingHours_of_check {fs : Fields} {s : Settings} (h : check fs = .ok (.ok s)) :
    s.workingHours = (fs.withDefault "workingHours" "working_hours" []
      (Check.list (Check.record "DaySchedule" DayHours.check))).getD [] := by
  unfold check at h
  simp only at h
  -- each way of reading the rules goes on to the same rest of the check
  split at h
  on_goal 1 => split at h
  all_goals
    obtain ⟨rules, -, hrest⟩ := exists_of_bind_eq_ok h
    split at hrest
    · simp only [pure, Except.pure, Except.ok.injEq] at hrest
      rw [← hrest]
    · cases hrest

/-- Every day the working-hours field checks to has normal times. -/
theorem hoursField_padded (fs : Fields) :
    ∀ d ∈ (fs.withDefault "workingHours" "working_hours" []
      (Check.list (Check.record "DaySchedule" DayHours.check))).getD [], d.Padded := by
  intro d hd
  unfold Fields.withDefault at hd
  split at hd
  · next k v _ =>
    cases hc : Check.list (Check.record "DaySchedule" DayHours.check) v with
    | error es =>
      simp [hc, Checked.under, Checked.within, Checked.getD] at hd
    | ok ys =>
      simp only [hc, Checked.under_ok, Checked.getD_ok] at hd
      cases v with
      | list xs =>
        obtain ⟨x, -, hx⟩ := Check.mem_of_items_eq_ok hc d hd
        cases x with
        | dict kvs => exact DayHours.check_padded hx
        | _ => cases hx
      | _ => cases hc
  · cases hd

/-- The days of settings that a value checks to have normal times. -/
theorem read_padded {v : Value} {s : Settings} (h : read v = .ok s) :
    ∀ d ∈ s.workingHours, d.Padded := by
  cases v with
  | dict fs =>
    have hcheck : check fs = .ok (.ok s) := by
      simp only [read] at h
      split at h <;> simp_all
    rw [workingHours_of_check hcheck]
    exact hoursField_padded fs
  | _ => cases h

end Settings

/-! ## Saving and loading -/

theorem lookup_map_putFst {β : Type} (xs : List (String × β)) (k k' : String) (v : β) :
    (xs.map fun y => if y.1 == k then (k, v) else y).lookup k' =
      if k' = k then (if xs.any (·.1 == k) then some v else none) else xs.lookup k' := by
  induction xs with
  | nil => simp
  | cons p xs ih =>
    obtain ⟨k'', w⟩ := p
    grind

/-- Storing an entry under a key changes what the key finds and nothing else. -/
theorem lookup_upsertBy_fst {β : Type} (xs : List (String × β)) (k k' : String) (v : β) :
    (upsertBy (·.1) xs (k, v)).lookup k' = if k' = k then some v else xs.lookup k' := by
  unfold upsertBy
  split
  · next hany => rw [lookup_map_putFst]; simp [hany]
  · next hnone =>
    have hfresh : xs.lookup k = none := by
      rw [List.lookup_eq_none_iff]
      grind
    rw [List.lookup_append]
    grind

/-- Either store gives back the settings document it last saved for a workspace. -/
theorem Store.settingsOf?_saveSettings (st : Store) (ws : String) (doc : Value) :
    (st.saveSettings ws doc).settingsOf? ws = some doc := by
  have hsaved : (upsertBy (·.1) st.settings (ws, doc)).lookup ws = some doc := by
    rw [lookup_upsertBy_fst, if_pos rfl]
  cases hb : st.backend with
  | memory => simpa [Store.saveSettings, Store.settingsOf?, hb] using hsaved
  | sql =>
    simp only [Store.saveSettings, hb]
    split <;> simpa [Store.settingsOf?, Store.putWorkspace] using hsaved

open Op in
/-- Loading finds the settings a stored document other than null checks to. -/
theorem Rule.exec_loadSettings_of_read {ws : String} {w : World} {doc : Value} {s : Settings}
    (hs : w.store.settingsOf? ws = some doc) (hdoc : doc ≠ .null) (h : Settings.read doc = .ok s) :
    exec (Rule.loadSettings ws) w = (.ok (some s), w) := by
  cases doc with
  | null => exact absurd rfl hdoc
  | _ => simp [Rule.loadSettings, hs, h]

open Op in
/-- Loading finds settings whose stored document checks back to them. -/
theorem Rule.exec_loadSettings_of_stored {s : Settings} (hread : Settings.read s.toDocument = .ok s)
    {w : World} {ws : String} (hs : w.store.settingsOf? ws = some s.toDocument) :
    exec (Rule.loadSettings ws) w = (.ok (some s), w) :=
  -- the stored document is an object, so it is no stored null
  Rule.exec_loadSettings_of_read hs (by simp [Settings.toDocument]) hread

open Op in
/-- Settings that a document checks to are stored as a document that checks back to the same
settings, so writing them again stores the same document; and saving the document for a
workspace, then loading that workspace's settings, gives the settings back on either store. -/
theorem settings_document_round_trip {d : Value} {s : Settings} (h : Settings.read d = .ok s) :
    Settings.read s.toDocument = .ok s ∧
    (Settings.read s.toDocument).map Settings.toDocument = .ok s.toDocument ∧
    ∀ (ws : String) (w : World),
      (exec (Rule.saveSettings ws d >>= fun _ => Rule.loadSettings ws) w).1 = .ok (some s) := by
  have hread : Settings.read s.toDocument = .ok s :=
    Settings.read_toDocument (Settings.read_padded h)
  refine ⟨hread, by rw [hread]; rfl, fun ws w => ?_⟩
  simp [Rule.saveSettings, h, Rule.exec_loadSettings_of_stored hread, Store.settingsOf?_saveSettings]

/-- An older settings document: the holiday flag as a word under its snake_case name, a day
whose times carry blank space and single digits, and rules keyed by id with a legacy type, an
empty prompt, a null threshold and a numeric reference. -/
def olderSettingsDoc : Value :=
  .dict [("holiday_mode", .str "yes"),
    ("workingHours", .list [.dict [("day", .str "Monday"), ("open", .int 1),
      ("startTime", .str " 9:5 "), ("end_time", .str "17:30")]]),
    ("automationRules", .dict [("3", .dict [("type", .str "text"), ("enabled", .bool true),
      ("aiPrompt", .str ""), ("threshold", .null), ("materialId", .int 7)])])]

open Op in
theorem olderSettings_round_trip :
    ∃ s, Settings.read olderSettingsDoc = .ok s ∧
      (Settings.read s.toDocument = .ok s ∧
      (Settings.read s.toDocument).map Settings.toDocument = .ok s.toDocument ∧
      ∀ (ws : String) (w : World),
        (exec (Rule.saveSettings ws olderSettingsDoc >>= fun _ => Rule.loadSettings ws) w).1 =
          .ok (some s)) := by
  have hok : (Settings.read olderSettingsDoc).toBool = true := by decide +kernel
  cases hr : Settings.read olderSettingsDoc with
  | error e =>
    rw [hr] at hok
    cases hok
  | ok s => exact ⟨s, rfl, settings_document_round_trip hr⟩

end Autoresponder
