import Autoresponder.Flow.Template

/-!
# Filling placeholders

A placeholder is written as two opening braces, blanks, a path of word characters and dots (at
least one), blanks and two closing braces (`IsPlaceholder`). Blanks, path characters and braces
are disjoint classes, so a placeholder that starts at some position is the only one there, and
`placeholderAt` finds exactly it (`placeholderAt_eq_some_iff`, `placeholderAt_eq_none_iff`).

Filling a text reads it left to right: where a placeholder starts it is replaced, once, by what
its path shows (the display text of the value found there, or the placeholder as written when
the path leads nowhere or to null), and reading goes on after it; any other character is kept
(`Filled`). That reading is unique (`Filled.unique`), and `fillText` performs it: its fuel never
runs out (`fillText_filled`). Filling a value fills each of its texts so and keeps the rest:
the keys of objects, the lengths of lists and every other value (`fill_textsBy`).
-/

namespace Autoresponder

namespace Text

/-- A code point found by the binary search lies in one of the spans. -/
theorem spanSearch_sound {spans : Array (Nat × Nat)} {n lo hi : Nat}
    (h : spanSearch spans n lo hi = true) : ∃ p ∈ spans.toList, p.1 ≤ n ∧ n ≤ p.2 := by
  fun_induction spanSearch spans n lo hi with
  | case1 => simp_all
  | case2 lo hi hlt mid a b hmid hn ih => exact ih h
  | case3 lo hi hlt mid a b hmid hn hb ih => exact ih h
  | case4 lo hi hlt mid a b hmid hn hb =>
    exact ⟨(a, b), Array.mem_toList_iff.mpr (Array.mem_of_getElem? hmid), by omega, by omega⟩
  | case5 => simp_all

/-- No blank is a dot or a word character. -/
theorem blank_not_pathChar {c : Char} (h : isBlank c = true) :
    (c == '.' || isWordChar c) = false := by
  obtain ⟨p, hp, hlo, hhi⟩ := spanSearch_sound h
  -- the blanks are a few short spans: check each of their code points
  have hall : ∀ p ∈ blankSpans.toList, ∀ i ≤ p.2 - p.1,
      (Char.ofNat (p.1 + i) == '.' || isWordChar (Char.ofNat (p.1 + i))) = false := by
    decide +kernel
  have := hall p hp (c.toNat - p.1) (by omega)
  rwa [show p.1 + (c.toNat - p.1) = c.toNat by omega, Char.ofNat_toNat] at this

theorem closing_classes : isBlank '}' = false ∧ ('}' == '.' || isWordChar '}') = false := by
  decide +kernel

end Text

namespace Flow

open Autoresponder.Text

/-! ### Where a placeholder starts -/

/-- `text` is a placeholder naming `path`: two opening braces, blanks, the path (dots and word
characters, at least one), blanks, two closing braces. -/
def IsPlaceholder (text path : List Char) : Prop :=
  path ≠ [] ∧ (∀ c ∈ path, (c == '.' || isWordChar c) = true) ∧
    ∃ b₁ b₂ : List Char, (∀ c ∈ b₁, isBlank c = true) ∧ (∀ c ∈ b₂, isBlank c = true) ∧
      text = '{' :: '{' :: (b₁ ++ path ++ b₂ ++ ['}', '}'])

/-- Dropping leading blanks drops a run of blanks and stops at the first other character. -/
theorem dropWhile_blank_append {b r : List Char} (hb : ∀ c ∈ b, isBlank c = true)
    (hr : ∀ c, r.head? = some c → isBlank c = false) : (b ++ r).dropWhile isBlank = r := by
  induction b with
  | nil =>
    cases r with
    | nil => rfl
    | cons c r => simp [hr c rfl]
  | cons c b ih =>
    rw [List.cons_append, List.dropWhile_cons_of_pos (hb c (by simp))]
    exact ih fun d hd => hb d (List.mem_cons_of_mem _ hd)

/-- Taking path characters takes a path and stops at the first other character. -/
theorem takeWhile_path_append {path r : List Char}
    (hp : ∀ c ∈ path, (c == '.' || isWordChar c) = true)
    (hr : ∀ c, r.head? = some c → (c == '.' || isWordChar c) = false) :
    (path ++ r).takeWhile (fun c => c == '.' || isWordChar c) = path := by
  induction path with
  | nil =>
    cases r with
    | nil => rfl
    | cons c r => simp [hr c rfl]
  | cons c path ih =>
    simp only [List.cons_append, List.takeWhile_cons, hp c (by simp), if_true]
    rw [ih fun d hd => hp d (List.mem_cons_of_mem _ hd)]

/-- What follows a path in a placeholder starts with a blank or a closing brace, so with no
path character. -/
theorem head_after_path {b₂ : List Char} (rest : List Char)
    (hb : ∀ c ∈ b₂, isBlank c = true) :
    ∀ c, (b₂ ++ '}' :: '}' :: rest).head? = some c → (c == '.' || isWordChar c) = false := by
  intro c hc
  cases b₂ with
  | nil =>
    simp only [List.nil_append, List.head?_cons, Option.some.injEq] at hc
    subst hc
    exact closing_classes.2
  | cons d b₂ =>
    simp only [List.cons_append, List.head?_cons, Option.some.injEq] at hc
    subst hc
    exact blank_not_pathChar (hb _ (by simp))

/-- A placeholder is found where it is written, with the text after it left over. -/
theorem placeholderAt_of_isPlaceholder {text path : List Char} (h : IsPlaceholder text path)
    (rest : List Char) : placeholderAt (text ++ rest) = some (String.ofList path, rest) := by
  obtain ⟨hne, hpath, b₁, b₂, hb₁, hb₂, rfl⟩ := h
  obtain ⟨c, cs, hcs⟩ := List.exists_cons_of_ne_nil hne
  have hopen : (b₁ ++ path ++ b₂ ++ ['}', '}'] ++ rest).dropWhile isBlank =
      path ++ (b₂ ++ '}' :: '}' :: rest) := by
    have := dropWhile_blank_append (r := path ++ (b₂ ++ '}' :: '}' :: rest)) hb₁ (by
      intro d hd
      rw [hcs, List.cons_append, List.head?_cons, Option.some.injEq] at hd
      subst hd
      cases hb : isBlank c
      · rfl
      · have := blank_not_pathChar hb
        rw [hpath c (by simp [hcs])] at this
        cases this)
    simpa using this
  have htake := takeWhile_path_append hpath (head_after_path rest hb₂)
  have hclose : (b₂ ++ '}' :: '}' :: rest).dropWhile isBlank = '}' :: '}' :: rest :=
    dropWhile_blank_append hb₂ (by
      intro d hd
      simp only [List.head?_cons, Option.some.injEq] at hd
      subst hd
      exact closing_classes.1)
  simp only [placeholderAt, List.cons_append, hopen, htake, List.drop_left, hclose]
  rw [if_neg (by simpa using hne)]

/-- A placeholder found is one written there. -/
theorem isPlaceholder_of_placeholderAt {cs : List Char} {p : String} {rest : List Char}
    (h : placeholderAt cs = some (p, rest)) :
    ∃ text path, IsPlaceholder text path ∧ p = String.ofList path ∧ cs = text ++ rest := by
  unfold placeholderAt at h
  split at h
  · rename_i after
    -- split what follows the braces into leading blanks, the path, blanks and the rest
    dsimp only at h
    generalize hafterOpen : after.dropWhile isBlank = afterOpen at h
    generalize hpathDef : afterOpen.takeWhile (fun c => c == '.' || isWordChar c) = path at h
    split at h
    · cases h
    rename_i hempty
    split at h
    · rename_i tail hclose
      obtain ⟨rfl, rfl⟩ := Prod.mk.inj (Option.some.inj h)
      refine ⟨'{' :: '{' :: (after.takeWhile isBlank ++ path ++
          (afterOpen.drop path.length).takeWhile isBlank ++ ['}', '}']), path,
        ⟨by simpa using hempty, fun c hc => ?_, after.takeWhile isBlank,
          (afterOpen.drop path.length).takeWhile isBlank,
          fun c hc => List.all_eq_true.mp List.all_takeWhile c hc,
          fun c hc => List.all_eq_true.mp List.all_takeWhile c hc, rfl⟩,
        rfl, ?_⟩
      · rw [← hpathDef] at hc
        exact List.all_eq_true.mp List.all_takeWhile c hc
      have hsplit₂ : afterOpen.drop path.length =
          (afterOpen.drop path.length).takeWhile isBlank ++ '}' :: '}' :: tail := by
        rw [← hclose, List.takeWhile_append_dropWhile]
      have hsplitPath : afterOpen = path ++ afterOpen.drop path.length := by
        rw [← hpathDef]
        exact (List.prefix_iff_eq_append.mp (List.takeWhile_prefix _)).symm
      have hsplit₁ : after = after.takeWhile isBlank ++ afterOpen := by
        rw [← hafterOpen, List.takeWhile_append_dropWhile]
      generalize (afterOpen.drop path.length).takeWhile isBlank = b₂ at hsplit₂ ⊢
      generalize afterOpen.drop path.length = rest at hsplit₂ hsplitPath ⊢
      generalize after.takeWhile isBlank = b₁ at hsplit₁ ⊢
      subst hsplit₂
      rw [hsplit₁, hsplitPath]
      simp
    · cases h
  · cases h

theorem placeholderAt_eq_some_iff (cs : List Char) (p : String) (rest : List Char) :
    placeholderAt cs = some (p, rest) ↔
      ∃ text path, IsPlaceholder text path ∧ p = String.ofList path ∧ cs = text ++ rest := by
  constructor
  · exact isPlaceholder_of_placeholderAt
  · rintro ⟨text, path, hph, rfl, rfl⟩
    exact placeholderAt_of_isPlaceholder hph rest

theorem placeholderAt_eq_none_iff (cs : List Char) :
    placeholderAt cs = none ↔
      ∀ text path rest, IsPlaceholder text path → cs ≠ text ++ rest := by
  constructor
  · rintro h text path rest hph rfl
    rw [placeholderAt_of_isPlaceholder hph rest] at h
    cases h
  · intro h
    cases hat : placeholderAt cs with
    | none => rfl
    | some pr =>
      obtain ⟨text, path, hph, -, hcs⟩ := isPlaceholder_of_placeholderAt hat
      exact absurd hcs (h text path pr.2 hph)

/-- At most one placeholder starts at a position. -/
theorem IsPlaceholder.unique {text path text' path' rest rest' : List Char}
    (h : IsPlaceholder text path) (h' : IsPlaceholder text' path')
    (heq : text ++ rest = text' ++ rest') : text = text' ∧ path = path' ∧ rest = rest' := by
  have hat := placeholderAt_of_isPlaceholder h rest
  rw [heq, placeholderAt_of_isPlaceholder h' rest'] at hat
  obtain ⟨hpath, hrest⟩ := Prod.mk.inj (Option.some.inj hat)
  subst hrest
  exact ⟨(List.append_left_inj rest').mp heq, (String.ofList_inj.mp hpath).symm, rfl⟩

/-! ### Filling a text -/

/-- What the placeholder `text` naming `path` shows: the display text of the value at the path,
or the placeholder as written when the path leads nowhere or to null. -/
def shown (vars : Value) (text path : List Char) : List Char :=
  match lookupPath vars (String.ofList path) with
  | .null => text
  | v => v.display.toList

/-- `Filled vars cs out`: reading `cs` left to right, each placeholder is replaced once by what
it shows and reading goes on after it; every character where no placeholder starts is kept. -/
inductive Filled (vars : Value) : List Char → List Char → Prop
  | nil : Filled vars [] []
  | plain {c : Char} {cs out : List Char} :
      (∀ text path rest, IsPlaceholder text path → c :: cs ≠ text ++ rest) →
      Filled vars cs out → Filled vars (c :: cs) (c :: out)
  | hole {text path rest out : List Char} : IsPlaceholder text path → Filled vars rest out →
      Filled vars (text ++ rest) (shown vars text path ++ out)

theorem IsPlaceholder.append_ne_nil {text path : List Char} (h : IsPlaceholder text path)
    (rest : List Char) : text ++ rest ≠ [] := by
  obtain ⟨-, -, b₁, b₂, -, -, rfl⟩ := h
  simp

/-- A text is read in one way only. -/
theorem Filled.unique {vars : Value} {cs out out' : List Char} (h : Filled vars cs out)
    (h' : Filled vars cs out') : out = out' := by
  -- induction on the first reading; the second is taken apart at the same position
  induction h generalizing out' with
  | nil =>
    generalize hcs : ([] : List Char) = cs at h'
    cases h' with
    | nil => rfl
    | plain => cases hcs
    | hole hph _ => exact absurd hcs.symm (hph.append_ne_nil _)
  | @plain c cs out hnone _ ih =>
    generalize hcs : c :: cs = cs' at h'
    cases h' with
    | nil => cases hcs
    | plain _ h' =>
      obtain ⟨rfl, rfl⟩ := List.cons.inj hcs
      rw [ih h']
    | hole hph _ => exact absurd hcs (hnone _ _ _ hph)
  | @hole text path rest out hph _ ih =>
    generalize hcs : text ++ rest = cs at h'
    cases h' with
    | nil => exact absurd hcs (hph.append_ne_nil _)
    | plain hnone _ => exact absurd hcs.symm (hnone _ _ _ hph)
    | hole hph' h' =>
      obtain ⟨rfl, rfl, rfl⟩ := hph.unique hph' hcs
      rw [ih h']

/-- With more fuel than characters, filling reads the text as `Filled` says. -/
theorem fillChars_filled (vars : Value) (fuel : Nat) (cs : List Char) (hfuel : cs.length < fuel) :
    Filled vars cs (fillChars vars fuel cs) := by
  -- induction on the fuel; a placeholder consumes at least its braces
  induction fuel generalizing cs with
  | zero => omega
  | succ fuel ih =>
    cases cs with
    | nil => exact .nil
    | cons c cs =>
      rw [fillChars]
      cases hat : placeholderAt (c :: cs) with
      | none =>
        exact .plain ((placeholderAt_eq_none_iff _).mp hat)
          (ih cs (by simp at hfuel; omega))
      | some pr =>
        obtain ⟨p, tail⟩ := pr
        obtain ⟨text, path, hph, rfl, hcs⟩ := isPlaceholder_of_placeholderAt hat
        have htext : text.length ≥ 2 := by
          obtain ⟨-, -, b₁, b₂, -, -, rfl⟩ := hph
          simp
        have htail : tail.length < fuel := by
          have := congrArg List.length hcs
          simp only [List.length_append, List.length_cons] at this hfuel
          omega
        have hnull : (c :: cs).take ((c :: cs).length - tail.length) = text := by
          rw [hcs, List.length_append, Nat.add_sub_cancel, List.take_left]
        have hrest := ih tail htail
        dsimp only
        split
        · rename_i hv
          have hshown : shown vars text path = text := by simp [shown, hv]
          rw [hnull, ← hshown, hcs]
          exact .hole hph hrest
        · rename_i v hv
          have hshown : shown vars text path =
              (lookupPath vars (String.ofList path)).display.toList := by
            unfold shown
            split
            · rename_i hnull'
              exact absurd hnull' hv
            · rfl
          rw [← hshown, hcs]
          exact .hole hph hrest

/-- Filling a text replaces each placeholder once, left to right, and keeps the rest. -/
theorem fillText_filled (vars : Value) (s : String) :
    Filled vars s.toList (fillText vars s).toList := by
  rw [fillText, String.toList_ofList]
  exact fillChars_filled vars _ _ (by rw [String.length_toList]; omega)

/-! ### Filling a value -/

mutual
/-- `v'` is `v` with each text `s` in it, keys apart, replaced by a text `t` with `R s t`, and
everything else as it was: the same keys in the same order, the same number of items. -/
def TextsBy (R : String → String → Prop) : Value → Value → Prop
  | .str s, v' => ∃ t, v' = .str t ∧ R s t
  | .list xs, v' => ∃ ys, v' = .list ys ∧ ItemsBy R xs ys
  | .dict kvs, v' => ∃ kvs', v' = .dict kvs' ∧ MembersBy R kvs kvs'
  | v, v' => v' = v
/-- `TextsBy` item by item. -/
def ItemsBy (R : String → String → Prop) : List Value → List Value → Prop
  | [], ys => ys = []
  | x :: xs, ys => ∃ y ys', ys = y :: ys' ∧ TextsBy R x y ∧ ItemsBy R xs ys'
/-- `TextsBy` member by member, keeping each key. -/
def MembersBy (R : String → String → Prop) :
    List (String × Value) → List (String × Value) → Prop
  | [], kvs' => kvs' = []
  | (k, x) :: kvs, kvs' => ∃ y rest, kvs' = (k, y) :: rest ∧ TextsBy R x y ∧ MembersBy R kvs rest
end

mutual
/-- Filling a value fills each of its texts and keeps everything else. -/
theorem fill_textsBy (vars : Value) :
    (v : Value) → TextsBy (fun s t => Filled vars s.toList t.toList) v (fill vars v)
  | .null => by simp [fill, TextsBy]
  | .bool b => by simp [fill, TextsBy]
  | .int n => by simp [fill, TextsBy]
  | .float x => by simp [fill, TextsBy]
  | .str s => ⟨fillText vars s, by simp [fill], fillText_filled vars s⟩
  | .list xs => ⟨fillItems vars xs, by simp [fill], fillItems_itemsBy vars xs⟩
  | .dict kvs => ⟨fillMembers vars kvs, by simp [fill], fillMembers_membersBy vars kvs⟩
theorem fillItems_itemsBy (vars : Value) :
    (xs : List Value) → ItemsBy (fun s t => Filled vars s.toList t.toList) xs (fillItems vars xs)
  | [] => by simp [fillItems, ItemsBy]
  | x :: xs => ⟨fill vars x, fillItems vars xs, by simp [fillItems], fill_textsBy vars x,
      fillItems_itemsBy vars xs⟩
theorem fillMembers_membersBy (vars : Value) :
    (kvs : List (String × Value)) →
      MembersBy (fun s t => Filled vars s.toList t.toList) kvs (fillMembers vars kvs)
  | [] => by simp [fillMembers, MembersBy]
  | (k, x) :: kvs => ⟨fill vars x, fillMembers vars kvs, by simp [fillMembers],
      fill_textsBy vars x, fillMembers_membersBy vars kvs⟩
end

end Flow

end Autoresponder
