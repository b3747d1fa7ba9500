import Mathlib.Data.List.Forall2
import Autoresponder.Proofs.OneConversation

/-!
# Default settings on first use

A workspace without settings gets the default ones when its settings are first asked for: the
canned responses it lacks among the six defaults are made, each once, and the nine default
rules are stored with the id of the canned response they name. Main statement:
`default_settings_bootstrap`.

Making the defaults is a loop over the default canned responses; `defaultsPlan` says what it
uses and what it makes, from the ids issued before it (`exec_defaultMaterialsOf`). The rule
records of the defaults are read back by the settings check (`check_wireMaterial`), so the
first call always succeeds, and a second call finds what the first stored.
-/

namespace Autoresponder.Rule

open Autoresponder.Op Autoresponder.Processor Autoresponder.Time

/-! ### Making the default canned responses -/

/-- The canned response listed last under a name. -/
def lastNamed (ms : List Material) (name : String) : Option Material :=
  (ms.filter (·.name == name)).getLast?

section LastNamed

variable {ms ns : List Material} {name : String}

theorem lastNamed_eq_none_iff : lastNamed ms name = none ↔ ∀ m ∈ ms, m.name ≠ name := by
  simp [lastNamed]

theorem name_of_lastNamed {m : Material} (h : lastNamed ms name = some m) : m.name = name := by
  have hm := List.mem_of_getLast? h
  simpa using (List.mem_filter.mp hm).2

theorem lastNamed_append_of_absent (h : ∀ m ∈ ns, m.name ≠ name) :
    lastNamed (ms ++ ns) name = lastNamed ms name := by
  have hnone : ns.filter (·.name == name) = [] := List.filter_eq_nil_iff.mpr (by simpa using h)
  simp [lastNamed, List.filter_append, hnone]

theorem lastNamed_append_of_absent_left (h : ∀ m ∈ ms, m.name ≠ name) :
    lastNamed (ms ++ ns) name = lastNamed ns name := by
  have hnone : ms.filter (·.name == name) = [] := List.filter_eq_nil_iff.mpr (by simpa using h)
  simp [lastNamed, List.filter_append, hnone]

theorem lastNamed_append_cons_of_ne {m : Material} (h : m.name ≠ name) :
    lastNamed (ms ++ m :: ns) name = lastNamed (ms ++ ns) name := by
  simp [lastNamed, List.filter_append, h]

theorem lastNamed_cons_of_ne {m : Material} (h : m.name ≠ name) :
    lastNamed (m :: ms) name = lastNamed ms name := by
  simp [lastNamed, h]

theorem lastNamed_cons_of_absent {m : Material} (hm : m.name = name) (h : ∀ x ∈ ms, x.name ≠ name) :
    lastNamed (m :: ms) name = some m := by
  have hnone : ms.filter (·.name == name) = [] := List.filter_eq_nil_iff.mpr (by simpa using h)
  simp [lastNamed, hm, hnone]

end LastNamed

/-- A default canned response (name, kind and content) made for a workspace with an id. -/
def defaultMaterial (ws id : String) (e : String × String × String) : Material :=
  { id, workspaceId := ws, name := e.1, kind := e.2.1, content := e.2.2 }

/-- What making the default canned responses does once `n` ids were issued: the response used
for each default, in order, and the responses made, each with the next id. -/
def defaultsPlan (existing : List Material) (ws : String) :
    Nat → List (String × String × String) → List Material × List Material
  | _, [] => ([], [])
  | n, e :: rest =>
    match lastNamed existing e.1 with
    | some m =>
      let p := defaultsPlan existing ws n rest
      (m :: p.1, p.2)
    | none =>
      let m := defaultMaterial ws (freshText (n + 1)) e
      let p := defaultsPlan existing ws (n + 1) rest
      (m :: p.1, m :: p.2)

/-- No stored canned response has an id among those still to be issued below `16 ^ 12`. -/
def Unissued (v : World) : Prop :=
  ∀ m ∈ v.store.materials, ∀ k, v.issued < k → k < 16 ^ 12 → m.id ≠ freshText k

theorem Store.putMaterial_of_fresh {s : Store} {m : Material} (h : ∀ x ∈ s.materials, x.id ≠ m.id) :
    s.putMaterial m = { s with materials := s.materials ++ [m] } := by
  have hfind : s.materials.find? (·.id == m.id) = none := by
    simpa [List.find?_eq_none] using h
  unfold Store.putMaterial
  rw [hfind]
  cases s.backend <;> simp [upsertBy_of_fresh h]

/-- One step of the loop: a default the workspace has is used as it is; one it lacks is made
with the next id and appended to the store. -/
def defaultStep (existing : List Material) (ws : String) (e : String × String × String) (v : World) :
    Except Fault Material × World :=
  match lastNamed existing e.1 with
  | some m => (.ok m, v)
  | none =>
    let m := defaultMaterial ws (freshText (v.issued + 1)) e
    (.ok m, { v with issued := v.issued + 1, store := v.store.putMaterial m })

theorem Unissued.step {v : World} (hv : Unissued v) (hlt : v.issued + 1 < 16 ^ 12)
    (ws : String) (e : String × String × String) :
    Unissued { v with
      issued := v.issued + 1,
      store := { v.store with
        materials := v.store.materials ++ [defaultMaterial ws (freshText (v.issued + 1)) e] } } := by
  intro m hm k hk hbound
  rcases List.mem_append.mp hm with hold | hnew
  · exact hv m hold k (by simp at hk; omega) hbound
  · rw [List.mem_singleton.mp hnew]
    intro hid
    have := freshText_inj hlt hbound hid
    simp at hk
    omega

/-- The loop over the defaults, with each step as `defaultStep` says, uses and makes what
`defaultsPlan` says; the ids it issues are fresh, so each response made is appended. -/
theorem exec_mapM_defaults {existing : List Material} {ws : String}
    {f : String × String × String → Op Material}
    (hf : ∀ e v, exec (f e) v = defaultStep existing ws e v) :
    ∀ (L : List (String × String × String)) (v : World), Unissued v →
      v.issued + L.length < 16 ^ 12 →
      exec (L.mapM f) v = (.ok (defaultsPlan existing ws v.issued L).1,
        { v with
          issued := v.issued + (defaultsPlan existing ws v.issued L).2.length,
          store := { v.store with
            materials := v.store.materials ++ (defaultsPlan existing ws v.issued L).2 } })
  | [], v, _, _ => by simp [defaultsPlan]
  | e :: rest, v, hv, hbound => by
    simp only [List.length_cons] at hbound
    rw [List.mapM_cons, exec_bind, hf]
    unfold defaultStep defaultsPlan
    cases hlast : lastNamed existing e.1 with
    | some m =>
      simp only [exec_bind, exec_mapM_defaults hf rest v hv (by omega), exec_pure]
    | none =>
      -- the made response takes the next id, which no stored response has
      have hfresh : ∀ x ∈ v.store.materials,
          x.id ≠ (defaultMaterial ws (freshText (v.issued + 1)) e).id :=
        fun x hx => hv x hx (v.issued + 1) (by omega) (by omega)
      have hstep := hv.step (by omega) ws e
      simp only [Store.putMaterial_of_fresh hfresh, exec_bind]
      rw [exec_mapM_defaults hf rest _ hstep (by simp; omega)]
      simp only [exec_pure, List.length_cons, List.append_assoc, List.singleton_append]
      rw [Nat.add_assoc, Nat.add_comm 1]

/-- Making the default canned responses of a workspace uses and makes what `defaultsPlan` says
of the workspace's responses. -/
theorem exec_defaultMaterialsOf (ws : String) {w : World} (hw : Unissued w)
    (hbound : w.issued + defaultMaterials.length < 16 ^ 12) :
    exec (defaultMaterialsOf ws) w =
      (.ok (defaultsPlan (w.store.materialsOf ws) ws w.issued defaultMaterials).1,
        { w with
          issued := w.issued + (defaultsPlan (w.store.materialsOf ws) ws w.issued defaultMaterials).2.length,
          store := { w.store with
            materials := w.store.materials ++
              (defaultsPlan (w.store.materialsOf ws) ws w.issued defaultMaterials).2 } }) := by
  simp only [defaultMaterialsOf, exec_bind, exec_store]
  refine exec_mapM_defaults (fun e v => ?_) defaultMaterials w hw hbound
  obtain ⟨name, kind, content⟩ := e
  simp only [defaultStep, lastNamed]
  cases hlast : ((w.store.materialsOf ws).filter (·.name == name)).getLast? with
  | some m => simp
  | none => simp [exec_freshId, defaultMaterial, freshText]

/-! ### What the plan uses and makes -/

section Plan

variable (existing : List Material) (ws : String)

theorem map_name_defaultsPlan (n : Nat) (L : List (String × String × String)) :
    (defaultsPlan existing ws n L).1.map (·.name) = L.map (·.1) := by
  induction L generalizing n with
  | nil => rfl
  | cons e rest ih =>
    unfold defaultsPlan
    cases h : lastNamed existing e.1 with
    | some m => simp [name_of_lastNamed h, ih]
    | none => simp [defaultMaterial, ih]

/-- Each response made belongs to the workspace, is one of the defaults, and carries a name
the workspace had no response of. -/
theorem mem_made_defaultsPlan (n : Nat) (L : List (String × String × String)) :
    ∀ m ∈ (defaultsPlan existing ws n L).2,
      m.workspaceId = ws ∧ (m.name, m.kind, m.content) ∈ L ∧ lastNamed existing m.name = none := by
  induction L generalizing n with
  | nil => simp [defaultsPlan]
  | cons e rest ih =>
    unfold defaultsPlan
    cases h : lastNamed existing e.1 with
    | some m₀ =>
      intro m hm
      obtain ⟨hws, hmem, hnone⟩ := ih n m hm
      exact ⟨hws, List.mem_cons_of_mem e hmem, hnone⟩
    | none =>
      intro m hm
      rcases List.mem_cons.mp hm with rfl | hm
      · exact ⟨rfl, by simp [defaultMaterial], h⟩
      · obtain ⟨hws, hmem, hnone⟩ := ih (n + 1) m hm
        exact ⟨hws, List.mem_cons_of_mem e hmem, hnone⟩

theorem name_mem_of_made {n : Nat} {L : List (String × String × String)} {m : Material}
    (hm : m ∈ (defaultsPlan existing ws n L).2) : m.name ∈ L.map (·.1) :=
  List.mem_map.mpr ⟨_, (mem_made_defaultsPlan existing ws n L m hm).2.1, rfl⟩

/-- With distinct default names, exactly one response is made for each default name that the
workspace has no response of, and none for any other name. -/
theorem count_made_defaultsPlan {L : List (String × String × String)} (hL : (L.map (·.1)).Nodup)
    (n : Nat) (name : String) :
    ((defaultsPlan existing ws n L).2.filter (·.name == name)).length =
      if name ∈ L.map (·.1) ∧ lastNamed existing name = none then 1 else 0 := by
  induction L generalizing n with
  | nil => simp [defaultsPlan]
  | cons e rest ih =>
    obtain ⟨hfirst, hrest⟩ := List.nodup_cons.mp hL
    -- the responses made later carry later names, so none carries the first
    have hlater : ∀ k, ((defaultsPlan existing ws k rest).2.filter (·.name == e.1)) = [] := by
      intro k
      refine List.filter_eq_nil_iff.mpr fun m hm heq => hfirst ?_
      simpa [(beq_iff_eq.mp heq)] using name_mem_of_made existing ws hm
    unfold defaultsPlan
    by_cases hn : name = e.1
    · subst hn
      cases h : lastNamed existing e.1 with
      | some m => simp [hlater]
      | none => simp [defaultMaterial, hlater]
    · cases h : lastNamed existing e.1 with
      | some m =>
        simp only [List.map_cons, List.mem_cons, hn, false_or]
        exact ih hrest n
      | none =>
        have hne : (defaultMaterial ws (freshText (n + 1)) e).name ≠ name := fun h' => hn h'.symm
        simp only [List.filter_cons, beq_iff_eq, hne, ↓reduceIte, List.map_cons, List.mem_cons, hn,
          false_or]
        exact ih hrest (n + 1)

/-- The response used under a default name is the last response of that name once the made
ones are added. -/
theorem lastNamed_used {L : List (String × String × String)} (hL : (L.map (·.1)).Nodup)
    (n : Nat) {name : String} (hname : name ∈ L.map (·.1)) :
    lastNamed (defaultsPlan existing ws n L).1 name =
      lastNamed (existing ++ (defaultsPlan existing ws n L).2) name := by
  induction L generalizing n with
  | nil => cases hname
  | cons e rest ih =>
    obtain ⟨hfirst, hrest⟩ := List.nodup_cons.mp hL
    have husedLater : ∀ k, ∀ m ∈ (defaultsPlan existing ws k rest).1, m.name ≠ e.1 := by
      intro k m hm heq
      refine hfirst ?_
      rw [← map_name_defaultsPlan existing ws k rest]
      exact List.mem_map.mpr ⟨m, hm, heq⟩
    have hmadeLater : ∀ k, ∀ m ∈ (defaultsPlan existing ws k rest).2, m.name ≠ e.1 := by
      intro k m hm heq
      have hmem := name_mem_of_made existing ws hm
      rw [heq] at hmem
      exact hfirst hmem
    unfold defaultsPlan
    by_cases hn : name = e.1
    · subst hn
      cases h : lastNamed existing e.1 with
      | some m =>
        simp only
        rw [lastNamed_cons_of_absent (name_of_lastNamed h) (husedLater n),
          lastNamed_append_of_absent (hmadeLater n), h]
      | none =>
        -- the response made under the name is the only one of it
        have hm₀ : (defaultMaterial ws (freshText (n + 1)) e).name = e.1 := rfl
        simp only
        rw [lastNamed_cons_of_absent hm₀ (husedLater (n + 1)),
          lastNamed_append_of_absent_left (lastNamed_eq_none_iff.mp h),
          lastNamed_cons_of_absent hm₀ (hmadeLater (n + 1))]
    · have hname' : name ∈ rest.map (·.1) := by simpa [hn] using hname
      cases h : lastNamed existing e.1 with
      | some m =>
        simp only
        rw [lastNamed_cons_of_ne fun h' => hn ((name_of_lastNamed h) ▸ h').symm]
        exact ih hrest n hname'
      | none =>
        have hne : (defaultMaterial ws (freshText (n + 1)) e).name ≠ name := fun h' => hn h'.symm
        simp only
        rw [lastNamed_cons_of_ne hne, lastNamed_append_cons_of_ne hne]
        exact ih hrest (n + 1) hname'

end Plan

/-! ### The default rules check -/

/-- A rule document with a canned response's id written in, when there is one. -/
def withMaterialId (v : Value) : Option String → Value
  | some id => v.set "materialId" (.str id)
  | none => v

section DefaultRule

variable (id : String) (enabled : Bool) (k : Reply) (description prompt : String)
  (material : Option String) (threshold : Option Int) (mid : Option String)

/-- The entries of a default rule document with a canned response's id written in. -/
def wiredFields : Fields :=
  match withMaterialId (defaultRule id enabled k.code description prompt material threshold) mid with
  | .dict kvs => kvs
  | _ => []

theorem withMaterialId_defaultRule :
    withMaterialId (defaultRule id enabled k.code description prompt material threshold) mid =
      .dict (wiredFields id enabled k description prompt material threshold mid) := by
  cases mid <;> rfl

/-- The entries of a default rule document, normalised, that its check reads. -/
theorem lookups_normalize_wiredFields :
    let fs := normalize (wiredFields id enabled k description prompt material threshold mid)
    fs.lookup "id" = some (.str id) ∧ fs.lookup "enabled" = some (.bool enabled) ∧
    fs.lookup "description" = some (.str description) ∧
    fs.lookup "responseType" = some (.str k.code) ∧
    fs.lookup "aiPrompt" = dropBlank (some (.str prompt)) ∧ fs.lookup "ai_prompt" = none ∧
    fs.lookup "materialId" = mid.map .str ∧ fs.lookup "material_id" = none ∧
    fs.lookup "materialName" = material.map .str ∧ fs.lookup "material_name" = none ∧
    fs.lookup "threshold" = threshold.map .int ∧
    fs.lookup "chatbotFlow" = none ∧ fs.lookup "chatbot_flow" = none ∧
    fs.lookup "chatbotFlowName" = none ∧ fs.lookup "chatbot_flow_name" = none ∧
    fs.lookup "templateName" = none ∧ fs.lookup "template_name" = none ∧
    fs.lookup "tag" = none := by
  have htype : (wiredFields id enabled k description prompt material threshold mid).lookup "type" =
      none := by
    cases mid <;> cases material <;> cases threshold <;>
      simp [wiredFields, withMaterialId, defaultRule, Value.set, Value.lookup_setIn, List.lookup_cons]
  refine ⟨?_, ?_, ?_, ?_, ?_, ?_, ?_, ?_, ?_, ?_, ?_, ?_, ?_, ?_, ?_, ?_, ?_, ?_⟩
  all_goals
    rw [lookup_normalize htype (by decide)]
    cases mid <;> cases material <;> cases threshold <;>
      simp [wiredFields, withMaterialId, defaultRule, Value.set, Value.lookup_setIn, List.lookup_cons,
        normalEntry, textKeys, blankKeys, dropBlank, asText, Value.display]

/-- A default rule document, with a canned response's id written in or not, checks to the rule
it describes. -/
theorem check_wiredFields :
    check (wiredFields id enabled k description prompt material threshold mid) =
      .ok { id, enabled, description, reply := k, aiPrompt := prompt, materialId := mid,
            materialName := material.getD "", threshold, tag := Tag.ofRuleId id } := by
  obtain ⟨hid, hen, hdesc, hreply, hprompt, hprompt', hmat, hmat', hname, hname', hthr, hflow,
    hflow', hflowName, hflowName', htpl, htpl', htag⟩ :=
    lookups_normalize_wiredFields id enabled k description prompt material threshold mid
  have hmid : (normalize (wiredFields id enabled k description prompt material threshold mid)).withDefault
      "materialId" "material_id" none (Check.optional Check.text) = .ok mid := by
    cases mid with
    | none => exact Fields.withDefault_of_absent hmat hmat'
    | some m =>
      rw [Fields.withDefault_of_lookup hmat]
      rfl
  have hnamed : (normalize (wiredFields id enabled k description prompt material threshold mid)).withDefault
      "materialName" "material_name" "" Check.text = .ok (material.getD "") := by
    cases material with
    | none => exact Fields.withDefault_of_absent hname hname'
    | some n =>
      rw [Fields.withDefault_of_lookup hname]
      rfl
  simp only [check, Fields.need_of_lookup hid, Fields.withDefault_of_lookup hen,
    Fields.withDefault_of_lookup hdesc, Fields.withDefault_of_lookup hreply,
    withDefault_dropBlank hprompt hprompt', hmid, hnamed, withDefault_threshold hthr,
    Fields.withDefault_of_absent hflow hflow', Fields.withDefault_of_absent hflowName hflowName',
    Fields.withDefault_of_absent htpl htpl', Fields.withDefault_of_absent htag htag]
  simp [Check.choice_of_mem (code_mem_replyCodes k), Reply.ofCode?_code]

theorem record_withMaterialId :
    Check.record "AutomationRule" check
        (withMaterialId (defaultRule id enabled k.code description prompt material threshold) mid) =
      .ok { id, enabled, description, reply := k, aiPrompt := prompt, materialId := mid,
            materialName := material.getD "", threshold, tag := Tag.ofRuleId id } := by
  rw [withMaterialId_defaultRule]
  exact check_wiredFields id enabled k description prompt material threshold mid

end DefaultRule

theorem getD_materialName_defaultRule (id : String) (enabled : Bool) (kind description prompt : String)
    (material : Option String) (threshold : Option Int) :
    ((defaultRule id enabled kind description prompt material threshold).getD "materialName").asStr? =
      material := by
  cases material <;> cases threshold <;>
    simp [defaultRule, Value.getD, Value.get?, List.lookup_cons, Value.asStr?]

/-- Every default rule is a rule document of a known reply kind, naming a default canned
response or none. -/
theorem mem_defaultRules {v : Value} (hv : v ∈ defaultRules) :
    ∃ id enabled kind description prompt material threshold,
      v = defaultRule id enabled kind description prompt material threshold ∧
      kind ∈ Reply.all.map Reply.code ∧
      ∀ name ∈ material, name ≠ "" ∧ name ∈ defaultMaterials.map (·.1) := by
  simp only [defaultRules, List.mem_cons, List.not_mem_nil, or_false] at hv
  rcases hv with rfl | rfl | rfl | rfl | rfl | rfl | rfl | rfl | rfl <;>
    exact ⟨_, _, _, _, _, _, _, rfl, by decide, by simp [defaultMaterials]⟩

theorem wireMaterial_eq (materials : List Material) (v : Value) :
    wireMaterial materials v =
      withMaterialId v (((v.getD "materialName").asStr?.bind (lastNamed materials)).map (·.id)) := by
  unfold wireMaterial withMaterialId lastNamed
  cases (v.getD "materialName").asStr?.bind fun n => (materials.filter (·.name == n)).getLast? <;> rfl

/-- A rule `r` is the default rule `v` with the id of the last canned response in `ms` of the
name the rule gives, when it gives one. -/
def WiredRule (ms : List Material) (v : Value) (r : Rule) : Prop :=
  Check.record "AutomationRule" check v = .ok { r with materialId := none } ∧
    r.materialId = if r.materialName = "" then none else (lastNamed ms r.materialName).map (·.id)

/-- A default rule wired from the responses `used` checks to a rule wired from `ms`, when
`used` and `ms` give the same last response under every default name. -/
theorem check_wireMaterial {used ms : List Material}
    (hlast : ∀ name ∈ defaultMaterials.map (·.1), lastNamed used name = lastNamed ms name)
    {v : Value} (hv : v ∈ defaultRules) :
    ∃ r, Check.record "AutomationRule" check (wireMaterial used v) = .ok r ∧ WiredRule ms v r := by
  obtain ⟨id, enabled, kind, description, prompt, material, threshold, rfl, hkind, hnamed⟩ :=
    mem_defaultRules hv
  obtain ⟨k, -, rfl⟩ := List.mem_map.mp hkind
  let mid := (material.bind (lastNamed used)).map (·.id)
  have hplain : Check.record "AutomationRule" check
      (defaultRule id enabled k.code description prompt material threshold) =
        .ok { id, enabled, description, reply := k, aiPrompt := prompt,
              materialName := material.getD "", threshold, tag := Tag.ofRuleId id } :=
    record_withMaterialId id enabled k description prompt material threshold none
  have hwired : Check.record "AutomationRule" check
      (wireMaterial used (defaultRule id enabled k.code description prompt material threshold)) =
        .ok { id, enabled, description, reply := k, aiPrompt := prompt, materialId := mid,
              materialName := material.getD "", threshold, tag := Tag.ofRuleId id } := by
    rw [wireMaterial_eq, getD_materialName_defaultRule]
    exact record_withMaterialId id enabled k description prompt material threshold mid
  refine ⟨_, hwired, by rw [hplain], ?_⟩
  -- a rule naming a response gets the id of the last response of that name
  cases material with
  | none => simp [mid]
  | some name =>
    obtain ⟨hne, hmem⟩ := hnamed name rfl
    simp [mid, hne, hlast name hmem]

/-! ### Settings on first use -/

/-- The default week: open on weekdays from 09:00 to 17:00. -/
def defaultWeek : List DayHours :=
  weekdayNames.map fun day => ⟨day, day != "Saturday" && day != "Sunday", "09:00", "17:00"⟩

theorem items_defaultHours :
    Check.items (Check.record "DaySchedule" DayHours.check) defaultHours = .ok defaultWeek := by
  have hweek : defaultHours = defaultWeek.map DayHours.toValue := by
    rw [defaultWeek, List.map_map]
    rfl
  rw [hweek]
  refine Check.items_map_eq_ok fun d hd => DayHours.check_toValue ?_
  rw [defaultWeek] at hd
  obtain ⟨day, -, rfl⟩ := List.mem_map.mp hd
  exact ⟨DayHours.padTime_opening, DayHours.padTime_closing⟩

theorem exists_forall₂_of_forall {α β : Type} {R : α → β → Prop} :
    ∀ {xs : List α}, (∀ x ∈ xs, ∃ y, R x y) → ∃ ys, List.Forall₂ R xs ys
  | [], _ => ⟨[], .nil⟩
  | x :: xs, h => by
    obtain ⟨y, hy⟩ := h x List.mem_cons_self
    obtain ⟨ys, hys⟩ := exists_forall₂_of_forall fun x' hx' => h x' (List.mem_cons_of_mem x hx')
    exact ⟨y :: ys, .cons hy hys⟩

theorem exec_saveSettings_of_read {ws : String} {doc : Value} {s : Settings}
    (h : Settings.read doc = .ok s) (v : World) :
    exec (saveSettings ws doc) v = (.ok s, { v with store := v.store.saveSettings ws s.toDocument }) := by
  simp [saveSettings, h]

theorem exec_settingsOrDefaults_of_loaded {ws : String} {w : World} {s : Settings}
    (h : exec (loadSettings ws) w = (.ok (some s), w)) :
    exec (settingsOrDefaults ws) w = (.ok s, w) := by
  simp [settingsOrDefaults, h]

theorem exec_loadSettings_world (ws : String) (w : World) : (exec (loadSettings ws) w).2 = w := by
  simp only [loadSettings, exec_bind, exec_store]
  split
  · rfl
  · rfl
  · split <;> rfl

theorem exec_saveSettings_ok {ws : String} {doc : Value} {s : Settings} {v v' : World}
    (h : exec (saveSettings ws doc) v = (.ok s, v')) :
    Settings.read doc = .ok s ∧ v' = { v with store := v.store.saveSettings ws s.toDocument } := by
  cases hread : Settings.read doc with
  | error f => simp [saveSettings, hread] at h
  | ok s₀ =>
    rw [exec_saveSettings_of_read hread, Prod.mk.injEq, Except.ok.injEq] at h
    obtain ⟨rfl, rfl⟩ := h
    exact ⟨rfl, rfl⟩

/-- What the first call on a workspace without settings does: it returns the settings `s` and
makes the canned responses `made`. -/
structure FirstUse (ws : String) (w : World) (s : Settings) (made : List Material) : Prop where
  /-- It issues one id for each response made, appends them to the store, and stores the
  document of the settings it returns. -/
  run : exec (settingsOrDefaults ws) w =
    (.ok s, { w with
      issued := w.issued + made.length,
      store := ({ w.store with materials := w.store.materials ++ made }).saveSettings ws
        s.toDocument })
  /-- Each response made is a default one, of the workspace, -/
  made_default : ∀ m ∈ made, m.workspaceId = ws ∧ (m.name, m.kind, m.content) ∈ defaultMaterials
  /-- made once for each default name the workspace has no response of, and for no other name. -/
  made_once : ∀ name, (made.filter (·.name == name)).length =
    if name ∈ defaultMaterials.map (·.1) ∧ ∀ m ∈ w.store.materialsOf ws, m.name ≠ name then 1 else 0
  /-- The rules are the default ones, each wired to the last response of the name it gives. -/
  wired : List.Forall₂ (WiredRule (w.store.materialsOf ws ++ made)) defaultRules s.rules

/-- The first call on a workspace without settings makes the missing default responses, and
stores and returns the default settings with the rules wired by name. -/
theorem firstUse_of_absent {ws : String} {w : World}
    (hnone : w.store.settingsOf? ws = none ∨ w.store.settingsOf? ws = some .null)
    (hw : Unissued w) (hbound : w.issued + defaultMaterials.length < 16 ^ 12) :
    ∃ s, FirstUse ws w s (defaultsPlan (w.store.materialsOf ws) ws w.issued defaultMaterials).2 := by
  have hnames : (defaultMaterials.map (·.1)).Nodup := by decide
  have hload : exec (loadSettings ws) w = (.ok none, w) := by
    rcases hnone with h | h <;> simp [loadSettings, h]
  -- each default rule checks, wired to the last response of its name after the call
  obtain ⟨rs, hrs⟩ := exists_forall₂_of_forall fun v hv =>
    check_wireMaterial (fun name hname => lastNamed_used _ ws hnames w.issued hname) hv
  have hitems : Check.items (Check.record "AutomationRule" check)
      (defaultRules.map (wireMaterial
        (defaultsPlan (w.store.materialsOf ws) ws w.issued defaultMaterials).1)) = .ok rs :=
    Check.items_eq_ok_of_forall₂ (List.forall₂_map_left_iff.mpr (hrs.imp fun _ _ h => h.1))
  refine ⟨⟨false, defaultWeek, rs⟩, ?run, fun m hm => ?_, fun name => ?_, hrs.imp fun _ _ h => h.2⟩
  case run =>
    simp only [settingsOrDefaults, exec_bind, hload, exec_defaultMaterialsOf ws hw hbound]
    rw [exec_saveSettings_of_read (Settings.read_of_items items_defaultHours hitems)]
  · obtain ⟨hws, hmem, -⟩ := mem_made_defaultsPlan _ ws _ _ m hm
    exact ⟨hws, hmem⟩
  · rw [count_made_defaultsPlan _ ws hnames]
    simp only [lastNamed_eq_none_iff]

/-- Calling again after a call that returned settings returns the same and changes nothing:
the first call either found the settings or stored them. -/
theorem exec_settingsOrDefaults_again {ws : String} {w w' : World} {s : Settings}
    (h : exec (settingsOrDefaults ws) w = (.ok s, w')) :
    exec (settingsOrDefaults ws) w' = (.ok s, w') := by
  have hworld := exec_loadSettings_world ws w
  rcases hl : exec (loadSettings ws) w with ⟨_ | _ | s₀, w₁⟩
  · simp [settingsOrDefaults, hl] at h
  · -- no settings: the defaults were made and saved
    rw [hl] at hworld
    subst hworld
    simp only [settingsOrDefaults, exec_bind, hl] at h
    split at h
    · next materials w₂ _ =>
      obtain ⟨hread, rfl⟩ := exec_saveSettings_ok h
      have hstored := Store.settingsOf?_saveSettings w₂.store ws s.toDocument
      exact exec_settingsOrDefaults_of_loaded
        (Rule.exec_loadSettings_of_stored (Settings.read_toDocument (Settings.read_padded hread))
          hstored)
    · cases h
  · -- settings were found: nothing changed
    rw [hl] at hworld
    subst hworld
    have hfound := exec_settingsOrDefaults_of_loaded hl
    rw [hfound, Prod.mk.injEq, Except.ok.injEq] at h
    obtain ⟨rfl, rfl⟩ := h
    exact hfound

/-- Default settings on first use. On a workspace without settings, whose stored canned
responses have no id still to be issued, the first call makes exactly the default responses
the workspace lacks, once each, and stores and returns the default rules, each wired to the
last response of the name it gives. On a workspace with settings that check, the call returns
them and changes nothing; so a second call changes nothing and returns what the first did. -/
theorem default_settings_bootstrap (ws : String) (w : World) :
    ((w.store.settingsOf? ws = none ∨ w.store.settingsOf? ws = some .null) → Unissued w →
      w.issued + defaultMaterials.length < 16 ^ 12 → ∃ s made, FirstUse ws w s made) ∧
    (∀ doc s, w.store.settingsOf? ws = some doc → doc ≠ .null → Settings.read doc = .ok s →
      exec (settingsOrDefaults ws) w = (.ok s, w)) ∧
    (∀ s w', exec (settingsOrDefaults ws) w = (.ok s, w') →
      exec (settingsOrDefaults ws) w' = (.ok s, w')) := by
  refine ⟨fun hnone hw hbound => ?_, fun doc s hs hdoc hread => ?_, fun s w' h => ?_⟩
  · obtain ⟨s, hfirst⟩ := firstUse_of_absent hnone hw hbound
    exact ⟨s, _, hfirst⟩
  · exact exec_settingsOrDefaults_of_loaded (exec_loadSettings_of_read hs hdoc hread)
  · exact exec_settingsOrDefaults_again h

/-- A workspace `ws_1` without settings that already has a welcome response. -/
def welcomedWorld : World :=
  { clock := ⟨20745, 0, some 0⟩,
    store := { workspaces := [{ id := "ws_1" }],
               materials := [{ id := "m1", workspaceId := "ws_1", name := "Welcome",
                               kind := "welcome", content := "Hi" }] } }

theorem welcomedWorld_first_use :
    (welcomedWorld.store.settingsOf? "ws_1" = none ∨
        welcomedWorld.store.settingsOf? "ws_1" = some .null) ∧
      Unissued welcomedWorld ∧ welcomedWorld.issued + defaultMaterials.length < 16 ^ 12 ∧
      ∃ s made, FirstUse "ws_1" welcomedWorld s made := by
  have hnone : welcomedWorld.store.settingsOf? "ws_1" = none ∨
      welcomedWorld.store.settingsOf? "ws_1" = some .null := .inl rfl
  -- the stored id does not start as issued ids do
  have hw : Unissued welcomedWorld := by
    intro m hm k _ _ hid
    simp only [welcomedWorld, List.mem_singleton] at hm
    subst hm
    have hhead := congrArg (fun t => t.toList.head?) hid
    simp [freshText] at hhead
  have hbound : welcomedWorld.issued + defaultMaterials.length < 16 ^ 12 := by decide
  exact ⟨hnone, hw, hbound, (default_settings_bootstrap "ws_1" welcomedWorld).1 hnone hw hbound⟩

end Autoresponder.Rule
