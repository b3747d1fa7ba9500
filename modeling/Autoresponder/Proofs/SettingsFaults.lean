import Autoresponder.Proofs.SettingsDocument
import Autoresponder.Proofs.UnusableGraphs
import Autoresponder.Server.Endpoint

/-!
# How invalid settings are reported

Checking a settings document either gives settings or reports every failed field as issues,
with one exception: an older document that keys its rules by id is first turned into rule
records, the way a mapping is built from each entry, and building a mapping refuses some
entries for their kind. Main statement: `invalid_settings_reported`.

The refusals come from one place (`entryFields_fault`, `pairOf_fault`): an entry that is a
number or `true`, or a list with an item that is no sequence or a pair keyed by a list or an
object. Saving a document that fails its checks stores nothing and fails as the check does;
loading a stored document that fails its checks reports the workspace's settings as invalid;
and replacing settings through the web interface answers 422 with the issues.
-/

namespace Autoresponder

open Autoresponder.Text

namespace Settings

/-- An item of a list that building a mapping refuses for its kind: one that is no sequence
(null, a boolean or a number), or a pair whose key is a list or an object, which has no
hash. -/
def refusedItem : Value → Bool
  | .null | .bool _ | .int _ | .float _ => true
  | .list [.list _, _] | .list [.dict _, _] => true
  | _ => false

/-- An older rule entry that building a mapping refuses for its kind: a number or `true`, or
a list with an item refused for its kind. -/
def refusedEntry (raw : Value) : Bool :=
  raw.truthy &&
    match raw with
    | .bool _ | .int _ | .float _ => true
    | .list xs => xs.any refusedItem
    | _ => false

/-- The rules of a settings object are an older mapping with an entry refused for its kind. -/
def RulesRefusedByKind (v : Value) : Prop :=
  ∃ (fs : Fields) (k : String) (kvs : List (String × Value)), v = .dict fs ∧
    fs.pick "automationRules" "automation_rules" = some (k, .dict kvs) ∧
    ∃ e ∈ kvs, refusedEntry e.2 = true

/-- A fault that is either a refused value or, for an item refused for its kind, a refused
kind. -/
def KindOrValue (refused : Bool) (f : Fault) : Prop :=
  (∃ m, f = .badValue m) ∨ (∃ m, f = .badKind m) ∧ refused = true

theorem pairOf_fault {i : Nat} {x : Value} {f : Fault} (h : pairOf i x = .error f) :
    KindOrValue (refusedItem x) f := by
  unfold pairOf at h
  split at h
  · rename_i k y
    cases k <;> simp [bind, Except.bind, pure, Except.pure] at h <;> subst h <;>
      simp [KindOrValue, refusedItem]
  · cases h
    exact .inl ⟨_, rfl⟩
  · split at h
    · cases h
    · cases h
      exact .inl ⟨_, rfl⟩
  · cases h
  · cases h
    exact .inl ⟨_, rfl⟩
  · cases h
    refine .inr ⟨⟨_, rfl⟩, ?_⟩
    cases x <;> simp_all [refusedItem]

theorem entryFields_fault {raw : Value} {f : Fault} (h : entryFields raw = .error f) :
    KindOrValue (refusedEntry raw) f := by
  unfold entryFields at h
  cases ht : raw.truthy
  · simp [ht] at h
  · simp only [ht, Bool.not_true, Bool.false_eq_true, if_false] at h
    split at h
    · cases h
    · rename_i xs
      rcases Flow.error_or_of_bind_eq_error h with hm | ⟨_, -, hpure⟩
      · obtain ⟨⟨x, i⟩, hx, hpair⟩ := Flow.exists_of_mapM_eq_error hm
        rcases pairOf_fault hpair with hv | ⟨hk, hr⟩
        · exact .inl hv
        · refine .inr ⟨hk, ?_⟩
          simp only [refusedEntry, ht, Bool.true_and, List.any_eq_true]
          exact ⟨x, List.fst_mem_of_mem_zipIdx hx, hr⟩
      · cases hpure
    · cases h
      exact .inl ⟨_, rfl⟩
    · cases h
      refine .inr ⟨⟨_, rfl⟩, ?_⟩
      cases raw <;> simp_all [refusedEntry, Value.truthy]

theorem rulesOfMapping_fault {kvs : List (String × Value)} {f : Fault}
    (h : rulesOfMapping kvs = .error f) : ∃ e ∈ kvs, KindOrValue (refusedEntry e.2) f := by
  obtain ⟨e, he, hentry⟩ := Flow.exists_of_mapM_eq_error h
  refine ⟨e, he, ?_⟩
  rcases Flow.error_or_of_bind_eq_error hentry with hfields | ⟨_, -, hpure⟩
  · exact entryFields_fault hfields
  · cases hpure

/-- Checking a settings object fails, rather than reporting issues, only for an older rule
mapping with an entry refused for its kind, and then with a refused kind. -/
theorem check_fault {fs : Fields} {f : Fault} (h : check fs = .error f) :
    (∃ m, f = .badKind m) ∧ ∃ k kvs, fs.pick "automationRules" "automation_rules" = some (k, .dict kvs) ∧
      ∃ e ∈ kvs, refusedEntry e.2 = true := by
  unfold check at h
  -- every way but the thrown fault ends in the join point, which only returns
  simp only [pure, Except.pure, bind, Except.bind] at h
  split at h
  · rename_i k kvs hpick
    split at h
    · split at h <;> cases h
    · split at h <;> cases h
    · rename_i f' hnot hmap
      cases h
      obtain ⟨e, he, hv | ⟨hk, hr⟩⟩ := rulesOfMapping_fault hmap
      · obtain ⟨m, rfl⟩ := hv
        exact absurd rfl (hnot m)
      · exact ⟨hk, k, kvs, hpick, e, he, hr⟩
  · split at h <;> cases h
  · split at h <;> cases h

/-- Checking settings gives settings, reports issues, or refuses an older rule mapping for the
kind of one of its entries; no other fault arises. -/
theorem read_cases (v : Value) :
    (∃ s, read v = .ok s) ∨ (∃ es, read v = .error (.invalid es)) ∨
      (∃ m, read v = .error (.badKind m)) ∧ RulesRefusedByKind v := by
  cases v with
  | dict fs =>
    cases hc : check fs with
    | ok c =>
      cases c with
      | ok s => exact .inl ⟨s, by simp [read, hc]⟩
      | error es => exact .inr (.inl ⟨es, by simp [read, hc]⟩)
    | error f =>
      obtain ⟨⟨m, rfl⟩, k, kvs, hpick, hentry⟩ := check_fault hc
      exact .inr (.inr ⟨⟨m, by simp [read, hc]⟩, fs, k, kvs, rfl, hpick, hentry⟩)
  | _ => exact .inr (.inl ⟨_, rfl⟩)

end Settings

open Op

namespace Rule

/-- Saving settings that fail their checks stores nothing and fails as the check does. -/
theorem exec_saveSettings_of_fault {v : Value} {f : Fault} (h : Settings.read v = .error f)
    (ws : String) (w : World) : exec (saveSettings ws v) w = (.error f, w) := by
  simp [saveSettings, h]

/-- Loading a stored document that fails its checks reports the workspace's settings as
invalid and changes nothing. A stored null is no document. -/
theorem exec_loadSettings_of_invalid {w : World} {ws : String} {v : Value} {es : List Issue}
    (hv : v ≠ .null) (hs : w.store.settingsOf? ws = some v)
    (h : Settings.read v = .error (.invalid es)) :
    exec (loadSettings ws) w =
      (.error (.badValue ("Stored automation settings for " ++ ws ++ " are invalid")), w) := by
  cases v with
  | null => exact absurd rfl hv
  | _ => simp [loadSettings, hs, h]

end Rule

namespace Server

/-- Replacing a workspace's settings with a document that fails its checks answers 422 with
every issue, and changes nothing. -/
theorem exec_writeSettings_of_invalid {ws : String} {r : Request} {w : World}
    {kvs : List (String × Value)} {es : List Issue} (hbody : settingsBody r = .ok kvs)
    (hws : (w.store.workspace? ws).isSome) (h : Settings.read (.dict kvs) = .error (.invalid es)) :
    exec (writeSettings ws r) w = (.ok (.detail 422 (.list (es.map (·.toValue)))), w) := by
  have hne : w.store.workspace? ws ≠ none := Option.isSome_iff_ne_none.mp hws
  unfold writeSettings
  rw [hbody]
  simp [hne, Rule.saveSettings, h]
  rfl

/-- A document refused for its kind makes the request fail, which the server answers with 500;
nothing changes. -/
theorem exec_writeSettings_of_badKind {ws : String} {r : Request} {w : World}
    {kvs : List (String × Value)} {m : String} (hbody : settingsBody r = .ok kvs)
    (hws : (w.store.workspace? ws).isSome) (h : Settings.read (.dict kvs) = .error (.badKind m)) :
    exec (writeSettings ws r) w = (.error (.badKind m), w) := by
  have hne : w.store.workspace? ws ≠ none := Option.isSome_iff_ne_none.mp hws
  unfold writeSettings
  rw [hbody]
  simp [hne, Rule.saveSettings, h]

end Server

/-- Settings documents that fail their checks are reported as such: checking gives settings,
reports issues, or refuses an older rule mapping for the kind of one of its entries; saving
fails as the check does and stores nothing; loading a stored document with issues reports the
workspace's settings as invalid; and replacing settings through the web interface answers 422
with the issues, or fails, which the server answers with 500, for a refused kind. -/
theorem invalid_settings_reported (v : Value) :
    ((∃ s, Settings.read v = .ok s) ∨ (∃ es, Settings.read v = .error (.invalid es)) ∨
      (∃ m, Settings.read v = .error (.badKind m)) ∧ Settings.RulesRefusedByKind v) ∧
    (∀ f ws (w : World), Settings.read v = .error f → exec (Rule.saveSettings ws v) w = (.error f, w)) ∧
    (∀ es ws (w : World), v ≠ .null → w.store.settingsOf? ws = some v →
      Settings.read v = .error (.invalid es) →
      exec (Rule.loadSettings ws) w =
        (.error (.badValue ("Stored automation settings for " ++ ws ++ " are invalid")), w)) ∧
    (∀ kvs ws r (w : World), v = .dict kvs → Server.settingsBody r = .ok kvs →
      (w.store.workspace? ws).isSome →
      (∀ es, Settings.read v = .error (.invalid es) →
        exec (Server.writeSettings ws r) w = (.ok (.detail 422 (.list (es.map (·.toValue)))), w)) ∧
      (∀ m, Settings.read v = .error (.badKind m) →
        exec (Server.writeSettings ws r) w = (.error (.badKind m), w))) := by
  refine ⟨Settings.read_cases v, fun f ws w h => Rule.exec_saveSettings_of_fault h ws w,
    fun es ws w hv hs h => Rule.exec_loadSettings_of_invalid hv hs h, ?_⟩
  intro kvs ws r w hv hbody hws
  subst hv
  exact ⟨fun es h => Server.exec_writeSettings_of_invalid hbody hws h,
    fun m h => Server.exec_writeSettings_of_badKind hbody hws h⟩

theorem Value.eq_null_of_kindName {v : Value} (h : v.kindName = "NoneType") : v = .null := by
  cases v <;> simp_all [Value.kindName]

/-- A settings document whose holiday switch is null. -/
def nullHoliday : List (String × Value) := [("holidayMode", .null)]

/-- The issue reported for `nullHoliday`. -/
def nullHolidayIssue : Issue :=
  { loc := [.key "holidayMode"], kind := "bool_type", msg := "Input should be a valid boolean" }

/-- A world whose store knows the workspace `ws_1` and keeps `nullHoliday` as its settings. -/
def nullHolidayWorld : World :=
  { clock := ⟨20745, 0, some 0⟩,
    store := { workspaces := [{ id := "ws_1" }], settings := [("ws_1", .dict nullHoliday)] } }

/-- A request replacing the settings of `ws_1` with `nullHoliday`. -/
def nullHolidayRequest : Server.Request :=
  { method := "PUT", path := "/workspaces/ws_1/automation-settings",
    body := "\x7b\"holidayMode\": null\x7d" }

theorem nullHoliday_reported :
    exec (Rule.saveSettings "ws_1" (.dict nullHoliday)) nullHolidayWorld =
        (.error (.invalid [nullHolidayIssue]), nullHolidayWorld) ∧
      exec (Rule.loadSettings "ws_1") nullHolidayWorld =
        (.error (.badValue "Stored automation settings for ws_1 are invalid"), nullHolidayWorld) ∧
      exec (Server.writeSettings "ws_1" nullHolidayRequest) nullHolidayWorld =
        (.ok (.detail 422 (.list [nullHolidayIssue.toValue])), nullHolidayWorld) := by
  have hread : Settings.read (.dict nullHoliday) = .error (.invalid [nullHolidayIssue]) := rfl
  -- the kernel reads the body; values have no decidable equality, so keys and kinds are compared
  have hbody : Server.settingsBody nullHolidayRequest = .ok nullHoliday := by
    have h : (Server.settingsBody nullHolidayRequest).toOption.map
        (·.map fun e => (e.1, e.2.kindName)) = some [("holidayMode", "NoneType")] := by
      decide +kernel
    cases hb : Server.settingsBody nullHolidayRequest with
    | error e => simp [hb, Except.toOption] at h
    | ok kvs =>
      simp only [hb, Except.toOption, Option.map_some, Option.some.injEq,
        List.map_eq_singleton_iff, Prod.mk.injEq] at h
      obtain ⟨⟨k, v⟩, rfl, rfl, hv⟩ := h
      rw [Value.eq_null_of_kindName (v := v) hv]
      rfl
  obtain ⟨-, hsave, hload, hwrite⟩ := invalid_settings_reported (.dict nullHoliday)
  exact ⟨hsave _ _ _ hread, hload _ _ _ (by simp) rfl hread,
    (hwrite _ _ _ _ rfl hbody rfl).1 _ hread⟩

/-- Checking a numbered rule entry as a mapping fails for its kind. -/
theorem numberEntry_refused_by_kind :
    Settings.read (.dict [("automationRules", .dict [("r1", .int 5)])]) =
      .error (.badKind "'int' object is not iterable") := by
  rfl

end Autoresponder
