import Autoresponder.Proofs.SettingsDocument
import Autoresponder.Rule.Hours

/-!
# Working hours on the clock

A day's window is kept as two texts `HH:MM`, and the current time is compared with them as
text. Main statement: `working_hours_by_clock`. For checked settings whose times read as an
hour of at most two digits and a minute below sixty, the comparison of texts is the comparison
of minutes since midnight, so the working-hours test is the documented one: no holiday, the
weekday's first schedule entry open, and the current minute of the day inside the window,
both ends included. It answers whenever the wall-clock time can be found.

Two clock texts of two-digit runs compare as `100 · hour + minute` (`clock_lt_clock`), which
is `60 · hour + minute` once the minutes stay below sixty. A minute of sixty or more, or an
hour of three digits, breaks this: `"100:00"` sorts before `"12:00"` (`hundredHour_opens_at_noon`).
-/

namespace Autoresponder

open Autoresponder.Text Autoresponder.Time

/-! ## Clock texts -/

namespace DayHours

theorem digitChar_lt_iff : ∀ a < 10, ∀ b < 10, (Nat.digitChar a < Nat.digitChar b ↔ a < b) := by
  decide

theorem digitChar_inj : ∀ a < 10, ∀ b < 10, (Nat.digitChar a = Nat.digitChar b ↔ a = b) := by
  decide

theorem toDigits_of_lt_hundred {n : Nat} (h : 10 ≤ n) (h' : n < 100) :
    Nat.toDigits 10 n = [Nat.digitChar (n / 10), Nat.digitChar (n % 10)] := by
  have hsplit := Nat.toDigits_append_toDigits (b := 10) (n := n / 10) (d := n % 10)
    (by decide) (by omega) (Nat.mod_lt _ (by decide))
  rw [Nat.toDigits_of_lt_base (by omega), Nat.toDigits_of_lt_base (Nat.mod_lt _ (by decide)),
    Nat.div_add_mod] at hsplit
  exact hsplit.symm

theorem toList_twoDigits {n : Nat} (h : n < 100) :
    (twoDigits n).toList = [Nat.digitChar (n / 10), Nat.digitChar (n % 10)] := by
  unfold twoDigits Number.natText
  split
  · rw [Nat.toDigits_of_lt_base (by omega), Nat.div_eq_of_lt (by omega), Nat.mod_eq_of_lt (by omega)]
    simp [Nat.digitChar]
  · simp [toDigits_of_lt_hundred (by omega) h]

/-- Two clock texts of two-digit runs compare as their hours and minutes do, hours first. -/
theorem clock_lt_clock {h m h' m' : Nat} (hh : h < 100) (hm : m < 100) (hh' : h' < 100)
    (hm' : m' < 100) : clock h m < clock h' m' ↔ 100 * h + m < 100 * h' + m' := by
  have h1 := digitChar_lt_iff (h / 10) (by omega) (h' / 10) (by omega)
  have h2 := digitChar_lt_iff (h % 10) (by omega) (h' % 10) (by omega)
  have h3 := digitChar_lt_iff (m / 10) (by omega) (m' / 10) (by omega)
  have h4 := digitChar_lt_iff (m % 10) (by omega) (m' % 10) (by omega)
  have e1 := digitChar_inj (h / 10) (by omega) (h' / 10) (by omega)
  have e2 := digitChar_inj (h % 10) (by omega) (h' % 10) (by omega)
  have e3 := digitChar_inj (m / 10) (by omega) (m' / 10) (by omega)
  rw [String.lt_iff, toList_clock, toList_clock, toList_twoDigits hh, toList_twoDigits hm,
    toList_twoDigits hh', toList_twoDigits hm']
  simp only [List.cons_append, List.nil_append, List.cons_lt_cons_iff, h1, h2, h3, h4, e1, e2,
    e3, lt_self_iff_false, true_and, false_or, and_false, or_false]
  omega

theorem clock_le_clock {h m h' m' : Nat} (hh : h < 100) (hm : m < 100) (hh' : h' < 100)
    (hm' : m' < 100) : clock h m ≤ clock h' m' ↔ 100 * h + m ≤ 100 * h' + m' := by
  show ¬ clock h' m' < clock h m ↔ _
  rw [clock_lt_clock hh' hm' hh hm]
  omega

end DayHours

/-- The hour and minute fields of a time `HH:MM`. -/
def clockFields (s : String) : Option (Nat × Nat) :=
  match pieces ':' s with
  | [h, m] => (DayHours.decimalNumber? h.toList).bind fun hv =>
    (DayHours.decimalNumber? m.toList).map (hv, ·)
  | _ => none

/-- Minutes since midnight of a time `HH:MM`: sixty to the hour, and the minutes. -/
def clockMinutes (s : String) : Option Nat := (clockFields s).map fun (h, m) => 60 * h + m

theorem clockFields_clock (h m : Nat) : clockFields (DayHours.clock h m) = some (h, m) := by
  simp [clockFields, DayHours.pieces_clock, DayHours.decimalNumber?_twoDigits]

/-! ## The wall clock -/

namespace Time.Stamp

/-- Minutes since midnight of the wall time. -/
def minuteOfDay (t : Stamp) : Nat := 60 * t.clock.1 + t.clock.2.1

theorem ofWall_micro_lt (w : Int) (o : Option Int) : (ofWall w o).micro < microsPerDay := by
  have hlt := Int.emod_lt_of_pos w (show (0 : Int) < microsPerDay by decide)
  have hnn := Int.emod_nonneg w (show (microsPerDay : Int) ≠ 0 by decide)
  simp only [ofWall]
  omega

theorem inZone_micro_lt {s t : Stamp} {z : Zone} (h : s.inZone z = .ok t) :
    t.micro < microsPerDay := by
  unfold inZone at h
  simp only [bind, Except.bind] at h
  split at h
  · cases h
  · split at h
    · cases h
    · cases h
      exact ofWall_micro_lt _ _

theorem pad_two {n : Nat} (h : n < 100) : pad 2 n = DayHours.twoDigits n := by
  apply String.ext
  rw [DayHours.toList_twoDigits h]
  unfold pad
  by_cases hn : n < 10
  · rw [Nat.toDigits_of_lt_base hn, Nat.div_eq_of_lt hn, Nat.mod_eq_of_lt hn]
    simp [Nat.digitChar]
  · simp [DayHours.toDigits_of_lt_hundred (by omega) h]

/-- A time of day is written `HH:MM` as a clock text of its hour and minute. -/
theorem hourMinute_eq_clock {t : Stamp} (ht : t.micro < microsPerDay) :
    t.hourMinute = DayHours.clock t.clock.1 t.clock.2.1 ∧ t.clock.1 < 24 ∧ t.clock.2.1 < 60 := by
  have hday : microsPerDay = 86400000000 := rfl
  have hh : t.micro / 1000000 / 3600 < 24 := by omega
  have hm : t.micro / 1000000 / 60 % 60 < 60 := Nat.mod_lt _ (by decide)
  refine ⟨?_, hh, hm⟩
  simp only [hourMinute, clock, DayHours.clock, pad_two (show t.micro / 1000000 / 3600 < 100 by omega),
    pad_two (show t.micro / 1000000 / 60 % 60 < 100 by omega)]

end Time.Stamp

namespace Hours

theorem localNow_micro_lt {zone : Option String} {now : Option Stamp} {clock t : Stamp}
    (hnow : ∀ n ∈ now, n.micro < microsPerDay) (h : localNow zone now clock = .ok t) :
    t.micro < microsPerDay := by
  unfold localNow at h
  split at h
  · simp only [bind, Except.bind] at h
    split at h
    · cases h
    · cases now with
      | none =>
        simp only [Except.mapError] at h
        split at h
        · cases h
        · cases h; exact Stamp.inZone_micro_lt ‹_›
      | some n =>
        simp only at h
        split at h
        · simp only [Except.mapError] at h
          split at h
          · cases h
          · cases h; exact Stamp.inZone_micro_lt ‹_›
        · cases h
          exact hnow n rfl
  · cases now with
    | none => cases h; exact Stamp.ofWall_micro_lt _ _
    | some n =>
      simp only at h
      cases h
      split
      · exact Stamp.ofWall_micro_lt _ _
      · exact hnow n rfl

/-- The documented condition at the wall-clock time `t`: no holiday; the first schedule entry
named as `t`'s weekday, ignoring case and outer blank space, is open; and `t`'s minute of the
day lies between the minutes of the opening and the closing time, both included. -/
def OpenAt (s : Settings) (t : Stamp) : Prop :=
  s.holidayMode = false ∧
  ∃ d, s.workingHours.find? (fun d => lower (trim d.day) == lower (weekdayNames.getD t.weekday "")) =
      some d ∧ d.isOpen = true ∧
    ∃ a b, clockMinutes d.startTime = some a ∧ clockMinutes d.endTime = some b ∧
      a ≤ t.minuteOfDay ∧ t.minuteOfDay ≤ b

end Hours

namespace DayHours

/-- Whether both times of the window read as an hour of at most two digits and a minute below
sixty. -/
def onClock (d : DayHours) : Bool :=
  [d.startTime, d.endTime].all fun t => (clockFields t).all fun (h, m) => h < 100 && m < 60

theorem eq_clock_of_padTime {t : String} (h : padTime t = .ok t) : ∃ hv mv, t = clock hv mv := by
  rcases padTime_cases t with ⟨hv, mv, ht⟩ | ⟨e, ht⟩
  · rw [ht] at h
    cases h
    exact ⟨hv, mv, rfl⟩
  · rw [ht] at h
    cases h

/-- On a day whose times are normal and on the clock, the window test on texts is the test on
minutes since midnight. -/
theorem window_iff {d : DayHours} (hd : d.Padded) (hc : d.onClock = true) {h m : Nat}
    (hh : h < 24) (hm : m < 60) :
    (decide (d.startTime ≤ clock h m) && decide (clock h m ≤ d.endTime)) = true ↔
      ∃ a b, clockMinutes d.startTime = some a ∧ clockMinutes d.endTime = some b ∧
        a ≤ 60 * h + m ∧ 60 * h + m ≤ b := by
  obtain ⟨H, M, hs⟩ := eq_clock_of_padTime hd.1
  obtain ⟨H', M', he⟩ := eq_clock_of_padTime hd.2
  have hbounds : (H < 100 ∧ M < 60) ∧ H' < 100 ∧ M' < 60 := by
    simpa [onClock, hs, he, clockFields_clock] using hc
  obtain ⟨⟨hH, hM⟩, hH', hM'⟩ := hbounds
  rw [hs, he, Bool.and_eq_true, decide_eq_true_iff, decide_eq_true_iff,
    clock_le_clock hH (by omega) (by omega) (by omega),
    clock_le_clock (by omega) (by omega) hH' (by omega)]
  simp only [clockMinutes, clockFields_clock, Option.map_some, Option.some.injEq, exists_and_left,
    exists_eq_left']
  omega

end DayHours

namespace Hours

/-- Once the wall-clock time is found, the working-hours test answers, and it answers true
exactly when the documented condition holds there. -/
theorem isWorking_of_localNow {s : Settings} {zone : Option String} {now : Option Stamp}
    {clock t : Stamp} (hpad : ∀ d ∈ s.workingHours, d.Padded)
    (hclock : ∀ d ∈ s.workingHours, d.onClock = true) (ht : t.micro < microsPerDay)
    (hhol : s.holidayMode = false) (hl : localNow zone now clock = .ok t) :
    ∃ b, isWorking s zone now clock = .ok b ∧ (b = true ↔ OpenAt s t) := by
  obtain ⟨hwall, hhour, hminute⟩ := Stamp.hourMinute_eq_clock ht
  unfold isWorking OpenAt
  simp only [hhol, Bool.false_eq_true, if_false, hl, bind, Except.bind, true_and]
  cases hsch : scheduleFor s (weekdayNames.getD t.weekday "") with
  | none =>
    refine ⟨false, rfl, ?_⟩
    constructor
    · intro h
      cases h
    · rintro ⟨d, hfind, -⟩
      exact absurd (hsch.symm.trans hfind) (by simp)
  | some d =>
    have hd : d ∈ s.workingHours := List.mem_of_find?_eq_some hsch
    have hfind : ∀ d', scheduleFor s (weekdayNames.getD t.weekday "") = some d' ↔ d' = d := by
      intro d'
      rw [hsch, Option.some.injEq, eq_comm]
    dsimp only
    cases ho : d.isOpen with
    | false =>
      refine ⟨false, rfl, ?_⟩
      constructor
      · intro h
        cases h
      · rintro ⟨d', hd', hopen, -⟩
        rw [(hfind d').1 hd', ho] at hopen
        cases hopen
    | true =>
      refine ⟨_, rfl, ?_⟩
      rw [hwall, DayHours.window_iff (hpad d hd) (hclock d hd) hhour hminute]
      constructor
      · intro hwin
        exact ⟨d, hsch, ho, hwin⟩
      · rintro ⟨d', hd', -, hwin⟩
        rwa [(hfind d').1 hd'] at hwin

end Hours

/-- For checked settings whose times read as an hour of at most two digits and a minute below
sixty, the working-hours test is true exactly when the wall-clock time is found and the
documented condition holds there, and false exactly on holiday or when the time is found and
the condition fails: it fails only when the wall-clock time cannot be found. -/
theorem working_hours_by_clock {v : Value} {s : Settings} (hv : Settings.read v = .ok s)
    (hclock : ∀ d ∈ s.workingHours, d.onClock = true) (zone : Option String)
    (now : Option Stamp) (clock : Stamp) (hnow : ∀ n ∈ now, n.micro < microsPerDay) :
    (Hours.isWorking s zone now clock = .ok true ↔
      ∃ t, Hours.localNow zone now clock = .ok t ∧ Hours.OpenAt s t) ∧
    (Hours.isWorking s zone now clock = .ok false ↔
      s.holidayMode = true ∨ ∃ t, Hours.localNow zone now clock = .ok t ∧ ¬ Hours.OpenAt s t) := by
  have hpad := Settings.read_padded hv
  cases hhol : s.holidayMode with
  | true =>
    have hclosed : Hours.isWorking s zone now clock = .ok false := by simp [Hours.isWorking, hhol]
    simp [hclosed, Hours.OpenAt, hhol]
  | false =>
    cases hl : Hours.localNow zone now clock with
    | error f =>
      have hfails : Hours.isWorking s zone now clock = .error f := by
        simp [Hours.isWorking, hhol, hl, bind, Except.bind]
      simp [hfails]
    | ok t =>
      have ht := Hours.localNow_micro_lt hnow hl
      obtain ⟨b, hb, hiff⟩ := Hours.isWorking_of_localNow hpad hclock ht hhol hl
      rw [hb]
      cases b with
      | true => simp [← hiff]
      | false => simp [← hiff]

/-- A schedule open on Mondays from nine to five. -/
def mondayHours : Settings := { workingHours := [{ day := "Monday", isOpen := true }] }

/-- Noon on Monday 19 October 2026, at UTC. -/
def mondayNoon : Stamp := ⟨20745, 43200000000, some 0⟩

theorem mondayHours_checked : Settings.read mondayHours.toDocument = .ok mondayHours := by
  apply Settings.read_toDocument
  simp [mondayHours, DayHours.Padded, DayHours.padTime_opening, DayHours.padTime_closing]

theorem mondayHours_by_clock :
    Settings.read mondayHours.toDocument = .ok mondayHours ∧
    (∀ d ∈ mondayHours.workingHours, d.onClock = true) ∧
    (∀ n ∈ some mondayNoon, n.micro < microsPerDay) ∧
    Hours.isWorking mondayHours none (some mondayNoon) mondayNoon = .ok true ∧
    (Hours.isWorking mondayHours none (some mondayNoon) mondayNoon = .ok true ↔
      ∃ t, Hours.localNow none (some mondayNoon) mondayNoon = .ok t ∧ Hours.OpenAt mondayHours t) := by
  have hclock : ∀ d ∈ mondayHours.workingHours, d.onClock = true := by decide +kernel
  have hnow : ∀ n ∈ some mondayNoon, n.micro < microsPerDay := by decide
  refine ⟨mondayHours_checked, hclock, hnow, Except.eq_ok_of_toOption (by decide +kernel),
    (working_hours_by_clock mondayHours_checked hclock none (some mondayNoon) mondayNoon hnow).1⟩

/-- A Monday window opening at `100:00`: the hour has three digits. -/
def hundredHour : Settings :=
  { workingHours := [{ day := "Monday", isOpen := true, startTime := "100:00", endTime := "23:59" }] }

/-- Checked settings whose window opens at hour 100 count noon as working time: as text,
`"100:00"` sorts before `"12:00"`, though 6000 minutes come after 720. -/
theorem hundredHour_opens_at_noon :
    Settings.read hundredHour.toDocument = .ok hundredHour ∧
    Hours.isWorking hundredHour none (some mondayNoon) mondayNoon = .ok true ∧
    ¬ ∃ t, Hours.localNow none (some mondayNoon) mondayNoon = .ok t ∧ Hours.OpenAt hundredHour t := by
  have hstart : "100:00" = DayHours.clock 100 0 := by decide
  have hend : "23:59" = DayHours.clock 23 59 := by decide
  have hread : Settings.read hundredHour.toDocument = .ok hundredHour := by
    apply Settings.read_toDocument
    simp only [hundredHour, List.mem_singleton, forall_eq, DayHours.Padded, hstart, hend]
    exact ⟨DayHours.padTime_clock 100 0, DayHours.padTime_clock 23 59⟩
  refine ⟨hread, Except.eq_ok_of_toOption (by decide +kernel), ?_⟩
  rintro ⟨t, hl, -, d, hfind, -, a, b, ha, -, hle, -⟩
  have ht : t = mondayNoon := by
    have hnoon : Hours.localNow none (some mondayNoon) mondayNoon = .ok mondayNoon := rfl
    rw [hnoon] at hl
    cases hl
    rfl
  have hd : d ∈ hundredHour.workingHours := List.mem_of_find?_eq_some hfind
  simp only [hundredHour, List.mem_singleton] at hd
  rw [hd, hstart, clockMinutes, clockFields_clock, Option.map_some, Option.some.injEq] at ha
  rw [ht, ← ha] at hle
  have hnoonMinute : mondayNoon.minuteOfDay = 720 := by decide
  dsimp only at hle
  omega

end Autoresponder
