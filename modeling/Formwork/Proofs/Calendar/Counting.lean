import Formwork.Proofs.Calendar.Range

/-! # Counting days and seconds

A day of the calendar follows another exactly if its number is the next (`Date.follows_iff`): days
are counted through months and leap years, and with them the days of the week. A number belongs to
one day and a day to one number (`Date.ofDays?_eq_some_iff`); the same holds of seconds and the
moments of whole seconds (`DateTime.ofUnix?_eq_some_iff`).
-/

namespace Formwork

open Calendar

namespace Date

variable {d e : Date} {days : Int}

/-! ## Years that begin in March -/

/-- The year that begins in March and holds the day. -/
def marchYear (d : Date) : Int := if d.month ≤ 2 then d.year - 1 else d.year

/-- The month, counted from March. -/
def marchMonth (d : Date) : Int := if d.month > 2 then d.month - 3 else d.month + 9

/-- The day, counted from the first of March. -/
def marchDay (d : Date) : Int := (153 * d.marchMonth + 2) / 5 + d.day - 1

theorem toDays_eq (d : Date) :
    d.toDays = d.marchYear / 400 * 146097 +
      (yearStart (d.marchYear - d.marchYear / 400 * 400) + d.marchDay) - 719468 := by
  show d.marchYear / 400 * 146097 + ((d.marchYear - d.marchYear / 400 * 400) * 365 +
    (d.marchYear - d.marchYear / 400 * 400) / 4 - (d.marchYear - d.marchYear / 400 * 400) / 100 +
      d.marchDay) - 719468 = _
  unfold yearStart
  omega

theorem isLeap_iff (year : Int) :
    isLeap year = true ↔ year % 4 = 0 ∧ (year % 100 ≠ 0 ∨ year % 400 = 0) := by
  simp [isLeap]

/-- Only the leap day makes a year longer than 365 days. -/
theorem marchDay_bounds (d : Date) :
    0 ≤ d.marchDay ∧ d.marchDay ≤ 365 ∧ (5 * d.marchDay + 2) / 153 = d.marchMonth ∧
      (d.marchDay = 365 → isLeap (d.marchYear + 1) = true) := by
  obtain ⟨year, month, day, _, _, hm, hm', hd, hd'⟩ := d
  unfold marchDay marchMonth marchYear
  dsimp only
  interval_cases month
  case «2» =>
    cases hl : isLeap year <;> simp [daysInMonth, hl] at hd' ⊢ <;> omega
  all_goals
    simp [daysInMonth] at hd' ⊢
    omega

theorem month_of_march (d : Date) :
    (if d.marchMonth < 10 then d.marchMonth + 3 else d.marchMonth - 9) = d.month := by
  obtain ⟨_, _, hm, hm', _, _⟩ := d.isDate
  unfold marchMonth
  split <;> split <;> omega

theorem year_of_march (d : Date) :
    (if (d.month : Int) ≤ 2 then d.marchYear + 1 else d.marchYear) = d.year := by
  unfold marchYear
  split <;> split <;> omega

/-! ## Days and their numbers -/

theorem yearStart_mono {a b : Int} (h : a ≤ b) : yearStart a ≤ yearStart b := by
  have hcentury : b / 100 - a / 100 ≤ b - a := by omega
  unfold yearStart
  omega

theorem yearOfDay_eq {day : Int} {year : Nat} (hlt : year < 400) (hstart : yearStart year ≤ day)
    (hend : day < yearStart (year + 1) ∨ day ≤ 146096 ∧ year = 399) : yearOfDay day = year := by
  have h₀ : 0 ≤ day := by
    unfold yearStart at hstart
    omega
  have h₁ : day ≤ 146096 := by
    unfold yearStart at hend
    omega
  obtain ⟨other, holt, ho, hostart, hoend⟩ := yearOfDay_spec h₀ h₁
  rcases Nat.lt_trichotomy other year with hlt' | rfl | hlt'
  · have hle := yearStart_mono (show (other : Int) + 1 ≤ year by omega)
    omega
  · exact ho
  · have hle := yearStart_mono (show (year : Int) + 1 ≤ other by omega)
    omega

/-- The day of an era on which a day falls lies within the year that holds it. -/
theorem dayOfEra_bounds (d : Date) {year : Nat} (hlt : year < 400)
    (hy : d.marchYear = d.marchYear / 400 * 400 + year) :
    yearStart year + d.marchDay < yearStart (year + 1) ∨
      yearStart year + d.marchDay ≤ 146096 ∧ year = 399 := by
  obtain ⟨_, hday, _, hleap⟩ := d.marchDay_bounds
  by_cases hlast : d.marchDay = 365
  · have hl := (isLeap_iff _).1 (hleap hlast)
    unfold yearStart
    omega
  · unfold yearStart
    omega

/-- The number of a day leads back to it. -/
theorem ofDays?_toDays (d : Date) : ofDays? d.toDays = some d := by
  obtain ⟨hday₀, hday₁, hmonth, _⟩ := d.marchDay_bounds
  obtain ⟨year, hyear⟩ : ∃ year : Nat, d.marchYear - d.marchYear / 400 * 400 = year :=
    Int.eq_ofNat_of_zero_le (by omega)
  have hlt : year < 400 := by omega
  have hbounds := d.dayOfEra_bounds hlt (by omega)
  have hstart : 0 ≤ yearStart year := by
    unfold yearStart
    omega
  have hend : yearStart year + d.marchDay ≤ 146096 := by
    unfold yearStart at *
    omega
  have hdays := d.toDays_eq
  rw [hyear] at hdays
  have hera : (d.toDays + 719468) / 146097 = d.marchYear / 400 := by omega
  have hdayOfEra : d.toDays + 719468 - d.marchYear / 400 * 146097 =
      yearStart year + d.marchDay := by
    omega
  have hyearOfDay : yearOfDay (yearStart year + d.marchDay) = year :=
    yearOfDay_eq hlt (by omega) hbounds
  have hmarchDay : yearStart year + d.marchDay -
      yearStart (yearOfDay (yearStart year + d.marchDay)) = d.marchDay := by
    rw [hyearOfDay]
    omega
  rw [ofDays?_eq hera hdayOfEra hmarchDay hmonth, hyearOfDay]
  have hyears : (year : Int) + d.marchYear / 400 * 400 = d.marchYear := by omega
  have hday : d.marchDay - (153 * d.marchMonth + 2) / 5 + 1 = d.day := by
    unfold marchDay
    omega
  rw [d.month_of_march, hyears, d.year_of_march, hday, Int.toNat_natCast, Int.toNat_natCast]
  exact dif_pos d.isDate

theorem ofParts?_eq_some {year : Int} {month day : Nat} (h : ofParts? year month day = some d) :
    d.year = year ∧ d.month = month ∧ d.day = day := by
  unfold ofParts? at h
  split at h
  · cases h
    exact ⟨rfl, rfl, rfl⟩
  · cases h

/-- The day that a number leads to has that number. -/
theorem toDays_of_ofDays? (h : ofDays? days = some d) : d.toDays = days := by
  obtain ⟨era, hera⟩ : ∃ era, (days + 719468) / 146097 = era := ⟨_, rfl⟩
  obtain ⟨dayOfEra, hdayOfEra⟩ : ∃ dayOfEra, days + 719468 - era * 146097 = dayOfEra := ⟨_, rfl⟩
  obtain ⟨day, hday⟩ : ∃ day, dayOfEra - yearStart (yearOfDay dayOfEra) = day := ⟨_, rfl⟩
  obtain ⟨month, hmonth⟩ : ∃ month, (5 * day + 2) / 153 = month := ⟨_, rfl⟩
  have hdayOfEra₀ : 0 ≤ dayOfEra := by omega
  have hdayOfEra₁ : dayOfEra ≤ 146096 := by omega
  obtain ⟨hday₀, hday₁, _⟩ := dayOfYear_bounds hdayOfEra₀ hdayOfEra₁
  obtain ⟨year, hlt, hy, _⟩ := yearOfDay_spec hdayOfEra₀ hdayOfEra₁
  rw [ofDays?_eq hera hdayOfEra hday hmonth] at h
  obtain ⟨hyear, hmonthOf, hdayOf⟩ := ofParts?_eq_some h
  rw [hday] at hday₀ hday₁
  rw [hy] at hyear hday
  have hmarchMonth : d.marchMonth = month := by
    unfold marchMonth
    rw [hmonthOf]
    split at hmonthOf <;> split <;> omega
  have hmarchYear : d.marchYear = year + era * 400 := by
    have hback := d.year_of_march
    rw [hyear, hmonthOf] at hback
    split at hback <;> split at hback <;> omega
  have hmarchDay : d.marchDay = day := by
    unfold marchDay
    rw [hmarchMonth, hdayOf]
    omega
  have heraOf : d.marchYear / 400 = era := by omega
  have hyearOfEra : d.marchYear - era * 400 = year := by omega
  rw [d.toDays_eq, heraOf, hyearOfEra, hmarchDay]
  omega

theorem ofDays?_eq_some_iff : ofDays? days = some d ↔ d.toDays = days := by
  constructor
  · exact toDays_of_ofDays?
  · intro h
    rw [← h]
    exact ofDays?_toDays d

theorem toDays_inj : d.toDays = e.toDays ↔ d = e := by
  rw [← ofDays?_eq_some_iff, ofDays?_toDays, Option.some_inj, eq_comm]

/-! ## From day to day -/

/-- The day after another: the next of its month, or the first of the month after it. -/
inductive Follows (e d : Date) : Prop
  | inMonth (year : e.year = d.year) (month : e.month = d.month) (day : e.day = d.day + 1)
  | nextMonth (last : d.day = daysInMonth d.year d.month) (year : e.year = d.year)
      (month : e.month = d.month + 1) (day : e.day = 1)
  | nextYear (last : d.month = 12 ∧ d.day = daysInMonth d.year 12) (year : e.year = d.year + 1)
      (month : e.month = 1) (day : e.day = 1)

/-- A day's number, counted in years without eras. -/
theorem toDays_eq_years (d : Date) :
    d.toDays = 365 * d.marchYear + d.marchYear / 4 - d.marchYear / 100 + d.marchYear / 400 +
      d.marchDay - 719468 := by
  rw [toDays_eq]
  unfold yearStart
  omega

theorem toDays_of_follows (h : e.Follows d) : e.toDays = d.toDays + 1 := by
  rw [toDays_eq_years, toDays_eq_years]
  obtain ⟨_, _, hm, hm', hd, _⟩ := d.isDate
  cases h with
  | inMonth year month day =>
      unfold marchDay marchMonth marchYear
      rw [year, month, day]
      omega
  | nextMonth last year month day =>
      unfold marchDay marchMonth marchYear
      rw [year, month, day, last]
      have hleap := isLeap_iff d.year
      generalize d.month = m at *
      interval_cases m
      case «2» =>
        -- March begins a year, and follows the leap day if there is one
        cases hl : isLeap d.year
        all_goals
          simp [daysInMonth, hl] at hleap ⊢
          omega
      case «12» => exact absurd e.isDate.2.2.2.1 (by omega)
      all_goals
        simp [daysInMonth]
        omega
  | nextYear last year month day =>
      unfold marchDay marchMonth marchYear
      rw [year, month, day, last.1, last.2]
      simp [daysInMonth]
      omega

theorem toDays_le_lastDay (d : Date) : d.toDays ≤ lastDay :=
  ((ofDays?_isSome_iff _).1 (by rw [ofDays?_toDays]; rfl)).2

/-- Only the last day of the calendar is followed by none. -/
theorem exists_follows (h : d.toDays < lastDay) : ∃ e : Date, e.Follows d := by
  obtain ⟨hfirst, hlast, hm, hm', hd, hd'⟩ := d.isDate
  have hlen : ∀ year month, 1 ≤ daysInMonth year month := by
    intro year month
    unfold daysInMonth
    split
    · split <;> omega
    · split <;> omega
  by_cases hmonthEnd : d.day = daysInMonth d.year d.month
  · by_cases hyearEnd : d.month = 12
    · have hnext : d.year < lastYear := by
        by_contra hyear
        have heq : d.year = 262142 := by
          unfold lastYear at *
          omega
        rw [hyearEnd] at hmonthEnd
        have hday : d.day = 31 := hmonthEnd
        rw [toDays_eq_years] at h
        unfold marchDay marchMonth marchYear lastDay at h
        rw [heq, hyearEnd, hday] at h
        revert h
        decide
      refine ⟨⟨d.year + 1, 1, 1, ?_⟩, .nextYear ⟨hyearEnd, hyearEnd ▸ hmonthEnd⟩ rfl rfl rfl⟩
      exact ⟨by omega, by omega, by decide, by decide, by decide, hlen _ _⟩
    · refine ⟨⟨d.year, d.month + 1, 1, ?_⟩, .nextMonth hmonthEnd rfl rfl rfl⟩
      exact ⟨hfirst, hlast, by omega, by omega, by decide, hlen _ _⟩
  · refine ⟨⟨d.year, d.month, d.day + 1, ?_⟩, .inMonth rfl rfl rfl⟩
    exact ⟨hfirst, hlast, hm, hm', by omega, by omega⟩

/-- The days of the calendar have consecutive numbers. -/
theorem follows_iff : e.Follows d ↔ e.toDays = d.toDays + 1 := by
  constructor
  · exact toDays_of_follows
  · intro h
    have hle := e.toDays_le_lastDay
    obtain ⟨next, hnext⟩ := exists_follows (d := d) (by omega)
    have hsame : e = next := toDays_inj.1 (h.trans (toDays_of_follows hnext).symm)
    rw [hsame]
    exact hnext

/-- Days of the week go round. -/
theorem weekday_of_follows (h : e.Follows d) : e.weekday = (d.weekday + 1) % 7 := by
  have hdays := toDays_of_follows h
  unfold weekday
  omega

-- the count begins on a Thursday
example : (⟨1970, 1, 1, by decide⟩ : Date).toDays = 0 ∧
    weekdayNames.getD (⟨1970, 1, 1, by decide⟩ : Date).weekday "" = "Thu" := by
  decide

end Date

/-! ## Moments and their numbers -/

/-- The time of a clock that shows whole seconds. -/
structure TimeOfDay.IsWhole (t : TimeOfDay) : Prop where
  hour : t.hour < 24
  minute : t.minute < 60
  second : t.second < 60
  nanosecond : t.nanosecond = 0

namespace DateTime

/-- A number of seconds belongs to one moment of whole seconds, and the moment to it. -/
theorem ofUnix?_eq_some_iff {seconds : Int} {d : DateTime} :
    ofUnix? seconds = some d ↔ d.toUnix = seconds ∧ d.time.IsWhole := by
  obtain ⟨date, hour, minute, second, nanosecond⟩ := d
  rw [ofUnix?, Option.map_eq_some_iff]
  constructor
  · intro h
    obtain ⟨day, hday, htime⟩ := h
    rw [Date.ofDays?_eq_some_iff] at hday
    cases htime
    unfold toUnix
    refine ⟨?_, ?_, ?_, ?_, rfl⟩
    all_goals
      dsimp only
      omega
  · intro h
    obtain ⟨hunix, hhour, hminute, hsecond, hnano⟩ := h
    unfold toUnix at hunix
    dsimp only at *
    refine ⟨date, Date.ofDays?_eq_some_iff.2 (by omega), ?_⟩
    have hh : (seconds % 86400).toNat / 3600 = hour := by omega
    have hm : (seconds % 86400).toNat / 60 % 60 = minute := by omega
    have hs : (seconds % 86400).toNat % 60 = second := by omega
    rw [hh, hm, hs, hnano]

end DateTime

end Formwork
