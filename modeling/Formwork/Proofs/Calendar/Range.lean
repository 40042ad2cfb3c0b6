import Formwork.Calendar.Date
import Mathlib.Order.Monotone.Basic
import Mathlib.Tactic.IntervalCases

/-! # The range of the calendar

Which days, and which seconds, the calendar has: exactly those from the first of January
of its first year to the end of its last (`Date.ofDays?_isSome_iff`,
`DateTime.ofUnix?_isSome_iff`). Years are counted in eras of 400 years that begin in
March. The year of a day comes out of one division; that the division is right is checked
at both ends of each year of an era, and holds in between because it never decreases.
-/

namespace Formwork

namespace Calendar

/-! ## The years of an era -/

/-- The day of an era on which a year begins. -/
def yearStart (year : Int) : Int := 365 * year + year / 4 - year / 100

/-- The year of an era in which a day lies. -/
def yearOfDay (day : Int) : Int := (day - day / 1460 + day / 36524 - day / 146096) / 365

theorem yearOfDay_le_succ (day : Nat) : yearOfDay day ≤ yearOfDay (day + 1 : Nat) := by
  have h : (day : Int) - day / 1460 + day / 36524 - day / 146096 ≤
      (day + 1 : Nat) - (day + 1 : Nat) / 1460 + (day + 1 : Nat) / 36524 -
        (day + 1 : Nat) / 146096 := by
    omega
  exact Int.ediv_le_ediv (by decide) h

theorem yearOfDay_mono {a b : Int} (ha : 0 ≤ a) (h : a ≤ b) : yearOfDay a ≤ yearOfDay b := by
  have hm : Monotone fun day : Nat => yearOfDay day := monotone_nat_of_le_succ yearOfDay_le_succ
  have hn := hm (Int.toNat_le_toNat h)
  simpa [Int.toNat_of_nonneg, ha, ha.trans h] using hn

theorem yearOfDay_ends : ∀ year < 400, yearOfDay (yearStart (year : Nat)) = year ∧
    (0 < year → yearOfDay (yearStart (year : Nat) - 1) = (year : Int) - 1) := by
  decide +kernel

/-- The day lies in its year. The last day of an era is the leap day of its last year. -/
theorem yearOfDay_spec {day : Int} (h₀ : 0 ≤ day) (h₁ : day ≤ 146096) :
    ∃ year : Nat, year < 400 ∧ yearOfDay day = year ∧ yearStart year ≤ day ∧
      (day < yearStart (year + 1) ∨ day = 146096 ∧ year = 399) := by
  obtain ⟨year, hy⟩ : ∃ year : Nat, yearOfDay day = year :=
    Int.eq_ofNat_of_zero_le (by unfold yearOfDay; omega)
  have hlt : year < 400 := by
    have hday : yearOfDay day < 400 := by unfold yearOfDay; omega
    omega
  refine ⟨year, hlt, hy, ?_, ?_⟩
  · by_contra hday
    have hpos : 0 < year := by
      rcases Nat.eq_zero_or_pos year with rfl | hpos
      · exact absurd h₀ (by simpa [yearStart] using hday)
      · exact hpos
    -- the day before the year begins is at the end of the year before
    have hle := yearOfDay_mono h₀ (show day ≤ yearStart year - 1 by omega)
    rw [(yearOfDay_ends year hlt).2 hpos] at hle
    omega
  · by_contra hday
    have hstart : yearStart (year + 1) ≤ day := by omega
    have hnext : year + 1 < 400 := by
      unfold yearStart at hstart
      omega
    have hle := yearOfDay_mono (by unfold yearStart; omega) hstart
    have hend := (yearOfDay_ends (year + 1) hnext).1
    push_cast at hend
    rw [hend, hy] at hle
    omega

/-- A year has 365 days, and one more if it ends in a leap year. -/
theorem dayOfYear_bounds {day : Int} (h₀ : 0 ≤ day) (h₁ : day ≤ 146096) :
    0 ≤ day - yearStart (yearOfDay day) ∧ day - yearStart (yearOfDay day) ≤ 365 ∧
      (day - yearStart (yearOfDay day) = 365 →
        ∀ era : Int, isLeap (yearOfDay day + era * 400 + 1) = true) := by
  obtain ⟨year, hlt, hy, hstart, hend⟩ := yearOfDay_spec h₀ h₁
  rw [hy]
  unfold yearStart at *
  refine ⟨by omega, by omega, fun hlast era => ?_⟩
  have hfour : (year + 1 : Int) % 4 = 0 := by
    by_contra h
    have hquarter : (year + 1 : Int) / 4 = year / 4 := by omega
    omega
  have hhundred : (year + 1 : Int) % 100 ≠ 0 ∨ year = 399 := by
    by_contra h
    have hcentury : (year + 1 : Int) / 100 = year / 100 + 1 := by omega
    omega
  have hleap : (year + era * 400 + 1 : Int) % 4 = 0 ∧
      ((year + era * 400 + 1 : Int) % 100 ≠ 0 ∨ (year + era * 400 + 1 : Int) % 400 = 0) := by
    clear hstart hend hlast hy
    omega
  simpa [isLeap] using hleap

/-! ## The months of a year -/

/-- The month and the day of the month of a day of a year that begins in March. -/
theorem monthOfDay_bounds {day month : Int} (hm : month = (5 * day + 2) / 153) (h₀ : 0 ≤ day)
    (h₁ : day ≤ 365) {year : Int} (hleap : day = 365 → isLeap year = true) :
    1 ≤ (if month < 10 then month + 3 else month - 9).toNat ∧
      (if month < 10 then month + 3 else month - 9).toNat ≤ 12 ∧
      1 ≤ (day - (153 * month + 2) / 5 + 1).toNat ∧
      (day - (153 * month + 2) / 5 + 1).toNat ≤
        daysInMonth year (if month < 10 then month + 3 else month - 9).toNat := by
  have hm₀ : 0 ≤ month := by omega
  have hm₁ : month ≤ 11 := by omega
  have hday : 153 * month ≤ 5 * day + 2 ∧ 5 * day + 2 < 153 * month + 153 := by omega
  clear hm
  interval_cases month
  case «11» =>
    -- February, the only month whose length depends on the year
    by_cases hl : day = 365
    · simp [daysInMonth, hleap hl, hl]
    · simp [daysInMonth]
      split <;> omega
  all_goals
    simp [daysInMonth]
    omega

/-! ## The first and the last day -/

/-- The first day of the calendar. -/
def firstDay : Int := -96465292

/-- The last day of the calendar. -/
def lastDay : Int := 95026236

/-- The first second of the calendar. -/
def firstSecond : Int := -8334601228800

/-- The last second of the calendar. -/
def lastSecond : Int := 8210266876799

theorem year_bounds {days era day : Int} {year : Nat}
    (hdays : days + 719468 = era * 146097 + day) (h₀ : 0 ≤ day) (h₁ : day ≤ 146096)
    (hlt : year < 400) (hstart : yearStart year ≤ day)
    (hend : day < yearStart (year + 1) ∨ day = 146096 ∧ year = 399) :
    (firstYear ≤ (if 306 ≤ day - yearStart year then year + era * 400 + 1
        else year + era * 400) ↔ firstDay ≤ days) ∧
      ((if 306 ≤ day - yearStart year then year + era * 400 + 1 else year + era * 400) ≤
        lastYear ↔ days ≤ lastDay) := by
  unfold yearStart firstYear lastYear firstDay lastDay at *
  -- the calendar begins in year 256 of one era and ends in year 142 of another
  have hera : era < -656 ∨ era = -656 ∨ -656 < era ∧ era < 655 ∨ era = 655 ∨ 655 < era := by omega
  have hyear : year < 142 ∨ year = 142 ∨ 142 < year ∧ year < 256 ∨ year = 256 ∨ 256 < year := by
    omega
  rcases hera with h | rfl | h | rfl | h
  · split <;> omega
  · rcases hyear with h | rfl | h | rfl | h
    all_goals split <;> omega
  · split <;> omega
  · rcases hyear with h | rfl | h | rfl | h
    all_goals split <;> omega
  · split <;> omega

end Calendar

open Calendar

theorem Date.ofParts?_isSome_iff {year : Int} {month day : Nat} :
    (ofParts? year month day).isSome = true ↔ IsDate year month day := by
  unfold ofParts?
  split <;> simp_all

theorem Date.ofDays?_eq {days era dayOfEra day month : Int} (hera : (days + 719468) / 146097 = era)
    (hdayOfEra : days + 719468 - era * 146097 = dayOfEra)
    (hday : dayOfEra - yearStart (yearOfDay dayOfEra) = day)
    (hmonth : (5 * day + 2) / 153 = month) :
    ofDays? days = ofParts?
      (if (if month < 10 then month + 3 else month - 9) ≤ 2 then yearOfDay dayOfEra + era * 400 + 1
        else yearOfDay dayOfEra + era * 400)
      (if month < 10 then month + 3 else month - 9).toNat
      (day - (153 * month + 2) / 5 + 1).toNat := by
  subst hera hdayOfEra hday hmonth
  rfl

/-- The calendar has every day from its first to its last. -/
theorem Date.ofDays?_isSome_iff (days : Int) :
    (ofDays? days).isSome = true ↔ firstDay ≤ days ∧ days ≤ lastDay := by
  obtain ⟨era, hera⟩ : ∃ era, era = (days + 719468) / 146097 := ⟨_, rfl⟩
  obtain ⟨day, hday⟩ : ∃ day, day = days + 719468 - era * 146097 := ⟨_, rfl⟩
  have h₀ : 0 ≤ day := by omega
  have h₁ : day ≤ 146096 := by omega
  obtain ⟨hfirst, hlast, hleap⟩ := dayOfYear_bounds h₀ h₁
  obtain ⟨year, hlt, hy, hstart, hend⟩ := yearOfDay_spec h₀ h₁
  obtain ⟨month, hmonth⟩ : ∃ month, month = (5 * (day - yearStart (yearOfDay day)) + 2) / 153 :=
    ⟨_, rfl⟩
  have hparts := ofDays?_eq hera.symm hday.symm rfl hmonth.symm
  -- January is the eleventh month from March
  have hjanuary : ((if month < 10 then month + 3 else month - 9) ≤ 2) =
      (306 ≤ day - yearStart (yearOfDay day)) := by
    apply propext
    split <;> omega
  have hends : day - yearStart (yearOfDay day) = 365 →
      isLeap (if 306 ≤ day - yearStart (yearOfDay day) then yearOfDay day + era * 400 + 1
        else yearOfDay day + era * 400) = true := by
    intro h
    rw [h]
    exact hleap h era
  have hdate := monthOfDay_bounds hmonth hfirst hlast hends
  have hyear := year_bounds (show days + 719468 = era * 146097 + day by omega) h₀ h₁ hlt hstart hend
  rw [← hy] at hyear
  simp only [hjanuary] at hparts
  rw [hparts, ofParts?_isSome_iff, ← hyear.1, ← hyear.2]
  exact ⟨fun h => ⟨h.1, h.2.1⟩, fun h => ⟨h.1, h.2, hdate⟩⟩

/-- The calendar has every second from the first of its first day to the last of its last. -/
theorem DateTime.ofUnix?_isSome_iff (seconds : Int) :
    (ofUnix? seconds).isSome = true ↔ firstSecond ≤ seconds ∧ seconds ≤ lastSecond := by
  unfold ofUnix?
  rw [Option.isSome_map, Date.ofDays?_isSome_iff]
  unfold firstDay lastDay firstSecond lastSecond
  omega

end Formwork
