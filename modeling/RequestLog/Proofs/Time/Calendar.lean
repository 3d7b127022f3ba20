import Mathlib.Tactic.IntervalCases
import RequestLog.Time.Civil

/-!
The calendar. The number of days that a date has is that of the years before it, of the months of
its year before it and of the days of its month; the date of a number of days is the one valid date
that has it, and later days have later dates.
-/
namespace RequestLog.Time

variable {day : Nat} {d e : Date}

attribute [ext] Date

theorem isLeapYear_iff {year : Int} :
    isLeapYear year = true ↔ year % 4 = 0 ∧ (year % 100 ≠ 0 ∨ year % 400 = 0) := by
  simp [isLeapYear]

section Cycles

/-- Whether a day belongs to a year of a cycle, both counted from 0. The last day of the year,
which begins in March, is there if the civil year in which it ends is a leap year. -/
def InYear (year dayOfYear : Nat) : Prop :=
  dayOfYear ≤ 364 ∨ dayOfYear = 365 ∧ isLeapYear (year + 1) = true

theorem InYear.le {year dayOfYear : Nat} (h : InYear year dayOfYear) : dayOfYear ≤ 365 := by
  unfold InYear at h
  omega

/-- A year of a cycle as a century, four years of it and one year of these. -/
theorem yearStart_eq {c q r : Nat} (hq : q < 25) (hr : r < 4) :
    yearStart (100 * c + 4 * q + r) = 36524 * c + 1461 * q + 365 * r := by
  unfold yearStart
  omega

theorem yearOfCycle_yearStart {year dayOfYear : Nat} (hy : year < 400)
    (h : InYear year dayOfYear) :
    yearOfCycle (yearStart year + dayOfYear) = year := by
  obtain ⟨c, q, r, hc, hq, hr, rfl⟩ :
      ∃ c q r, c < 4 ∧ q < 25 ∧ r < 4 ∧ year = 100 * c + 4 * q + r :=
    ⟨year / 100, year % 100 / 4, year % 4, by omega, by omega, by omega, by omega⟩
  rw [InYear, isLeapYear_iff] at h
  rw [yearStart_eq hq hr, yearOfCycle]
  -- a leap day ends its four years, and its century only if that is the last one of the cycle
  have hleap : dayOfYear ≤ 364 ∨ dayOfYear = 365 ∧ r = 3 ∧ (q < 24 ∨ c = 3) := by omega
  clear h
  generalize hday : 36524 * c + 1461 * q + 365 * r + dayOfYear = day
  have hcentury : 1461 * q + 365 * r + dayOfYear < 36524 ∨ day = 146096 ∧ c = 3 := by omega
  have hcenturies : day / 36524 = c + day / 146096 := by omega
  have hquads : day / 1460 = 25 * c + q ∧ dayOfYear ≤ 364 ∨
      day / 1460 = 25 * c + q + 1 ∧ 1 ≤ dayOfYear := by omega
  omega

/-- Every day of a cycle belongs to a year of it. -/
theorem exists_yearStart (h : day < 146097) :
    ∃ year dayOfYear, year < 400 ∧ InYear year dayOfYear ∧ day = yearStart year + dayOfYear := by
  obtain ⟨c, s, hc, hs, rfl⟩ :
      ∃ c s, c < 4 ∧ (s < 36524 ∨ s = 36524 ∧ c = 3) ∧ day = 36524 * c + s :=
    ⟨day / 36524 - day / 146096, day - 36524 * (day / 36524 - day / 146096),
      by omega, by omega, by omega⟩
  obtain ⟨q, u, hq, hu, rfl⟩ : ∃ q u, q < 25 ∧ u < 1461 ∧ s = 1461 * q + u :=
    ⟨s / 1461, s % 1461, by omega, by omega, by omega⟩
  obtain ⟨r, d, hr, hd, rfl⟩ : ∃ r d, r < 4 ∧ (d < 365 ∨ d = 365 ∧ r = 3) ∧ u = 365 * r + d :=
    ⟨u / 365 - u / 1460, u - 365 * (u / 365 - u / 1460), by omega, by omega, by omega⟩
  refine ⟨100 * c + 4 * q + r, d, by omega, ?_, ?_⟩
  · rw [InYear, isLeapYear_iff]
    omega
  · rw [yearStart_eq hq hr]
    omega

/-- The date of a day of a cycle by its year, its month and its day there, months being counted
from March. -/
theorem dateInCycle_cases (cycle : Int) (h : day < 146097) :
    ∃ year dayOfYear month, year < 400 ∧ InYear year dayOfYear ∧ month < 12 ∧
      monthStart month ≤ dayOfYear ∧ dayOfYear < monthStart (month + 1) ∧
      day = yearStart year + dayOfYear ∧
      (month < 10 ∧ dateInCycle cycle day =
          ⟨cycle * 400 + year, month + 3, dayOfYear - monthStart month + 1⟩ ∨
        10 ≤ month ∧ dateInCycle cycle day =
          ⟨cycle * 400 + year + 1, month - 9, dayOfYear - monthStart month + 1⟩) := by
  obtain ⟨year, dayOfYear, hy, hd, rfl⟩ := exists_yearStart h
  have hlast := hd.le
  refine ⟨year, dayOfYear, monthOfDay dayOfYear, hy, hd, ?_, ?_, ?_, rfl, ?_⟩
  · unfold monthOfDay
    omega
  · unfold monthStart monthOfDay
    omega
  · unfold monthStart monthOfDay
    omega
  · by_cases hm : monthOfDay dayOfYear < 10
    · exact .inl ⟨hm, by simp [dateInCycle, yearOfCycle_yearStart hy hd, hm]⟩
    · exact .inr ⟨by omega, by simp [dateInCycle, yearOfCycle_yearStart hy hd, hm]⟩

theorem toDays_dateInCycle (cycle : Int) (h : day < 146097) :
    (dateInCycle cycle day).toDays = cycle * cycleDays + day - epochOffset := by
  obtain ⟨year, dayOfYear, month, hy, -, hlast, hstart, -, rfl, hdate⟩ := dateInCycle_cases cycle h
  have hyear : (cycle * 400 + year) / 400 = cycle ∧ ((cycle * 400 + year) % 400).toNat = year := by
    omega
  rcases hdate with ⟨hm, hdate⟩ | ⟨hm, hdate⟩
  · have hlate : ¬ month + 3 ≤ 2 := by omega
    simp only [hdate, Date.toDays, if_neg hlate, hyear, Nat.add_sub_cancel, Int.ofNat_eq_natCast]
    omega
  · have hearly : month - 9 ≤ 2 := by omega
    have hmonth : month - 9 + 9 = month := by omega
    simp only [hdate, Date.toDays, if_pos hearly, hmonth, add_sub_cancel_right, hyear,
      Nat.add_sub_cancel, Int.ofNat_eq_natCast]
    omega

theorem valid_dateInCycle (cycle : Int) (h : day < 146097) : (dateInCycle cycle day).Valid := by
  obtain ⟨year, dayOfYear, month, hy, hd, hm, hstart, hend, -, hdate⟩ := dateInCycle_cases cycle h
  rcases hdate with ⟨hlate, hdate⟩ | ⟨hearly, hdate⟩
  · clear hd
    simp only [hdate, Date.Valid, monthLength]
    unfold monthStart at *
    interval_cases month <;> simp <;> omega
  · -- only February has a length that depends on the year
    have hleap : isLeapYear (cycle * 400 + year + 1) = isLeapYear (year + 1) := by
      rw [Bool.eq_iff_iff, isLeapYear_iff, isLeapYear_iff]
      omega
    simp only [hdate, Date.Valid, monthLength, hleap]
    unfold InYear at hd
    unfold monthStart at *
    interval_cases month
    · simp
      omega
    · cases hcase : isLeapYear (year + 1) <;> simp [hcase] at hd ⊢ <;> omega

end Cycles

theorem toDays_ofDays (days : Int) : (Date.ofDays days).toDays = days := by
  have hday : ((days + epochOffset) % cycleDays).toNat < 146097 := by
    unfold cycleDays
    omega
  rw [Date.ofDays, toDays_dateInCycle _ hday]
  unfold cycleDays
  omega

theorem valid_ofDays (days : Int) : (Date.ofDays days).Valid := by
  apply valid_dateInCycle
  unfold cycleDays
  omega

section Counting

def yearLength (year : Int) : Nat := if isLeapYear year then 366 else 365

/-- The number of days since 1 January 1970 with which a year begins. -/
def newYear (year : Int) : Int :=
  365 * (year - 1) + (year - 1) / 4 - (year - 1) / 100 + (year - 1) / 400 - 719162

/-- The days of a year before a month. -/
def daysBefore (year : Int) (month : Nat) : Nat :=
  ((List.range' 1 (month - 1)).map (monthLength year)).sum

theorem newYear_succ (year : Int) : newYear (year + 1) = newYear year + yearLength year := by
  have hleap : isLeapYear year = true ↔ year % 4 = 0 ∧ (year % 100 ≠ 0 ∨ year % 400 = 0) :=
    isLeapYear_iff
  unfold newYear yearLength
  cases h : isLeapYear year <;> simp [h] at hleap ⊢ <;> omega

theorem newYear_mono {year later : Int} (h : year ≤ later) : newYear year ≤ newYear later := by
  unfold newYear
  omega

theorem daysBefore_succ (year : Int) {month : Nat} (h : 1 ≤ month) :
    daysBefore year (month + 1) = daysBefore year month + monthLength year month := by
  obtain ⟨m, rfl⟩ := Nat.exists_eq_add_of_le' h
  simp [daysBefore, List.range'_concat, Nat.add_comm 1 m]

theorem daysBefore_lt (year : Int) {month later : Nat} (h : 1 ≤ month) (hl : month < later) :
    daysBefore year month + monthLength year month ≤ daysBefore year later := by
  induction later, hl using Nat.le_induction with
  | base => exact (daysBefore_succ year h).ge
  | succ later hl ih =>
    rw [daysBefore_succ year (by omega)]
    omega

theorem daysBefore_end (year : Int) : daysBefore year 13 = yearLength year := by
  simp [daysBefore, yearLength, List.range', monthLength]
  split <;> rfl

/-- The first two months end a year that began in March, and the others follow them. -/
theorem daysBefore_eq (year : Int) {month : Nat} (h : 1 ≤ month) (hl : month ≤ 12) :
    daysBefore year month + 306 =
      if month ≤ 2 then monthStart (month + 9) else yearLength year + monthStart (month - 3) := by
  interval_cases month <;> simp [daysBefore, yearLength, List.range', monthLength, monthStart] <;>
    split <;> rfl

/-- A year begins 306 days after the year that began in March before it. -/
theorem marchStart_eq (year : Int) :
    year / 400 * cycleDays + yearStart (year % 400).toNat - epochOffset + 306 = newYear
    (year + 1) := by
  unfold newYear yearStart cycleDays epochOffset
  omega

/-- The number of days of a date is that of the years before it, of the months before it in its
year and of the days before it in its month. -/
theorem toDays_eq (h : d.Valid) :
    d.toDays = newYear d.year + daysBefore d.year d.month + (d.day - 1) := by
  obtain ⟨hfirst, hlast, hday, -⟩ := h
  have hmonths := daysBefore_eq d.year hfirst hlast
  simp only [Date.toDays, Int.ofNat_eq_natCast]
  split_ifs at hmonths ⊢ with hm
  · have hmarch := marchStart_eq (d.year - 1)
    rw [sub_add_cancel] at hmarch
    omega
  · have hmarch := marchStart_eq d.year
    have hnext := newYear_succ d.year
    omega

/-- The days since 1 January 1970, counted by the lengths of the years and of the months. -/
def Date.dayCount (d : Date) : Int :=
  newYear d.year + daysBefore d.year d.month + (d.day - 1)

theorem dayCount_ofDays (days : Int) : (Date.ofDays days).dayCount = days := by
  rw [Date.dayCount, ← toDays_eq (valid_ofDays days), toDays_ofDays]

theorem Date.Valid.within (h : d.Valid) :
    newYear d.year ≤ d.toDays ∧ d.toDays < newYear (d.year + 1) := by
  have hdays := toDays_eq h
  have hnext := newYear_succ d.year
  have hend := daysBefore_end d.year
  obtain ⟨hfirst, hlast, hday, hlength⟩ := h
  have hmonth := daysBefore_lt d.year hfirst (show d.month < 13 by omega)
  omega

/-- Whether a date comes before another one, by its year, its month and its day in this order. -/
def Date.Before (d e : Date) : Prop :=
  d.year < e.year ∨ d.year = e.year ∧ (d.month < e.month ∨ d.month = e.month ∧ d.day < e.day)

/-- Earlier dates have fewer days. -/
theorem Date.Before.toDays_lt (h : d.Before e) (hd : d.Valid) (he : e.Valid) :
    d.toDays < e.toDays := by
  rcases h with hyear | ⟨hyear, hmonth | ⟨hmonth, hday⟩⟩
  · have := hd.within
    have := he.within
    have := newYear_mono (Int.add_one_le_of_lt hyear)
    omega
  · have hbefore := daysBefore_lt d.year hd.1 hmonth
    have hdays := toDays_eq hd
    have hdays' := toDays_eq he
    have := hd.2.2
    have := he.2.2
    rw [← hyear] at hdays'
    omega
  · have hdays := toDays_eq hd
    have hdays' := toDays_eq he
    have := hd.2.2
    rw [← hyear, ← hmonth] at hdays'
    omega

/-- The days of a year and of those after it are those from its beginning on. -/
theorem le_year_ofDays_iff (year days : Int) : year ≤ (Date.ofDays days).year ↔
    newYear year ≤ days := by
  have hwithin := (valid_ofDays days).within
  rw [toDays_ofDays] at hwithin
  constructor
  · intro h
    exact (newYear_mono h).trans hwithin.1
  · intro h
    by_contra hlt
    have := newYear_mono (Int.add_one_le_of_lt (not_le.mp hlt))
    omega

end Counting

end RequestLog.Time
