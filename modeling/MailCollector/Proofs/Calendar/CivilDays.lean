import MailCollector.Proofs.Calendar.PlainYear

/-!
# Dates and day numbers

The date of a day number exists (`Date.exists_ofDays`), and it has this day number
(`Date.toDays_ofDays`).  Both follow from the place of the day in its era: the year within the era
and the day within the year, of which there is a 366th only at the end of February of a leap year.
-/

namespace MailCollector.Calendar

lemma Date.exists_iff {d : Date} :
    d.exists ↔ 1 ≤ d.day ∧ d.day ≤ daysInMonth d.year d.month := by
  rw [Date.exists, Bool.and_eq_true, decide_eq_true_eq, decide_eq_true_eq]

/-- No month counts more than twelve, and no day more than 31. -/
lemma Date.bounds_of_exists {d : Date} (h : d.exists) : d.month ≤ 12 ∧ d.day ≤ 31 := by
  obtain ⟨hday, hlength⟩ := Date.exists_iff.1 h
  have hfebruary : (if isLeapYear d.year then 29 else 28) ≤ 29 := by split <;> decide
  unfold daysInMonth at hlength
  split at hlength <;> omega

/-- A day is the 366th of its year only if the leap day ends this year.  Years begin in March, and
the era has 400 of them. -/
lemma leap_of_last_day {dayOfEra yearOfEra : Int} (h0 : 0 ≤ dayOfEra) (h1 : dayOfEra < 146097)
    (hyear : yearOfEra =
      (dayOfEra - dayOfEra / 1460 + dayOfEra / 36524 - dayOfEra / 146096) / 365)
    (hlast : dayOfEra = 365 * (yearOfEra + 1) + yearOfEra / 4 - yearOfEra / 100) :
    (yearOfEra + 1) % 4 = 0 ∧ ((yearOfEra + 1) % 100 ≠ 0 ∨ yearOfEra = 399) := by
  have hcentury := century_of_day h0 h1 hyear
  have hlow : 0 ≤ dayOfEra / 36524 := by omega
  have hhigh : dayOfEra / 36524 ≤ 4 := by omega
  have hfour : yearOfEra % 4 = 3 := by
    have hnonneg : 0 ≤ yearOfEra % 4 := by omega
    have hlt : yearOfEra % 4 < 4 := by omega
    have hsplit : yearOfEra = 4 * (yearOfEra / 4) + yearOfEra % 4 := by omega
    generalize yearOfEra % 4 = r at *
    generalize hera : dayOfEra / 36524 = century at *
    interval_cases r <;> interval_cases century <;> omega
  refine ⟨by omega, ?_⟩
  generalize hera : dayOfEra / 36524 = century at *
  interval_cases century <;> omega

/-- The place of a day in the calendar: its era, its year within the era, and its day within the
year, which begins in March. -/
structure Place where
  era : Int
  year : Int
  day : Int
  year_nonneg : 0 ≤ year
  year_le : year ≤ 399
  day_nonneg : 0 ≤ day
  day_le : day ≤ 365
  leap_of_day : day = 365 → (year + 1) % 4 = 0 ∧ ((year + 1) % 100 ≠ 0 ∨ year = 399)

namespace Place

/-- The day number of a place. -/
def days (p : Place) : Int :=
  p.era * 146097 + (365 * p.year + p.year / 4 - p.year / 100 + p.day) - 719468

/-- The month of a place, counted from March as zero. -/
def month (p : Place) : Int := (5 * p.day + 2) / 153

/-- The date of a place. -/
def date (p : Place) : Date where
  year := p.year + p.era * 400 + if p.month < 10 then 0 else 1
  month := (if p.month < 10 then p.month + 3 else p.month - 9).toNat
  day := (p.day - (153 * p.month + 2) / 5 + 1).toNat

/-- Up to December the year of the calendar is that of the place. -/
lemma date_of_lt {p : Place} (h : p.month < 10) :
    p.date = ⟨p.year + p.era * 400, (p.month + 3).toNat,
      (p.day - (153 * p.month + 2) / 5 + 1).toNat⟩ := by
  simp only [date, if_pos h, Int.add_zero]

/-- January and February belong to the next year of the calendar. -/
lemma date_of_not_lt {p : Place} (h : ¬ p.month < 10) :
    p.date = ⟨p.year + p.era * 400 + 1, (p.month - 9).toNat,
      (p.day - (153 * p.month + 2) / 5 + 1).toNat⟩ := by
  simp only [date, if_neg h]

/-- There are twelve months. -/
lemma month_bounds (p : Place) : 0 ≤ p.month ∧ p.month ≤ 11 := by
  have h0 := p.day_nonneg
  have h1 := p.day_le
  unfold month
  omega

/-- The date of a place exists. -/
lemma exists_date (p : Place) : p.date.exists := by
  obtain ⟨hlow, hhigh⟩ := p.month_bounds
  have h0 := p.day_nonneg
  have h1 := p.day_le
  have hleap := p.leap_of_day
  have hyear := p.year_le
  have hmonth : p.month = (5 * p.day + 2) / 153 := rfl
  rw [Date.exists_iff]
  -- The months differ in length, and only the last one depends on the year.
  by_cases hmarch : p.month < 10
  · rw [date_of_lt hmarch]
    generalize p.month = month at *
    interval_cases month <;> simp [daysInMonth] <;> omega
  · rw [date_of_not_lt hmarch]
    generalize p.month = month at *
    interval_cases month <;> simp [daysInMonth, isLeapYear]
    · omega
    · split_ifs <;> omega

/-- The date of a place has the day number of the place. -/
lemma toDays_date (p : Place) : p.date.toDays = p.days := by
  obtain ⟨hlow, hhigh⟩ := p.month_bounds
  have h0 := p.day_nonneg
  have hlast := p.year_nonneg
  have hyear := p.year_le
  have hmonth : p.month = (5 * p.day + 2) / 153 := rfl
  by_cases hmarch : p.month < 10
  · rw [date_of_lt hmarch]
    simp only [Date.toDays, days, daysPerEra, epochShift]
    rw [if_neg (by omega), Int.toNat_of_nonneg (by omega), Int.toNat_of_nonneg (by omega)]
    omega
  · rw [date_of_not_lt hmarch]
    simp only [Date.toDays, days, daysPerEra, epochShift]
    rw [if_pos (by omega), Int.toNat_of_nonneg (by omega), Int.toNat_of_nonneg (by omega)]
    omega

end Place

/-- Every day has its place, where its date is. -/
lemma exists_place (days : Int) : ∃ p : Place, p.days = days ∧ Date.ofDays days = p.date := by
  have h0 : 0 ≤ (days + epochShift) % daysPerEra := by simp only [daysPerEra]; omega
  have h1 : (days + epochShift) % daysPerEra < 146097 := by simp only [daysPerEra]; omega
  obtain ⟨hstart, hend, hlow, hhigh⟩ := day_in_year h0 h1 rfl
  have hleap := leap_of_last_day h0 h1 rfl
  generalize hyear : ((days + epochShift) % daysPerEra -
    (days + epochShift) % daysPerEra / 1460 + (days + epochShift) % daysPerEra / 36524 -
      (days + epochShift) % daysPerEra / 146096) / 365 = year at *
  let p : Place :=
    { era := (days + epochShift) / daysPerEra
      year := year
      day := (days + epochShift) % daysPerEra - (365 * year + year / 4 - year / 100)
      year_nonneg := hlow
      year_le := hhigh
      day_nonneg := by omega
      day_le := by omega
      leap_of_day := fun h => hleap (by omega) }
  refine ⟨p, ?_, ?_⟩
  · simp only [p, Place.days, epochShift, daysPerEra]
    omega
  · simp only [Date.ofDays, hyear]
    by_cases hmarch : (5 * ((days + epochShift) % daysPerEra -
      (365 * year + year / 4 - year / 100)) + 2) / 153 < 10
    · rw [Place.date_of_lt (p := p) hmarch]
      simp only [if_pos hmarch]
      rw [if_neg (by omega)]
      rfl
    · rw [Place.date_of_not_lt (p := p) hmarch]
      simp only [if_neg hmarch]
      rw [if_pos (by omega)]
      rfl

namespace Date

/-- The date of a day number exists. -/
theorem exists_ofDays (days : Int) : (ofDays days).exists := by
  obtain ⟨p, -, hdate⟩ := exists_place days
  exact hdate ▸ p.exists_date

/-- The date of a day number has this day number. -/
theorem toDays_ofDays (days : Int) : (ofDays days).toDays = days := by
  obtain ⟨p, hdays, hdate⟩ := exists_place days
  rw [hdate, p.toDays_date, hdays]

end Date

end MailCollector.Calendar
