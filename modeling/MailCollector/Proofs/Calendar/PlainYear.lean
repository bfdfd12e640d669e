import MailCollector.Calendar.Rfc3339
import Mathlib.Tactic.Common
import Mathlib.Tactic.SplitIfs
import Mathlib.Tactic.IntervalCases
import Mathlib.Tactic.Ring

/-!
# Instants in years of four digits

The date line of a mail has room for the years 0 to 9999 of universal time.  These are the days from
`firstPlainDay` to `lastPlainDay` (`ofDays_year`).  A text that is read as an instant has a date in
one of these years too, but its offset may carry it over one of the two ends, and this is the only
way out of them (`Rfc3339.parse?_hasPlainYear`).
-/

namespace MailCollector.Calendar

/-! ### Days of years of four digits -/

/-- The day number of 1 January of the year 0. -/
def firstPlainDay : Int := -719528

/-- The day number of 31 December of the year 9999. -/
def lastPlainDay : Int := 2932896

/-- The century of a year within its era, from the day within the era. -/
lemma century_of_day {dayOfEra yearOfEra : Int} (h0 : 0 ≤ dayOfEra) (h1 : dayOfEra < 146097)
    (hyear : yearOfEra =
      (dayOfEra - dayOfEra / 1460 + dayOfEra / 36524 - dayOfEra / 146096) / 365) :
    yearOfEra / 100 = dayOfEra / 36524 - dayOfEra / 146096 := by
  have hlow : 0 ≤ dayOfEra / 36524 := by omega
  have hhigh : dayOfEra / 36524 ≤ 4 := by omega
  generalize hcentury : dayOfEra / 36524 = century at *
  interval_cases century <;> omega

/-- The day within the era lies in the year that is computed from it. -/
lemma day_in_year {dayOfEra yearOfEra : Int} (h0 : 0 ≤ dayOfEra) (h1 : dayOfEra < 146097)
    (hyear : yearOfEra =
      (dayOfEra - dayOfEra / 1460 + dayOfEra / 36524 - dayOfEra / 146096) / 365) :
    365 * yearOfEra + yearOfEra / 4 - yearOfEra / 100 ≤ dayOfEra ∧
      dayOfEra ≤ 365 * (yearOfEra + 1) + yearOfEra / 4 - yearOfEra / 100 ∧
      0 ≤ yearOfEra ∧ yearOfEra ≤ 399 := by
  have hcentury := century_of_day h0 h1 hyear
  omega

/-- The year of a day, from its era and the day within the era. -/
lemma ofDays_year_eq {days era dayOfEra : Int} (h0 : 0 ≤ dayOfEra) (h1 : dayOfEra < 146097)
    (hdays : days + 719468 = era * 146097 + dayOfEra) :
    ∃ yearOfEra ≤ 399, 0 ≤ yearOfEra ∧
      (Date.ofDays days).year = yearOfEra + era * 400 +
        (if dayOfEra < 365 * yearOfEra + yearOfEra / 4 - yearOfEra / 100 + 306 then 0 else 1) ∧
      365 * yearOfEra + yearOfEra / 4 - yearOfEra / 100 ≤ dayOfEra ∧
      dayOfEra ≤ 365 * (yearOfEra + 1) + yearOfEra / 4 - yearOfEra / 100 := by
  obtain ⟨hstart, hend, hlow, hhigh⟩ := day_in_year h0 h1 rfl
  have hera : (days + epochShift) / daysPerEra = era := by
    simp only [epochShift, daysPerEra]
    omega
  have hday : (days + epochShift) % daysPerEra = dayOfEra := by
    simp only [epochShift, daysPerEra]
    omega
  refine ⟨_, hhigh, hlow, ?_, hstart, hend⟩
  unfold Date.ofDays
  simp only [hera, hday]
  generalize (dayOfEra - dayOfEra / 1460 + dayOfEra / 36524 - dayOfEra / 146096) / 365 =
    yearOfEra at *
  generalize hmonth : (5 * (dayOfEra - (365 * yearOfEra + yearOfEra / 4 - yearOfEra / 100)) + 2) /
    153 = marchMonth
  by_cases hmarch : marchMonth < 10
  · rw [if_pos hmarch, if_neg (by omega), if_pos (by omega)]
    omega
  · rw [if_neg hmarch, if_pos (by omega), if_neg (by omega)]

/-- The days whose year has four digits. -/
lemma ofDays_year (days : Int) :
    (0 ≤ (Date.ofDays days).year ∧ (Date.ofDays days).year ≤ 9999) ↔
      firstPlainDay ≤ days ∧ days ≤ lastPlainDay := by
  have hdays : days + 719468 = (days + 719468) / 146097 * 146097 + (days + 719468) % 146097 := by
    omega
  obtain ⟨yearOfEra, hhigh, hlow, hyear, hstart, hend⟩ :=
    ofDays_year_eq (by omega) (by omega) hdays
  rw [hyear, firstPlainDay, lastPlainDay]
  -- Only January and February of the last year of an era belong to the next century.
  rcases Int.lt_or_eq_of_le hhigh with hbefore | rfl
  · split_ifs <;> omega
  · split_ifs <;> omega

/-- Where a date lies in its year, which begins with March. -/
lemma day_bounds {date : Date} (hexists : date.exists) :
    let day := (153 * (((date.month : Int) + 9) % 12) + 2) / 5 + date.day - 1
    (3 ≤ date.month ∧ date.month ≤ 12 ∧ 0 ≤ day ∧ day ≤ 305 ∧
        (day = 305 ↔ date.month = 12 ∧ date.day = 31)) ∨
      (1 ≤ date.month ∧ date.month ≤ 2 ∧ 306 ≤ day ∧ day ≤ 365 ∧
        (day = 306 ↔ date.month = 1 ∧ date.day = 1)) := by
  obtain ⟨year, month, day⟩ := date
  simp only [Date.exists, Bool.and_eq_true, decide_eq_true_eq] at hexists
  obtain ⟨hday, hlength⟩ := hexists
  have hmonth : 1 ≤ month ∧ month ≤ 12 := by
    unfold daysInMonth at hlength
    split at hlength <;> omega
  obtain ⟨hfirst, hlast⟩ := hmonth
  have hfebruary : (if isLeapYear year then 29 else 28) ≤ 29 := by split <;> decide
  interval_cases month <;> simp only [daysInMonth] at hlength <;> dsimp only <;> omega

/-- The day numbers of dates in years of four digits.  Only one of them is the first one, and only
one is the last one. -/
lemma toDays_bounds {date : Date} (hexists : date.exists) (h0 : 0 ≤ date.year)
    (h1 : date.year ≤ 9999) :
    firstPlainDay ≤ date.toDays ∧ date.toDays ≤ lastPlainDay ∧
      (date.toDays = firstPlainDay ↔ date = ⟨0, 1, 1⟩) ∧
      (date.toDays = lastPlainDay ↔ date = ⟨9999, 12, 31⟩) := by
  have hbounds := day_bounds hexists
  obtain ⟨year, month, day⟩ := date
  simp only [Date.mk.injEq, Date.toDays, firstPlainDay, lastPlainDay, epochShift,
    daysPerEra] at h0 h1 hbounds ⊢
  generalize (153 * (((month : Int) + 9) % 12) + 2) / 5 + (day : Int) - 1 = dayOfYear at hbounds ⊢
  -- January and February count to the year before.
  rcases hbounds with ⟨hlow, -, hbounds⟩ | ⟨-, hhigh, hbounds⟩
  · rw [if_neg (by omega)]
    rcases Int.lt_or_eq_of_le h1 with hyear | rfl
    · omega
    · omega
  · rw [if_pos hhigh]
    omega

/-! ### Readings of a clock -/

/-- The day of an instant that is given by a date, a clock reading and an offset. -/
lemma ofClock?_days {date : Date} {hour minute second nanos : ℕ} {offset : Int} {t : Instant}
    (ht : Instant.ofClock? date hour minute second nanos offset = some t) :
    date.exists ∧ hour ≤ 23 ∧ minute ≤ 59 ∧
      t.days = date.toDays + (hour * 60 + minute - offset) / 1440 := by
  unfold Instant.ofClock? at ht
  split at ht
  · rename_i hreading
    refine ⟨hreading.2.2, hreading.1, hreading.2.1, ?_⟩
    dsimp only at ht
    split at ht
    · split at ht
      · cases ht
        simp only [Instant.days]
        omega
      · cases ht
    · split at ht
      · split at ht
        · cases ht
          simp only [Instant.days]
          omega
        · cases ht
      · cases ht
  · cases ht

/-- The instant is given by a date and a clock reading in a year of four digits, but the offset
carries it over one of the two ends of these years. -/
def Instant.CarriedOut (t : Instant) : Prop :=
  ∃ (date : Date) (hour minute second nanos : ℕ) (offset : Int),
    offset.natAbs < 1440 ∧ ofClock? date hour minute second nanos offset = some t ∧
      (date = ⟨0, 1, 1⟩ ∧ hour * 60 + minute - offset < 0 ∨
        date = ⟨9999, 12, 31⟩ ∧ 1440 ≤ hour * 60 + minute - offset)

/-- An instant that is given by a date and a clock reading in a year of four digits lies in such a
year, unless the offset carries it over one of the two ends. -/
theorem ofClock?_hasPlainYear {date : Date} {hour minute second nanos : ℕ} {offset : Int}
    {t : Instant} (h0 : 0 ≤ date.year) (h1 : date.year ≤ 9999) (hoffset : offset.natAbs < 1440)
    (ht : Instant.ofClock? date hour minute second nanos offset = some t) :
    t.hasPlainYear ↔
      ¬ (date = ⟨0, 1, 1⟩ ∧ hour * 60 + minute - offset < 0 ∨
        date = ⟨9999, 12, 31⟩ ∧ 1440 ≤ hour * 60 + minute - offset) := by
  obtain ⟨hexists, hhour, hminute, hdays⟩ := ofClock?_days ht
  obtain ⟨hfirst, hlast, hfirst', hlast'⟩ := toDays_bounds hexists h0 h1
  rw [Instant.hasPlainYear, Bool.and_eq_true, decide_eq_true_eq, decide_eq_true_eq, Instant.date,
    ofDays_year, hdays, ← hfirst', ← hlast']
  simp only [firstPlainDay, lastPlainDay] at *
  omega

namespace Rfc3339

/-- A number of so many digits is less than the power of ten. -/
lemma number_lt {count acc n : ℕ} {cs rest : List Char} (h : number count acc cs = some (n, rest)) :
    n < (acc + 1) * 10 ^ count := by
  induction count generalizing acc cs with
  | zero =>
    cases h
    simp
  | succ count ih =>
    cases cs with
    | nil => cases h
    | cons c cs =>
      obtain ⟨d, hd, hrest⟩ := Option.bind_eq_some_iff.1 h
      have hdigit : d ≤ 9 := by
        unfold Text.digitValue? at hd
        split at hd
        · rename_i hc
          have hnine : c.toNat ≤ '9'.toNat := hc.2
          have hd' : c.toNat - 48 = d := Option.some.inj hd
          have hnine' : '9'.toNat = 57 := rfl
          omega
        · cases hd
      calc n < (acc * 10 + d + 1) * 10 ^ count := ih hrest
        _ ≤ ((acc + 1) * 10) * 10 ^ count := Nat.mul_le_mul_right _ (by omega)
        _ = (acc + 1) * 10 ^ (count + 1) := by rw [Nat.pow_succ']; ring

/-- An offset is below a day. -/
lemma readOffset_lt {offset : Int} {cs rest : List Char}
    (h : readOffset cs = some (offset, rest)) : offset.natAbs < 1440 := by
  have hsigned : ∀ sign : Int, sign.natAbs = 1 → ∀ cs,
      readOffset.signed sign cs = some (offset, rest) → offset.natAbs < 1440 := by
    intro sign hsign cs h
    simp only [readOffset.signed, Option.bind_eq_bind, Option.bind_eq_some_iff, Prod.exists] at h
    obtain ⟨hours, cs₁, -, cs₂, -, minutes, cs₃, -, h⟩ := h
    split at h
    · obtain ⟨rfl, -⟩ := Prod.mk.inj (Option.some.inj h)
      rw [Int.natAbs_mul, hsign]
      omega
    · cases h
  unfold readOffset at h
  split at h
  · cases h
    decide
  · cases h
    decide
  · exact hsigned 1 rfl _ h
  · exact hsigned (-1) rfl _ h
  · exact hsigned (-1) rfl _ h
  · cases h

/-- What a text is read as: a date in a year of four digits, a reading of a clock, and an offset
below a day. -/
lemma parse?_eq_ofClock? {s : String} {t : Instant} (ht : parse? s = some t) :
    ∃ (date : Date) (hour minute second nanos : ℕ) (offset : Int),
      0 ≤ date.year ∧ date.year ≤ 9999 ∧ offset.natAbs < 1440 ∧
        Instant.ofClock? date hour minute second nanos offset = some t := by
  unfold parse? at ht
  -- One after another, the parts of the date, those of the time, and the offset.
  obtain ⟨⟨year, _⟩, hyear, ht⟩ := Option.bind_eq_some_iff.1 ht
  obtain ⟨_, -, ht⟩ := Option.bind_eq_some_iff.1 ht
  obtain ⟨⟨month, _⟩, -, ht⟩ := Option.bind_eq_some_iff.1 ht
  obtain ⟨_, -, ht⟩ := Option.bind_eq_some_iff.1 ht
  obtain ⟨⟨day, _⟩, -, ht⟩ := Option.bind_eq_some_iff.1 ht
  obtain ⟨_, -, ht⟩ := Option.bind_eq_some_iff.1 ht
  obtain ⟨⟨hour, _⟩, -, ht⟩ := Option.bind_eq_some_iff.1 ht
  obtain ⟨_, -, ht⟩ := Option.bind_eq_some_iff.1 ht
  obtain ⟨⟨minute, _⟩, -, ht⟩ := Option.bind_eq_some_iff.1 ht
  obtain ⟨_, -, ht⟩ := Option.bind_eq_some_iff.1 ht
  obtain ⟨⟨second, _⟩, -, ht⟩ := Option.bind_eq_some_iff.1 ht
  obtain ⟨⟨nanos, _⟩, -, ht⟩ := Option.bind_eq_some_iff.1 ht
  obtain ⟨⟨offset, _⟩, hoffset, ht⟩ := Option.bind_eq_some_iff.1 ht
  dsimp only at ht
  split at ht
  · have hyear' : year < 10 ^ 4 := by simpa using number_lt hyear
    exact ⟨_, _, _, _, _, _, by simp, by simp; omega, readOffset_lt hoffset, ht⟩
  · cases ht

/-- A text is read as an instant in a year of four digits, unless its offset carries it out of these
years. -/
theorem parse?_hasPlainYear {s : String} {t : Instant} (ht : parse? s = some t) :
    t.hasPlainYear = false ↔ t.CarriedOut := by
  rw [← Bool.not_eq_true]
  constructor
  · obtain ⟨date, hour, minute, second, nanos, offset, h0, h1, hoffset, hclock⟩ :=
      parse?_eq_ofClock? ht
    intro hyear
    rw [ofClock?_hasPlainYear h0 h1 hoffset hclock, not_not] at hyear
    exact ⟨date, hour, minute, second, nanos, offset, hoffset, hclock, hyear⟩
  · rintro ⟨date, hour, minute, second, nanos, offset, hoffset, hclock, hout⟩
    have hdate : 0 ≤ date.year ∧ date.year ≤ 9999 := by
      rcases hout with ⟨rfl, -⟩ | ⟨rfl, -⟩ <;> decide
    rw [ofClock?_hasPlainYear hdate.1 hdate.2 hoffset hclock, not_not]
    exact hout

end Rfc3339

end MailCollector.Calendar
