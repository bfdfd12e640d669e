import MailCollector.Proofs.Calendar.CivilDays
import MailCollector.Proofs.Text.Numerals

/-!
# Instants read back from their text

The text of an instant in a year of four digits is read as the date and the clock reading that it
shows, whatever its precision and however its offset is written (`Rfc3339.parse?_format`).  With a
fraction of shortest form this is the instant itself (`Rfc3339.parse?_format_shortest`), on every
day of these years and in leap seconds too.
-/

namespace MailCollector.Calendar

open MailCollector.Text

/-! ### The clock -/

namespace Instant

/-- What the clock shows at an instant. -/
lemma clock_bounds (t : Instant) :
    t.hour ≤ 23 ∧ t.minute ≤ 59 ∧ t.second ≤ 60 ∧ t.fraction < nanosPerSecond := by
  have hnanos := t.nanos_lt
  have hleap := t.leap_at_end
  simp only [hour, minute, second, fraction, secondOfDay, nanosPerSecond] at *
  omega

/-- The date and the clock reading of an instant give its second, with any fraction. -/
lemma ofClock?_clock (t : Instant) {kept : ℕ} (hkept : kept < nanosPerSecond) :
    ∃ w, ofClock? t.date t.hour t.minute t.second kept 0 = some w ∧ w.seconds = t.seconds ∧
      w.nanos = kept + t.nanos / nanosPerSecond * nanosPerSecond := by
  obtain ⟨hhour, hminute, -, -⟩ := t.clock_bounds
  have hnanos := t.nanos_lt
  have hleap := t.leap_at_end
  have hexists : t.date.exists := Date.exists_ofDays t.days
  have hdays : t.date.toDays = t.seconds / 86400 := Date.toDays_ofDays t.days
  rw [ofClock?, if_pos ⟨hhour, hminute, hexists⟩]
  by_cases hordinary : t.nanos < nanosPerSecond
  · have hsecond : t.second ≤ 59 := by
      simp only [second, secondOfDay, nanosPerSecond] at *
      omega
    rw [if_pos hsecond, dif_pos hkept]
    refine ⟨_, rfl, ?_, ?_⟩
    · simp only [hdays, hour, minute, second, secondOfDay, nanosPerSecond] at *
      omega
    · rw [Nat.div_eq_of_lt hordinary, Nat.zero_mul, Nat.add_zero]
  · have hend : t.seconds % 60 = 59 := hleap (Nat.le_of_not_lt hordinary)
    have hone : t.nanos / nanosPerSecond = 1 := by
      simp only [nanosPerSecond] at *
      omega
    have hsecond : t.second = 60 := by
      simp only [second, secondOfDay, hone]
      omega
    rw [if_neg (by omega), if_pos hsecond, dif_pos hkept]
    refine ⟨_, rfl, ?_, ?_⟩
    · simp only [hdays, hour, minute, secondOfDay]
      omega
    · rw [hone, Nat.one_mul]

/-- The date and the clock reading of an instant give the instant. -/
lemma ofClock?_fraction (t : Instant) :
    ofClock? t.date t.hour t.minute t.second t.fraction 0 = some t := by
  obtain ⟨w, hw, hseconds, hnanos⟩ := t.ofClock?_clock t.clock_bounds.2.2.2
  have hsame : w.nanos = t.nanos := by rw [hnanos, fraction, Nat.mul_comm, Nat.mod_add_div]
  obtain ⟨seconds, nanos, _, _⟩ := w
  obtain ⟨seconds', nanos', _, _⟩ := t
  obtain rfl : seconds = seconds' := hseconds
  obtain rfl : nanos = nanos' := hsame
  exact hw

end Instant

namespace Rfc3339

/-! ### Digits -/

/-- A reader that takes one digit after another goes through a padded numeral and has its value. -/
lemma read_padded {α : Type} (read : (count acc : ℕ) → List Char → α)
    (hdigit : ∀ count acc n rest,
      read (count + 1) acc (digitChar n :: rest) = read count (acc * 10 + n % 10) rest)
    (width count acc n : ℕ) (rest : List Char) :
    read (width + count) acc (padded width n ++ rest) =
      read count (acc * 10 ^ width + n % 10 ^ width) rest := by
  induction width generalizing count n rest with
  | zero => simp [padded, Nat.mod_one]
  | succ width ih =>
    have hvalue : acc * 10 ^ (width + 1) + n % 10 ^ (width + 1) =
        (acc * 10 ^ width + n / 10 % 10 ^ width) * 10 + n % 10 := by
      rw [Nat.pow_succ', Nat.mod_mul]
      ring
    rw [padded, List.append_assoc, Nat.add_right_comm, Nat.add_assoc, ih, hvalue, List.cons_append,
      hdigit, List.nil_append]

/-- A padded numeral is read as its number, if it has room for it. -/
lemma number_padded_self {width n : ℕ} (rest : List Char) (h : n < 10 ^ width) :
    number width 0 (padded width n ++ rest) = some (n, rest) := by
  have hdigit : ∀ count acc n rest,
      number (count + 1) acc (digitChar n :: rest) = number count (acc * 10 + n % 10) rest := by
    intro count acc n rest
    rw [number, digitValue?_digitChar]
    rfl
  have hread := read_padded number hdigit width 0 0 n rest
  rwa [Nat.add_zero, Nat.zero_mul, Nat.zero_add, Nat.mod_eq_of_lt h] at hread

/-- The rest of a text after its time is the offset zero. -/
def offsetText : ZeroOffset → List Char
  | .letter => ['Z']
  | .digits => ['+', '0', '0', ':', '0', '0']

/-- The digits of a fraction are read as its value in nanoseconds. -/
lemma readFraction_padded {width count n : ℕ} (hwidth : width + 1 + count = 9)
    (h : n < 10 ^ (width + 1)) (zero : ZeroOffset) :
    readFraction ('.' :: (padded (width + 1) n ++ offsetText zero)) =
      some (n * 10 ^ count, offsetText zero) := by
  have hdigit : ∀ count acc n rest, fractionDigits (count + 1) acc (digitChar n :: rest) =
      fractionDigits count (acc * 10 + n % 10) rest := by
    intro count acc n rest
    rw [fractionDigits, digitValue?_digitChar]
  have hread := read_padded fractionDigits hdigit (width + 1) count 0 n (offsetText zero)
  rw [hwidth, Nat.zero_mul, Nat.zero_add, Nat.mod_eq_of_lt h] at hread
  have hend : fractionDigits count n (offsetText zero) = (n * 10 ^ count, offsetText zero) := by
    cases zero <;> cases count <;> simp [fractionDigits, offsetText, digitValue?]
  rw [padded_succ, List.cons_append] at hread ⊢
  rw [readFraction, digitValue?_digitChar, Option.isSome_some, if_pos rfl, hread, hend]

/-- A fraction in its shortest form is read as itself. -/
lemma readFraction_fractionText {nanos : ℕ} (h : nanos < nanosPerSecond) (zero : ZeroOffset) :
    readFraction (fractionText nanos ++ offsetText zero) = some (nanos, offsetText zero) := by
  simp only [nanosPerSecond] at h
  unfold fractionText
  split_ifs with hzero hmillis hmicros
  · subst hzero
    cases zero <;> rfl
  · rw [List.cons_append, readFraction_padded (show 2 + 1 + 6 = 9 from rfl) (by omega)]
    simp only [Option.some.injEq, Prod.mk.injEq, and_true]
    omega
  · rw [List.cons_append, readFraction_padded (show 5 + 1 + 3 = 9 from rfl) (by omega)]
    simp only [Option.some.injEq, Prod.mk.injEq, and_true]
    omega
  · rw [List.cons_append, readFraction_padded (show 8 + 1 + 0 = 9 from rfl) (by omega)]
    simp

/-! ### The main results -/

/-- The nanoseconds that a text of some precision keeps. -/
def kept (precision : Precision) (t : Instant) : ℕ :=
  match precision with
  | .seconds => 0
  | .shortest => t.fraction

/-- The characters of the text of an instant in a year of four digits. -/
lemma toList_format (precision : Precision) (zero : ZeroOffset) {t : Instant}
    (hyear : 0 ≤ t.date.year ∧ t.date.year ≤ 9999) :
    (format precision zero t).toList =
      padded 4 t.date.year.toNat ++ '-' :: (padded 2 t.date.month ++ '-' :: (padded 2 t.date.day ++
        'T' :: (padded 2 t.hour ++ ':' :: (padded 2 t.minute ++ ':' :: (padded 2 t.second ++
          (fractionText (kept precision t) ++ offsetText zero)))))) := by
  have hnone : fractionText 0 = [] := rfl
  cases precision <;> cases zero <;> simp [format, yearText, hyear, kept, offsetText, hnone]

/-- A part that is read hands its value to the rest. -/
lemma bind_eq_of_some {α β : Type} {read : Option α} {rest : α → Option β} {a : α}
    {result : Option β} (hread : read = some a) (hrest : rest a = result) : read >>= rest = result := by
  rw [hread]
  exact hrest

/-- Padded numerals in their places are read as the date and the clock reading that they show. -/
lemma parse?_padded {s : String} {year month day hour minute second nanos : ℕ} {zero : ZeroOffset}
    (hs : s.toList =
      padded 4 year ++ '-' :: (padded 2 month ++ '-' :: (padded 2 day ++
        'T' :: (padded 2 hour ++ ':' :: (padded 2 minute ++ ':' :: (padded 2 second ++
          (fractionText nanos ++ offsetText zero)))))))
    (hyear : year < 10 ^ 4) (hmonth : month < 10 ^ 2) (hday : day < 10 ^ 2) (hhour : hour < 10 ^ 2)
    (hminute : minute < 10 ^ 2) (hsecond : second < 10 ^ 2) (hnanos : nanos < nanosPerSecond) :
    parse? s = Instant.ofClock? ⟨year, month, day⟩ hour minute second nanos 0 := by
  have hexpect : ∀ c cs, expect c (c :: cs) = some cs := fun _ _ => if_pos rfl
  have hseparator : ∀ cs, readSeparator ('T' :: cs) = some cs := fun _ => rfl
  have hoffset : readOffset (offsetText zero) = some (0, []) := by
    cases zero <;> rfl
  rw [parse?, hs]
  refine bind_eq_of_some (number_padded_self _ hyear) ?_
  refine bind_eq_of_some (hexpect '-' _) (bind_eq_of_some (number_padded_self _ hmonth) ?_)
  refine bind_eq_of_some (hexpect '-' _) (bind_eq_of_some (number_padded_self _ hday) ?_)
  refine bind_eq_of_some (hseparator _) (bind_eq_of_some (number_padded_self _ hhour) ?_)
  refine bind_eq_of_some (hexpect ':' _) (bind_eq_of_some (number_padded_self _ hminute) ?_)
  refine bind_eq_of_some (hexpect ':' _) (bind_eq_of_some (number_padded_self _ hsecond) ?_)
  refine bind_eq_of_some (readFraction_fractionText hnanos zero) ?_
  exact bind_eq_of_some hoffset rfl

/-- The text of an instant in a year of four digits is read as the date and the clock reading that
it shows. -/
theorem parse?_format (precision : Precision) (zero : ZeroOffset) {t : Instant}
    (hyear : t.hasPlainYear) :
    parse? (format precision zero t) =
      Instant.ofClock? t.date t.hour t.minute t.second (kept precision t) 0 := by
  obtain ⟨hhour, hminute, hsecond, hfraction⟩ := t.clock_bounds
  obtain ⟨hmonth, hday⟩ := Date.bounds_of_exists (Date.exists_ofDays t.days)
  change t.date.month ≤ 12 at hmonth
  change t.date.day ≤ 31 at hday
  have hkept : kept precision t < nanosPerSecond := by
    cases precision with
    | seconds => exact (by decide : 0 < nanosPerSecond)
    | shortest => exact hfraction
  rw [Instant.hasPlainYear, Bool.and_eq_true, decide_eq_true_eq, decide_eq_true_eq] at hyear
  have hdate : (⟨t.date.year.toNat, t.date.month, t.date.day⟩ : Date) = t.date := by
    rw [Int.toNat_of_nonneg hyear.1]
  rw [parse?_padded (toList_format precision zero hyear) (by omega) (by omega) (by omega)
    (by omega) (by omega) (by omega) hkept, hdate]

/-- The text of an instant in a year of four digits is read as this instant. -/
theorem parse?_format_shortest (zero : ZeroOffset) {t : Instant} (hyear : t.hasPlainYear) :
    parse? (format .shortest zero t) = some t :=
  (parse?_format .shortest zero hyear).trans t.ofClock?_fraction

/-- A text that does not begin with a digit is not read. -/
lemma parse?_eq_none {s : String} {c : Char} {cs : List Char} (hs : s.toList = c :: cs)
    (hc : digitValue? c = none) : parse? s = none := by
  have hyear : number 4 0 (c :: cs) = none := by
    rw [number, hc]
    rfl
  rw [parse?, hs, hyear]
  rfl

/-- The text of an instant in any other year begins with a sign and is not read. -/
lemma parse?_format_of_not_plain (precision : Precision) (zero : ZeroOffset) {t : Instant}
    (hyear : ¬ t.hasPlainYear) : parse? (format precision zero t) = none := by
  have hother : ¬ (0 ≤ t.date.year ∧ t.date.year ≤ 9999) := by
    simpa only [Instant.hasPlainYear, Bool.and_eq_true, decide_eq_true_eq] using hyear
  obtain ⟨rest, hsign⟩ : ∃ rest, (format precision zero t).toList =
      (if t.date.year < 0 then '-' else '+') :: rest := by
    unfold format yearText
    rw [String.toList_ofList, if_neg hother]
    exact ⟨_, rfl⟩
  refine parse?_eq_none hsign ?_
  split <;> rfl

/-- No text of an instant is read as another instant. -/
theorem eq_of_parse?_format_shortest {zero : ZeroOffset} {t u : Instant}
    (h : parse? (format .shortest zero t) = some u) : u = t := by
  by_cases hyear : t.hasPlainYear
  · rw [parse?_format_shortest zero hyear] at h
    exact (Option.some.inj h).symm
  · rw [parse?_format_of_not_plain .shortest zero hyear] at h
    cases h

/-- Cut to whole seconds, the text of an instant in a year of four digits is read as the beginning
of the second in which the instant lies.  A leap second has its own beginning. -/
theorem parse?_format_seconds (zero : ZeroOffset) {t : Instant} (hyear : t.hasPlainYear) :
    ∃ w, parse? (format .seconds zero t) = some w ∧ w.seconds = t.seconds ∧
      w.nanos = t.nanos / nanosPerSecond * nanosPerSecond := by
  obtain ⟨w, hw, hseconds, hnanos⟩ := t.ofClock?_clock (by decide : 0 < nanosPerSecond)
  refine ⟨w, (parse?_format .seconds zero hyear).trans hw, hseconds, ?_⟩
  rw [hnanos, Nat.zero_add]

end Rfc3339

end MailCollector.Calendar
